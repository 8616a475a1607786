/-!
# Hexadecimal

Numbers written in base sixteen with lower-case digits and a fixed number of places, and octets
written as two such digits each.
-/

namespace ScriptVet.Text

/-- The digit of a value below sixteen. -/
def hexDigit (n : Nat) : Char :=
  if n < 10 then Char.ofNat (48 + n) else Char.ofNat (87 + n)

/-- The lowest places of a number. -/
def hexPlaces : Nat → Nat → List Char
  | 0, _ => []
  | places + 1, n => hexPlaces places (n / 16) ++ [hexDigit (n % 16)]

/-- The value of a digit in either case. -/
def hexValue? (c : Char) : Option Nat :=
  if '0' ≤ c && c ≤ '9' then some (c.toNat - 48)
  else if 'a' ≤ c && c ≤ 'f' then some (c.toNat - 87)
  else if 'A' ≤ c && c ≤ 'F' then some (c.toNat - 55)
  else none

/-- The number that digits in either case write. -/
def hexNumber? (cs : List Char) : Option Nat :=
  cs.foldlM (fun value c => (hexValue? c).map (16 * value + ·)) 0

/-- Octets as digits. -/
def hexOfBytes (bytes : List UInt8) : String :=
  String.ofList (bytes.flatMap fun b => hexPlaces 2 b.toNat)

/-- The octets that pairs of digits write. -/
def bytesOfHexDigits : List Char → List UInt8
  | high :: low :: rest =>
    UInt8.ofNat (16 * (hexValue? high).getD 0 + (hexValue? low).getD 0) :: bytesOfHexDigits rest
  | _ => []

/-- The octets that pairs of digits write, with spaces allowed between the pairs. -/
def bytesOfHex (s : String) : List UInt8 :=
  bytesOfHexDigits (s.toList.filter fun c => (hexValue? c).isSome)

@[simp] theorem length_hexPlaces (places n : Nat) : (hexPlaces places n).length = places := by
  induction places generalizing n with
  | zero => rfl
  | succ places ih => simp [hexPlaces, ih]

end ScriptVet.Text
