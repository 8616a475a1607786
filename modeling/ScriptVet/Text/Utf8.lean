/-!
# UTF-8

Text as octets. Files are read strictly: octets that are not UTF-8 are no text. What a tool prints
is read leniently: every longest run of octets that begins a character and cannot be completed is
read as one replacement character, and so is every octet that begins none.

Both readers take one octet at a time and remember what the character under way still owes.
-/

namespace ScriptVet.Text.Utf8

/-- A character under way: how many octets it still owes, between which bounds the next one has to
lie, and the value of the octets so far. -/
structure Pending where
  owed : Nat
  low : UInt8
  high : UInt8
  value : Nat
  deriving Repr, DecidableEq

/-- What an octet at the start of a character means. -/
inductive Lead where
  | whole (c : Char)
  | owes (p : Pending)
  | refused
  deriving Repr, DecidableEq

/-- The first octet of a character decides its length and the bounds of the second octet. -/
def lead (b : UInt8) : Lead :=
  if b < 0x80 then .whole (Char.ofNat b.toNat)
  else if b < 0xC2 then .refused
  else if b < 0xE0 then .owes ⟨1, 0x80, 0xBF, b.toNat - 0xC0⟩
  else if b == 0xE0 then .owes ⟨2, 0xA0, 0xBF, 0⟩
  else if b == 0xED then .owes ⟨2, 0x80, 0x9F, 0xD⟩
  else if b < 0xF0 then .owes ⟨2, 0x80, 0xBF, b.toNat - 0xE0⟩
  else if b == 0xF0 then .owes ⟨3, 0x90, 0xBF, 0⟩
  else if b < 0xF4 then .owes ⟨3, 0x80, 0xBF, b.toNat - 0xF0⟩
  else if b == 0xF4 then .owes ⟨3, 0x80, 0x8F, 4⟩
  else .refused

/-- The octet continues the character under way. -/
def Pending.accepts (p : Pending) (b : UInt8) : Bool :=
  p.low ≤ b && b ≤ p.high

/-- The value after one more octet. -/
def Pending.extend (p : Pending) (b : UInt8) : Nat :=
  64 * p.value + b.toNat % 0x40

/-- The character under way after one more octet that does not complete it. -/
def Pending.next (p : Pending) (b : UInt8) : Pending :=
  ⟨p.owed - 1, 0x80, 0xBF, p.extend b⟩

/-- The strict reader. -/
def decodeFrom : Option Pending → List UInt8 → Option (List Char)
  | none, [] => some []
  | some _, [] => none
  | none, b :: bs =>
    match lead b with
    | .whole c => (decodeFrom none bs).map (c :: ·)
    | .owes p => decodeFrom (some p) bs
    | .refused => none
  | some p, b :: bs =>
    if p.accepts b then
      if p.owed ≤ 1 then (decodeFrom none bs).map (Char.ofNat (p.extend b) :: ·)
      else decodeFrom (some (p.next b)) bs
    else none

/-- The text that the octets spell, if they are UTF-8. They are understood not to spell any of the
characters that stand for halves of surrogate pairs. -/
def decode? (bytes : List UInt8) : Option (List Char) :=
  decodeFrom none bytes

/-- The character that stands for octets that spell none. -/
def replacementChar : Char := Char.ofNat 0xFFFD

/-- The lenient reader. -/
def decodeLossyFrom : Option Pending → List UInt8 → List Char
  | none, [] => []
  | some _, [] => [replacementChar]
  | none, b :: bs =>
    match lead b with
    | .whole c => c :: decodeLossyFrom none bs
    | .owes p => decodeLossyFrom (some p) bs
    | .refused => replacementChar :: decodeLossyFrom none bs
  | some p, b :: bs =>
    if p.accepts b then
      if p.owed ≤ 1 then Char.ofNat (p.extend b) :: decodeLossyFrom none bs
      else decodeLossyFrom (some (p.next b)) bs
    else
      match lead b with
      | .whole c => replacementChar :: c :: decodeLossyFrom none bs
      | .owes q => replacementChar :: decodeLossyFrom (some q) bs
      | .refused => replacementChar :: replacementChar :: decodeLossyFrom none bs

/-- The text that the octets spell, with replacement characters where they spell none. Here, too,
characters that stand for halves are understood not to be spelled. -/
def decodeLossy (bytes : List UInt8) : String :=
  String.ofList (decodeLossyFrom none bytes)

/-- An octet that continues a character, with the six lowest bits of a value. -/
def continuation (n : Nat) : UInt8 :=
  UInt8.ofNat (0x80 + n % 64)

/-- The octets of one character. -/
def encodeChar (c : Char) : List UInt8 :=
  let n := c.toNat
  if n < 0x80 then [UInt8.ofNat n]
  else if n < 0x800 then [UInt8.ofNat (0xC0 + n / 64), continuation n]
  else if n < 0x10000 then [UInt8.ofNat (0xE0 + n / 4096), continuation (n / 64), continuation n]
  else
    [UInt8.ofNat (0xF0 + n / 262144), continuation (n / 4096), continuation (n / 64),
      continuation n]

/-- The octets of a text. -/
def encode (cs : List Char) : List UInt8 :=
  cs.flatMap encodeChar

/-- The octets of a string. -/
def encodeString (s : String) : List UInt8 :=
  encode s.toList

@[simp] theorem encode_nil : encode [] = [] := rfl

@[simp] theorem encode_cons (c : Char) (cs : List Char) :
    encode (c :: cs) = encodeChar c ++ encode cs := by
  simp [encode]

@[simp] theorem encode_append (a b : List Char) : encode (a ++ b) = encode a ++ encode b := by
  simp [encode]

@[simp] theorem decode?_nil : decode? [] = some [] := rfl

end ScriptVet.Text.Utf8
