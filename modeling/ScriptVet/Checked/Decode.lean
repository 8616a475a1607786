import ScriptVet.Checked.Problem
import ScriptVet.Files.Path
import ScriptVet.Json.Reader
import ScriptVet.Text.Blank
import ScriptVet.Text.Case
import ScriptVet.Text.Half

/-!
# Checking single values

How a JSON value is taken as a value of a given kind. The rules are generous where a meaning is
clear: words and the numbers zero and one are taken as booleans, and whole numbers however they are
written as integers. Text is taken from text alone.
-/

namespace ScriptVet

/-- The numbers that count things from one. -/
abbrev Positive := { n : Nat // 0 < n }

namespace Checked

open Decimal (Double)

variable {α : Type}

/-- Text. -/
def text : Json → Checked String
  | .str s => .ok s
  | _ => reject .notText

/-- Refuses text that holds half of a surrogate pair. -/
def whole (s : String) : Checked String :=
  if Text.holdsHalf s then reject .brokenText else .ok s

/-- Text with at least one character. -/
def someText (v : Json) : Checked String := do
  let s ← whole (← text v)
  if s.isEmpty then reject .emptyText else .ok s

/-- The characters that a name may begin with. -/
def isNameStart (c : Char) : Bool :=
  c.isAlphanum || c == '_' || c == '+' || c == '-'

/-- The characters of a name; none of them separates the parts of a path. -/
def isNameChar (c : Char) : Bool :=
  isNameStart c || c == '.'

/-- A name is one part of a path: it is not empty, and as its first character is no dot it is none
of the names that mean a folder. -/
def isName (s : String) : Bool :=
  match s.toList with
  | [] => false
  | c :: rest => isNameStart c && rest.all isNameChar

/-- A name. -/
def name (v : Json) : Checked String := do
  let s ← whole (← text v)
  if isName s then .ok s else reject .badName

/-- A value of a finite kind, given by its word. -/
def oneOf (options : List (String × α)) (v : Json) : Checked α := do
  let refused : Checked α := reject (.notOneOf (options.map Prod.fst))
  match v with
  | .str s => (options.lookup (← whole s)).elim refused .ok
  | _ => refused

/-- The words that mean yes and no. -/
def boolOfWord? (word : String) : Option Bool :=
  let w := String.ofList (word.toList.map Char.toLower)
  if ["1", "on", "t", "true", "y", "yes"].contains w then some true
  else if ["0", "off", "f", "false", "n", "no"].contains w then some false
  else none

/-- The boolean that a word means. -/
def boolOfWord (word : String) : Checked Bool := do
  (boolOfWord? (← whole word)).elim (reject .unclearBool) .ok

/-- The numbers that mean yes and no. -/
def boolOfInt (n : Int) : Checked Bool :=
  if n = 1 then .ok true else if n = 0 then .ok false else reject .unclearBool

/-- Integers of at most 64 bits. -/
def fitsWord (n : Int) : Bool :=
  -0x8000000000000000 ≤ n && n < 0x8000000000000000

/-- Integers between the ends of the range of 64 bits. A floating-point number at an end may have
been rounded to it. -/
def isInsideWord (n : Int) : Bool :=
  -0x8000000000000000 < n && n < 0x8000000000000000

def bool : Json → Checked Bool
  | .bool b => .ok b
  | .str s => boolOfWord s
  | .int n => if fitsWord n then boolOfInt n else reject .notBool
  | .float x =>
    match x.toInt? with
    | some n => if isInsideWord n then boolOfInt n else reject .notBool
    | none => reject .notBool
  | _ => reject .notBool

/-- What is left of a number's text once the leading zeros, and the underscores among them, are
passed; `last` is the character passed last. A point keeps the character before it. -/
def passZeros? (last : Char) : List Char → Option (List Char)
  | [] => some [last]
  | c :: rest =>
    if c == '0' || c == '_' then passZeros? c rest
    else if c == '.' then some (last :: c :: rest)
    else if c.isDigit || c == '-' then some (c :: rest)
    else none

/-- A number's text without leading zeros, but with one digit at least. A minus sign may stand
before the zeros or after them. -/
def dropZeros? : List Char → Option (List Char)
  | [] => none
  | c :: rest =>
    if c == '0' then passZeros? c rest
    else if c.isDigit || c == '-' then some (c :: rest)
    else none

/-- Drops a fraction of zeros. -/
def dropZeroFraction (cs : List Char) : List Char :=
  let (whole, fraction) := cs.span (· != '.')
  if 1 < fraction.length && (fraction.drop 1).all (· == '0') then whole else cs

/-- Drops underscores if they are single and not at an end. -/
def dropUnderscores (cs : List Char) : List Char :=
  let doubled := (cs.zip (cs.drop 1)).contains ('_', '_')
  if cs.head? == some '_' || cs.getLast? == some '_' || doubled then cs
  else cs.filter (· != '_')

/-- The text without a plus sign in front. -/
def dropPlus : List Char → List Char
  | '+' :: rest => rest
  | cs => cs

/-- The number that digits write. Too many of them are refused whatever follows them. -/
def intOfDigits (negative : Bool) (cs : List Char) : Checked Int :=
  let (digits, rest) := Json.Reader.spanDigits cs
  if numeralLimit < digits.length then reject .hugeInteger
  else if digits.isEmpty || !rest.isEmpty then reject .unclearInteger
  else
    let size : Int := Json.Reader.natOfDigits digits
    .ok (if negative then -size else size)

/-- The integer that a text writes: white space around it, a sign, leading zeros, single underscores
between digits and a fraction of zeros are allowed. -/
def intOfText (s : String) : Checked Int := do
  let cs := dropPlus (Text.stripWhere Text.isWhiteSpace (← whole s).toList)
  match (dropZeros? cs).map fun cs => dropUnderscores (dropZeroFraction cs) with
  | none => reject .unclearInteger
  | some ('-' :: digits) => intOfDigits true digits
  | some digits => intOfDigits false digits

def int : Json → Checked Int
  | .int n => .ok n
  | .bool b => .ok (if b then 1 else 0)
  | .str s => intOfText s
  | .float x =>
    if !x.isFinite then reject .notFinite
    else
      match x.toInt? with
      | none => reject .fractionalInteger
      | some n => if isInsideWord n then .ok n else reject .hugeInteger
  | _ => reject .notInteger

/-- An integer that is at least one. -/
def positive (v : Json) : Checked Positive := do
  let n ← int v
  if h : 0 < n.toNat then .ok ⟨n.toNat, h⟩ else reject .belowOne

/-- Anything but null. -/
def optional (decode : Json → Checked α) : Json → Checked (Option α)
  | .null => .ok none
  | v => (decode v).map some

/-- Every item of a list. -/
def items (decode : Json → Checked α) (values : List Json) : Checked (List α) :=
  all (values.mapIdx fun i v => inside (.index i) (decode v))

def list (decode : Json → Checked α) : Json → Checked (List α)
  | .arr values => items decode values
  | _ => reject .notList

/-- A set of texts, given as a list; repetitions are dropped. -/
def textSet : Json → Checked (List String)
  | .arr values => (items text values).map List.eraseDups
  | _ => reject .notSet

def path : Json → Checked Path
  | .str s => .ok (Path.ofString s)
  | _ => reject .notPath

def object : Json → Checked (List (String × Json))
  | .obj fields => .ok fields
  | _ => reject .notObject

/-- The fields of a record of the given name. -/
def recordFields (record : String) : Json → Checked (List (String × Json))
  | .obj fields => .ok fields
  | _ => reject (.notRecord record)

/-- A field that has to be there. -/
def required (fields : List (String × Json)) (key : String) (decode : Json → Checked α) :
    Checked α :=
  inside (.key key) ((Json.getField? key fields).elim (reject .missing) decode)

/-- A field that may be left out. -/
def withDefault (fields : List (String × Json)) (key : String) (default : α)
    (decode : Json → Checked α) : Checked α :=
  inside (.key key) ((Json.getField? key fields).elim (.ok default) decode)

theorem text_eq_ok_iff {v : Json} {s : String} : text v = .ok s ↔ v = .str s := by
  cases v <;> simp [text, reject]

/-- A name begins with one of the starting characters, and the others may follow. -/
theorem isName_iff {s : String} :
    isName s ↔ ∃ c rest, s.toList = c :: rest ∧ isNameStart c ∧ ∀ d ∈ rest, isNameChar d := by
  unfold isName
  cases h : s.toList with
  | nil => simp
  | cons c rest =>
    simp only [Bool.and_eq_true, List.all_eq_true, List.cons.injEq]
    constructor
    · rintro ⟨hc, hr⟩
      exact ⟨c, rest, ⟨rfl, rfl⟩, hc, hr⟩
    · rintro ⟨d, others, ⟨rfl, rfl⟩, hd, hr⟩
      exact ⟨hd, hr⟩

end Checked

end ScriptVet
