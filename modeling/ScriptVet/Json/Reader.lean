import ScriptVet.Json.Value
import ScriptVet.Text.Half
import ScriptVet.Text.Hex

/-!
# Reading JSON

The reader takes a whole text or refuses it. Beyond the standard it accepts the names `NaN`,
`Infinity` and `-Infinity` as numbers. Three things are refused for their own reason: text that is
no JSON, values nested too deep, and integers with more digits than are converted.

The recursion runs on fuel, of which a text never needs more than twice its length: every call
either passes a character or is followed by one that does.
-/

namespace ScriptVet

open Decimal (Double)

/-- Why a text is refused. -/
inductive JsonFault where
  | malformed
  /-- The nesting is too deep; the flag says that an object was to be opened. -/
  | tooDeep (inObject : Bool)
  | numeralTooLong (digits : Nat)
  deriving Repr, DecidableEq

/-- What a reader puts up with. -/
structure JsonDialect where
  /-- How many arrays and objects may be open at once. -/
  depth : Nat
  /-- Arrays and objects that hold nothing count among the open ones. -/
  countsEmpty : Bool
  /-- Half of a surrogate pair is kept instead of being refused. -/
  loneSurrogates : Bool
  /-- Integers may have this many digits, if there is a limit. -/
  digitLimit : Option Nat
  /-- The limit holds for the digits before a point, too. -/
  limitsWholePart : Bool

/-- The most digits an integer is converted from. -/
def numeralLimit : Nat := 4300

namespace JsonDialect

/-- The dialect of documents that other programs wrote. Its reader goes as deep as the calls leave
room for from which it is called. -/
def lenient (depth : Nat) : JsonDialect := ⟨depth, true, true, some numeralLimit, false⟩

/-- How deep that is below the calls of a program. A few calls more or less change it. -/
def usualDepth : Nat := 975

/-- The dialect of documents that this program wrote. -/
def strict : JsonDialect := ⟨200, false, false, some numeralLimit, true⟩

end JsonDialect

namespace Json.Reader

/-- A value read and the text after it. -/
abbrev Read (α : Type) := Except JsonFault (α × List Char)

def isSpace (c : Char) : Bool :=
  c == ' ' || c == '\n' || c == '\r' || c == '\t'

def skipSpace (cs : List Char) : List Char :=
  cs.dropWhile isSpace

/-- The digits at the start, and the text after them. -/
def spanDigits (cs : List Char) : List Char × List Char :=
  cs.span Char.isDigit

/-- The number that ASCII digits write. -/
def natOfDigits (cs : List Char) : Nat :=
  cs.foldl (fun n c => 10 * n + (c.toNat - 48)) 0

/-- The fraction of a number: a point and at least one digit. -/
def spanFraction : List Char → List Char × List Char
  | '.' :: rest =>
    match spanDigits rest with
    | ([], _) => ([], '.' :: rest)
    | (digits, after) => (digits, after)
  | cs => ([], cs)

/-- The exponent of a number: a letter, perhaps a sign, and at least one digit. -/
def spanExponent (cs : List Char) : Option Int × List Char :=
  let signed (negative : Bool) (rest : List Char) : Option Int × List Char :=
    match spanDigits rest with
    | ([], _) => (none, cs)
    | (digits, after) =>
      let size : Int := natOfDigits digits
      (some (if negative then -size else size), after)
  match cs with
  | 'e' :: '-' :: rest | 'E' :: '-' :: rest => signed true rest
  | 'e' :: '+' :: rest | 'E' :: '+' :: rest => signed false rest
  | 'e' :: rest | 'E' :: rest => signed false rest
  | _ => (none, cs)

/-- The digits before a point. A leading zero stands alone. -/
def spanWhole : List Char → List Char × List Char
  | '0' :: rest => (['0'], rest)
  | cs => spanDigits cs

/-- A number without its sign. -/
def readUnsigned (dialect : JsonDialect) (negative : Bool) (cs : List Char) : Read Json :=
  let (whole, rest) := spanWhole cs
  if whole.isEmpty then .error .malformed
  else
    let (fraction, rest) := spanFraction rest
    let (exponent?, rest) := spanExponent rest
    let isInteger := fraction.isEmpty && exponent?.isNone
    if (isInteger || dialect.limitsWholePart) && dialect.digitLimit.any (· < whole.length) then
      .error (.numeralTooLong whole.length)
    else if isInteger then
      let size : Int := natOfDigits whole
      .ok (.int (if negative then -size else size), rest)
    else
      let digits := natOfDigits (whole ++ fraction)
      .ok (.float (Double.ofDecimal negative digits (exponent?.getD 0 - fraction.length)), rest)

/-- The character of a simple escape. -/
def simpleEscape? : Char → Option Char
  | '"' => some '"'
  | '\\' => some '\\'
  | '/' => some '/'
  | 'b' => some '\x08'
  | 'f' => some '\x0c'
  | 'n' => some '\n'
  | 'r' => some '\r'
  | 't' => some '\t'
  | _ => none

def isHighSurrogate (n : Nat) : Bool := 0xD800 ≤ n && n < 0xDC00

def isLowSurrogate (n : Nat) : Bool := 0xDC00 ≤ n && n < 0xE000

/-- The character that stands for half of a surrogate pair, where the dialect accepts one. -/
def halfChar? (dialect : JsonDialect) (unit : Nat) : Option Char :=
  if dialect.loneSurrogates then some (Text.ofHalf unit) else none

/-- The character of a numeric escape that does not complete a pair. -/
def unitChar? (dialect : JsonDialect) (n : Nat) : Option Char :=
  if isLowSurrogate n then halfChar? dialect n else some (Char.ofNat n)

/-- The character of a surrogate pair. -/
def pairChar (high low : Nat) : Char :=
  Char.ofNat (0x10000 + (high - 0xD800) * 0x400 + (low - 0xDC00))

/-- Puts a character, if there is one, before what was read after it. -/
def addChar (c? : Option Char) (read : Option (List Char × List Char)) :
    Option (List Char × List Char) :=
  c?.bind fun c => read.map fun (cs, tail) => (c :: cs, tail)

/-- A first half that nothing completed. -/
def addHalf (dialect : JsonDialect) (pending : Option Nat)
    (read : Option (List Char × List Char)) : Option (List Char × List Char) :=
  match pending with
  | some unit => addChar (halfChar? dialect unit) read
  | none => read

/-- The rest of a string after its opening quote; `pending` is the first half of a surrogate pair
just read. -/
def readString (dialect : JsonDialect) :
    Option Nat → List Char → Option (List Char × List Char)
  | _, [] => none
  | pending, '"' :: rest => addHalf dialect pending (some ([], rest))
  | pending, '\\' :: 'u' :: a :: b :: c :: d :: rest =>
    match Text.hexNumber? [a, b, c, d] with
    | none => none
    | some n =>
      if isHighSurrogate n then addHalf dialect pending (readString dialect (some n) rest)
      else
        match pending with
        | none => addChar (unitChar? dialect n) (readString dialect none rest)
        | some high =>
          if isLowSurrogate n then addChar (some (pairChar high n)) (readString dialect none rest)
          else
            addHalf dialect pending (addChar (unitChar? dialect n) (readString dialect none rest))
  | pending, '\\' :: c :: rest =>
    addHalf dialect pending (addChar (simpleEscape? c) (readString dialect none rest))
  | pending, c :: rest =>
    if c.toNat < 0x20 || c = '\\' then none
    else addHalf dialect pending (addChar (some c) (readString dialect none rest))

/-- A string after its opening quote, as a step of the reader. -/
def readText (dialect : JsonDialect) (cs : List Char) : Read String :=
  match readString dialect none cs with
  | none => .error .malformed
  | some (text, rest) => .ok (String.ofList text, rest)

/-- The names that stand for values. -/
def readName : List Char → Read Json
  | 'n' :: 'u' :: 'l' :: 'l' :: rest => .ok (.null, rest)
  | 't' :: 'r' :: 'u' :: 'e' :: rest => .ok (.bool true, rest)
  | 'f' :: 'a' :: 'l' :: 's' :: 'e' :: rest => .ok (.bool false, rest)
  | 'N' :: 'a' :: 'N' :: rest => .ok (.float Double.notANumber, rest)
  | 'I' :: 'n' :: 'f' :: 'i' :: 'n' :: 'i' :: 't' :: 'y' :: rest =>
    .ok (.float (Double.infinity false), rest)
  | '-' :: 'I' :: 'n' :: 'f' :: 'i' :: 'n' :: 'i' :: 't' :: 'y' :: rest =>
    .ok (.float (Double.infinity true), rest)
  | _ => .error .malformed

/-- A value that holds no others and is no string. -/
def readScalar (dialect : JsonDialect) (cs : List Char) : Read Json :=
  match readName cs, cs with
  | .ok read, _ => .ok read
  | .error _, '-' :: rest => readUnsigned dialect true rest
  | .error _, rest => readUnsigned dialect false rest

mutual

/-- A value at the start of the text; `depth` more arrays and objects may be opened. -/
def readValue (dialect : JsonDialect) : Nat → Nat → List Char → Read Json
  | 0, _, _ => .error .malformed
  | fuel + 1, depth, cs =>
    match cs with
    | '"' :: rest => (readText dialect rest).map fun (s, tail) => (.str s, tail)
    | '[' :: rest =>
      if depth = 0 && dialect.countsEmpty then .error (.tooDeep false)
      else
        match skipSpace rest with
        | ']' :: tail => .ok (.arr [], tail)
        | inner =>
          if depth = 0 then .error (.tooDeep false)
          else
            (readItems dialect fuel (depth - 1) inner).map fun (items, tail) => (.arr items, tail)
    | '\x7b' :: rest =>
      if depth = 0 && dialect.countsEmpty then .error (.tooDeep true)
      else
        match skipSpace rest with
        | '\x7d' :: tail => .ok (.obj [], tail)
        | inner =>
          if depth = 0 then .error (.tooDeep true)
          else
            (readFields dialect fuel (depth - 1) inner).map fun (fields, tail) =>
              (.obj (ofFields fields), tail)
    | _ => readScalar dialect cs

/-- The items of an array that has at least one more. -/
def readItems (dialect : JsonDialect) :
    Nat → Nat → List Char → Except JsonFault (List Json × List Char)
  | 0, _, _ => .error .malformed
  | fuel + 1, depth, cs => do
    let (item, rest) ← readValue dialect fuel depth cs
    match skipSpace rest with
    | ']' :: tail => .ok ([item], tail)
    | ',' :: rest =>
      let (items, tail) ← readItems dialect fuel depth (skipSpace rest)
      .ok (item :: items, tail)
    | _ => .error .malformed

/-- The fields of an object that has at least one more. -/
def readFields (dialect : JsonDialect) :
    Nat → Nat → List Char → Except JsonFault (List (String × Json) × List Char)
  | 0, _, _ => .error .malformed
  | fuel + 1, depth, cs =>
    match cs with
    | '"' :: rest => do
      let (key, rest) ← readText dialect rest
      match skipSpace rest with
      | ':' :: rest =>
        let (value, rest) ← readValue dialect fuel depth (skipSpace rest)
        match skipSpace rest with
        | '\x7d' :: tail => .ok ([(key, value)], tail)
        | ',' :: rest =>
          let (fields, tail) ← readFields dialect fuel depth (skipSpace rest)
          .ok ((key, value) :: fields, tail)
        | _ => .error .malformed
      | _ => .error .malformed
    | _ => .error .malformed

end

/-- The value that a whole text spells, blanks around it aside. -/
def read (dialect : JsonDialect) (cs : List Char) : Except JsonFault Json := do
  let (value, rest) ← readValue dialect (2 * cs.length + 2) dialect.depth (skipSpace cs)
  if (skipSpace rest).isEmpty then .ok value else .error .malformed

end Json.Reader

/-- The value that a text of another program spells, for a reader that goes so deep. -/
def Json.parseWithin (depth : Nat) (text : String) : Except JsonFault Json :=
  Json.Reader.read (.lenient depth) text.toList

/-- The value that a text of another program spells. -/
def Json.parse (text : String) : Except JsonFault Json :=
  Json.parseWithin JsonDialect.usualDepth text

end ScriptVet
