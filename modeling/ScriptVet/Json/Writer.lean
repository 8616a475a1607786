import ScriptVet.Decimal.Shortest
import ScriptVet.Json.Value
import ScriptVet.Text.Half
import ScriptVet.Text.Hex
import ScriptVet.Text.Quoted

/-!
# Writing JSON

Two ways of writing are in use: *compact*, on one line without blanks, and *indented*, with one
field or item a line. Either writes text as it is or in ASCII alone, where every other character is
escaped. Values are also *shown* in messages, in a notation of their own.
-/

namespace ScriptVet.Json

open Decimal (Double Layout)

/-- The escape of one UTF-16 unit. -/
def unitEscape (n : Nat) : List Char :=
  '\\' :: 'u' :: Text.hexPlaces 4 n

/-- The escape of a character beyond ASCII, as a pair of units where one is not enough. -/
def wideEscape (n : Nat) : List Char :=
  if n < 0x10000 then unitEscape n
  else unitEscape (0xD800 + (n - 0x10000) / 0x400) ++ unitEscape (0xDC00 + (n - 0x10000) % 0x400)

/-- One character inside a string. -/
def escapeChar (asciiOnly : Bool) (c : Char) : List Char :=
  if c = '"' then ['\\', '"']
  else if c = '\\' then ['\\', '\\']
  else if c = '\n' then ['\\', 'n']
  else if c = '\r' then ['\\', 'r']
  else if c = '\t' then ['\\', 't']
  else if c.toNat = 0x08 then ['\\', 'b']
  else if c.toNat = 0x0C then ['\\', 'f']
  else if c.toNat < 0x20 then unitEscape c.toNat
  else if asciiOnly && 0x7F ≤ c.toNat then wideEscape (Text.codePoint c)
  else [c]

/-- A string with its quotes. -/
def quote (asciiOnly : Bool) (s : String) : List Char :=
  '"' :: (s.toList.flatMap (escapeChar asciiOnly) ++ ['"'])

/-- An integer in decimal. -/
def intText (n : Int) : List Char :=
  if n < 0 then '-' :: Nat.toDigits 10 n.natAbs else Nat.toDigits 10 n.natAbs

/-- How a value is written. -/
structure Style where
  asciiOnly : Bool
  /-- How far each depth is indented, if every field and item has its line. -/
  indent : Option Nat
  floats : Layout

/-- One line without blanks. -/
def Style.compact : Style := ⟨false, none, .compact⟩

/-- A line for every field and item. -/
def Style.indented : Style := ⟨false, some 2, .compact⟩

/-- A line for every field and item, in ASCII alone. -/
def Style.indentedAscii : Style := ⟨true, some 2, .plain⟩

/-- One line without blanks, in ASCII alone. -/
def Style.line : Style := ⟨true, none, .plain⟩

/-- A floating-point number; one that is not finite is written as null. -/
def Style.floatText (style : Style) (x : Double) : List Char :=
  if x.isFinite then style.floats.finiteText x else "null".toList

/-- What stands before an item or field and before the closing bracket at a depth. -/
def Style.lineBreak (style : Style) (depth : Nat) : List Char :=
  match style.indent with
  | none => []
  | some width => '\n' :: List.replicate (width * depth) ' '

/-- What stands between a key and its value. -/
def Style.colon (style : Style) : List Char :=
  if style.indent.isSome then [':', ' '] else [':']

mutual

/-- A value inside `depth` arrays and objects. -/
def write (style : Style) (depth : Nat) : Json → List Char
  | .null => "null".toList
  | .bool true => "true".toList
  | .bool false => "false".toList
  | .int n => intText n
  | .float x => style.floatText x
  | .str s => quote style.asciiOnly s
  | .arr [] => ['[', ']']
  | .arr (item :: items) =>
    '[' :: (style.lineBreak (depth + 1) ++ write style (depth + 1) item ++
      writeItems style (depth + 1) items ++ style.lineBreak depth ++ [']'])
  | .obj [] => ['\x7b', '\x7d']
  | .obj ((key, value) :: fields) =>
    '\x7b' :: (style.lineBreak (depth + 1) ++ quote style.asciiOnly key ++ style.colon ++
      write style (depth + 1) value ++ writeFields style (depth + 1) fields ++
      style.lineBreak depth ++ ['\x7d'])

/-- The items after the first. -/
def writeItems (style : Style) (depth : Nat) : List Json → List Char
  | [] => []
  | item :: items =>
    ',' :: (style.lineBreak depth ++ write style depth item ++ writeItems style depth items)

/-- The fields after the first. -/
def writeFields (style : Style) (depth : Nat) : List (String × Json) → List Char
  | [] => []
  | (key, value) :: fields =>
    ',' :: (style.lineBreak depth ++ quote style.asciiOnly key ++ style.colon ++
      write style depth value ++ writeFields style depth fields)

end

/-- The text of a value. -/
def render (style : Style) (value : Json) : String :=
  String.ofList (value.write style 0)

/-- A floating-point number in a message. -/
def showFloat (x : Double) : List Char :=
  if x.isFinite then Layout.plain.finiteText x
  else if x.isNotANumber then "nan".toList
  else if x.isNegative then "-inf".toList
  else "inf".toList

mutual

/-- A value in a message, text between quotes. -/
def showNested : Json → List Char
  | .null => "None".toList
  | .bool true => "True".toList
  | .bool false => "False".toList
  | .int n => intText n
  | .float x => showFloat x
  | .str s => Text.quoteChars s.toList
  | .arr [] => ['[', ']']
  | .arr (item :: items) => '[' :: (showNested item ++ showItems items ++ [']'])
  | .obj [] => ['\x7b', '\x7d']
  | .obj ((key, value) :: fields) =>
    '\x7b' :: (Text.quoteChars key.toList ++ [':', ' '] ++ showNested value ++
      showFields fields ++ ['\x7d'])

/-- The items after the first. -/
def showItems : List Json → List Char
  | [] => []
  | item :: items => ',' :: ' ' :: (showNested item ++ showItems items)

/-- The fields after the first. -/
def showFields : List (String × Json) → List Char
  | [] => []
  | (key, value) :: fields =>
    ',' :: ' ' :: (Text.quoteChars key.toList ++ [':', ' '] ++ showNested value ++
      showFields fields)

end

/-- A value as a message of its own: text stands for itself. -/
def shown : Json → String
  | .str s => s
  | value => String.ofList value.showNested

end ScriptVet.Json
