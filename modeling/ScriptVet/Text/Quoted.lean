import ScriptVet.Text.Half
import ScriptVet.Text.Hex
import ScriptVet.Text.Phrase
import ScriptVet.Text.Printable

/-!
# Quoted text

How a text is shown between quotes in messages. Single quotes are preferred; a text that holds
single quotes and no double quote is put between double quotes. The quote in use and the backslash
are escaped, and whatever is not printable is shown by an escape.
-/

namespace ScriptVet.Text

/-- The quote that a text is put between. -/
def quoteFor (cs : List Char) : Char :=
  if cs.contains '\'' && !cs.contains '"' then '"' else '\''

/-- The escape of a code point: the shortest of the three widths that holds it. -/
def numericEscape (n : Nat) : List Char :=
  if n < 0x100 then '\\' :: 'x' :: hexPlaces 2 n
  else if n < 0x10000 then '\\' :: 'u' :: hexPlaces 4 n
  else '\\' :: 'U' :: hexPlaces 8 n

/-- One character between the given quotes. -/
def quoteChar (quote c : Char) : List Char :=
  if c = quote || c = '\\' then ['\\', c]
  else if c = '\n' then ['\\', 'n']
  else if c = '\r' then ['\\', 'r']
  else if c = '\t' then ['\\', 't']
  else if isPrintable c then [c]
  else numericEscape (codePoint c)

/-- The text between quotes. -/
def quoteChars (cs : List Char) : List Char :=
  let quote := quoteFor cs
  quote :: (cs.flatMap (quoteChar quote) ++ [quote])

/-- The text between quotes. -/
def quoted (s : String) : String :=
  String.ofList (quoteChars s.toList)

/-- Why a text that holds halves of surrogate pairs has no octets: the first of them, and where they
are. -/
def noOctetsMessage (text : String) : String :=
  let halves : String :=
    match firstHalves text.toList with
    | (before, [unit]) =>
      phrase ["character '", String.ofList (numericEscape unit), "' in position ",
        Nat.repr before]
    | (before, units) =>
      phrase ["characters in position ", Nat.repr before, "-",
        Nat.repr (before + units.length - 1)]
  phrase ["'utf-8' codec can't encode ", halves, ": surrogates not allowed"]

/-- The quote that encloses a text is one of the two. -/
theorem quoteFor_eq (cs : List Char) : quoteFor cs = '\'' ∨ quoteFor cs = '"' := by
  unfold quoteFor
  split <;> simp

end ScriptVet.Text
