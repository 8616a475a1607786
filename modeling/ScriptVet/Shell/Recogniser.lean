import ScriptVet.Text.Blank
import ScriptVet.Text.Lines
import ScriptVet.Text.Search
import ScriptVet.Text.Word

/-!
# Recognising forms in shell text

Shell text is not parsed here: it is searched from left to right for a few forms, also inside
quotes, comments and here-documents. A form that is found is passed over as a whole before the
search goes on, so the forms found never overlap.
-/

namespace ScriptVet.Shell

/-- A form found in a text: the offsets of its first character and of the first one after it, and
the part of it that matters. -/
structure Found where
  start : Nat
  stop : Nat
  part : List Char
  deriving Repr, DecidableEq

/-- Says of a place, from the character before it and the text that follows, whether a form begins
there: how many characters it has, at least one, and which part of it matters. -/
abbrev Recogniser := Option Char → List Char → Option (Nat × List Char)

/-- The forms in a text that begins at an offset; the first `skip` characters belong to a form that
was already found. -/
def findFrom (recognise : Recogniser) : Nat → Nat → Option Char → List Char → List Found
  | _, _, _, [] => []
  | offset, skip + 1, _, c :: rest => findFrom recognise (offset + 1) skip (some c) rest
  | offset, 0, before, c :: rest =>
    match recognise before (c :: rest) with
    | none => findFrom recognise (offset + 1) 0 (some c) rest
    | some (size, part) =>
      ⟨offset, offset + size, part⟩ :: findFrom recognise (offset + 1) (size - 1) (some c) rest

/-- All forms in a text, from left to right. -/
def findAll (recognise : Recogniser) (text : List Char) : List Found :=
  findFrom recognise 0 0 none text

/-- The line on which a form was found. -/
def Found.lineIn (found : Found) (text : List Char) : Nat :=
  Text.lineOf text found.start

/-- The line of the first form of a kind. -/
def firstLine? (recognise : Recogniser) (text : List Char) : Option Nat :=
  (findAll recognise text).head?.map (·.lineIn text)

/-- A line begins here. -/
def atLineStart (before : Option Char) : Bool :=
  before == none || before == some '\n'

/-- The text after one or more characters of a class. -/
def skipSome? (inClass : Char → Bool) : List Char → Option (List Char)
  | [] => none
  | c :: rest => if inClass c then some (rest.dropWhile inClass) else none

/-- How much shorter the rest of a text is. -/
def taken (text rest : List Char) : Nat :=
  text.length - rest.length

/-- Variables and functions have names of ASCII letters, digits and underscores. -/
def isNameStart (c : Char) : Bool :=
  c.isAlpha || c == '_'

def isNameChar (c : Char) : Bool :=
  c.isAlphanum || c == '_'

/-- The longest name at the start of a text, and the text after it. -/
def spanName? : List Char → Option (List Char × List Char)
  | [] => none
  | c :: rest =>
    if isNameStart c then some (c :: rest.takeWhile isNameChar, rest.dropWhile isNameChar)
    else none

theorem spanName?_eq_some {cs name rest : List Char} (h : spanName? cs = some (name, rest)) :
    cs = name ++ rest ∧ name ≠ [] := by
  cases cs with
  | nil => simp [spanName?] at h
  | cons c cs =>
    simp only [spanName?] at h
    split at h
    · obtain ⟨rfl, rfl⟩ := by simpa using h
      simp
    · simp at h

/-- Nothing is found in a text without characters. -/
@[simp] theorem findAll_nil (recognise : Recogniser) : findAll recognise [] = [] := rfl

end ScriptVet.Shell
