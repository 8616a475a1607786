import ScriptVet.Shell.Recogniser

/-!
# Words in shell text

A word begins with a letter or an underscore and may hold hyphens, so that `git-lfs` is not taken
for `git`; it begins and ends at a boundary between word characters and others.
-/

namespace ScriptVet.Shell

/-- The characters of a word. -/
def isCommandChar (c : Char) : Bool :=
  isNameChar c || c == '-'

/-- The longest word that a run of word characters begins with, where `after` follows the run. It is
read from the end: what is left of the run is given in reverse. -/
def longestWord (after : Option Char) : List Char → List Char
  | [] => []
  | last :: rest =>
    if Text.isBoundary (some last) after then (last :: rest).reverse
    else longestWord (some last) rest

/-- A word. -/
def word : Recogniser := fun before text =>
  match text with
  | [] => none
  | c :: _ =>
    if isNameStart c && !Text.isWord? before then
      let run := text.takeWhile isCommandChar
      let found := longestWord (text.drop run.length).head? run.reverse
      if found.isEmpty then none else some (found.length, found)
    else none

/-- All words, in order. -/
def words (text : List Char) : List String :=
  (findAll word text).map fun found => String.ofList found.part

/-- The texts in ascending order, each once. -/
def sortedSet (texts : List String) : List String :=
  (texts.mergeSort fun a b => a ≤ b).eraseDups

/-- The words of a text that are in a list of commands, in ascending order. -/
def commandsAmong (allowed : List String) (text : List Char) : List String :=
  sortedSet ((words text).filter allowed.contains)

end ScriptVet.Shell
