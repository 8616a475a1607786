import ScriptVet.Shell.Recogniser

/-!
# Function definitions in shell text

A line defines a function in one of two ways: `function NAME`, or `NAME() {` with the brace on the
same line.
-/

namespace ScriptVet.Shell

open Text (isSpaceOrTab)

/-- A line that begins with the word `function` and a name. -/
def keywordFunction : Recogniser := fun before text =>
  if !atLineStart before then none
  else do
    let rest ← Text.dropStart? "function".toList (text.dropWhile isSpaceOrTab)
    let (name, rest) ← spanName? (← skipSome? isSpaceOrTab rest)
    if Text.isWord? rest.head? then none else some (taken text rest, name)

/-- A line that begins with a name, parentheses and a brace. -/
def braceFunction : Recogniser := fun before text =>
  if !atLineStart before then none
  else do
    let (name, rest) ← spanName? (text.dropWhile isSpaceOrTab)
    let rest ← Text.dropStart? ['('] (rest.dropWhile isSpaceOrTab)
    let rest ← Text.dropStart? [')'] (rest.dropWhile isSpaceOrTab)
    let rest ← Text.dropStart? ['\x7b'] (rest.dropWhile isSpaceOrTab)
    some (taken text rest, name)

/-- The definitions in the order in which they begin. -/
def definitions (text : List Char) : List Found :=
  (findAll keywordFunction text ++ findAll braceFunction text).mergeSort fun a b =>
    a.start ≤ b.start

/-- The names of the functions that a text defines, each once, in the order of their first
definitions. -/
def functionNames (text : List Char) : List String :=
  ((definitions text).map fun found => String.ofList found.part).eraseDups

end ScriptVet.Shell
