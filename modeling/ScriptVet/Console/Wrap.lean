import ScriptVet.Console.Cells
import ScriptVet.Text.Blank

/-!
# Lines in cells

How a line is broken and set where only so many cells are wide. A line is broken before words; a
word that is too long for any line stands alone and is cut.
-/

namespace ScriptVet.Console

/-- On which side of its cells a text stands. -/
inductive Alignment where
  | left
  | center
  | right
  deriving Repr, DecidableEq

/-- The text without blanks at its end. -/
def trimEnd (cs : List Char) : List Char :=
  (cs.reverse.dropWhile Text.isBlank).reverse

/-- Runs of characters that are blanks or are not, in turn. -/
def blankRuns (cs : List Char) : List (List Char) :=
  cs.splitBy fun a b => Text.isBlank a == Text.isBlank b

/-- Joins each run of other characters with the blanks behind it. -/
def joinRuns : List (List Char) → List (List Char)
  | word :: gap :: rest => (word ++ gap) :: joinRuns rest
  | rest => rest

/-- The words of a line, with the blanks behind them and those before the first. A line of blanks
has no words. -/
def lineWords (cs : List Char) : List (List Char) :=
  match blankRuns cs with
  | first :: rest =>
    if !first.all Text.isBlank then joinRuns (first :: rest)
    else
      match rest with
      | second :: rest => joinRuns ((first ++ second) :: rest)
      | [] => []
  | [] => []

/-- Breaks a line before words, where part of it already fills some cells. -/
def breakBefore (width : Nat) (line : List Char) (filled : Nat) :
    List (List Char) → List (List Char)
  | [] => [line]
  | word :: rest =>
    if filled + cellCount (trimEnd word) ≤ width then
      breakBefore width (line ++ word) (filled + cellCount word) rest
    else if line.isEmpty then breakBefore width word (cellCount word) rest
    else line :: breakBefore width word (cellCount word) rest

/-- Breaks a line so that words do not fill more cells than a width. -/
def breakLine (width : Nat) (cs : List Char) : List (List Char) :=
  match lineWords cs with
  | [] => [cs]
  | words => breakBefore width [] 0 words

/-- Drops blanks at the end of a line as long as it has more characters than cells. -/
def cropBlanks (width : Nat) (cs : List Char) : List Char :=
  let blanksAtEnd := cs.length - (trimEnd cs).length
  cs.take (cs.length - min blanksAtEnd (cs.length - width))

/-- The character at the end of a text that is cut. -/
def ellipsis : Char := '…'

/-- The text, cut if it fills too many cells. -/
def cut (width : Nat) (cs : List Char) : List Char :=
  if width < cellCount cs then takeCells (width - 1) cs ++ [ellipsis] else cs

/-- Fills a number of cells with blanks at the end. -/
def padEnd (width : Nat) (cs : List Char) : List Char :=
  cs ++ blanks (width - cellCount cs)

/-- The text in so many cells. If it cannot stand in the middle it is nearer to the left. -/
def Alignment.fill (alignment : Alignment) (width : Nat) (cs : List Char) : List Char :=
  match alignment with
  | .left => padEnd width (cut width cs)
  | .center =>
    let cs := cut width (trimEnd cs)
    padEnd width (blanks ((width - cellCount cs) / 2) ++ cs)
  | .right =>
    let cs := cut width (trimEnd cs)
    blanks (width - cellCount cs) ++ cs

/-- The lines that a line becomes in so many cells. Where a blank is drawn into a character before
it, one more is put at the end. -/
def Alignment.setLine (alignment : Alignment) (width : Nat) (cs : List Char) :
    List (List Char) :=
  (breakLine width cs).map fun line =>
    padEnd width (alignment.fill width (cropBlanks width line))

/-- Breaking a line keeps its words. -/
theorem flatten_breakBefore (width : Nat) (line : List Char) (filled : Nat)
    (words : List (List Char)) :
    (breakBefore width line filled words).flatten = line ++ words.flatten := by
  induction words generalizing line filled with
  | nil => simp [breakBefore]
  | cons word rest ih =>
    unfold breakBefore
    split
    · simp [ih]
    · split
      · next h => simp [ih, List.isEmpty_iff.1 h]
      · simp [ih]

end ScriptVet.Console
