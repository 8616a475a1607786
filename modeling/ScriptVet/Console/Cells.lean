import ScriptVet.Console.CellRanges
import ScriptVet.Text.Lines
import ScriptVet.Text.Ranges

/-!
# Cells

How many cells of a terminal a text fills. Each character by itself fills one cell, two or none. Two
characters change what is around them: a joiner draws the character behind it into the one before
it, and a selector asks for the picture of the character before it, which may be wider.
-/

namespace ScriptVet.Console

open Text (inRanges)

/-- The cells that a character fills. -/
def cellWidth (c : Char) : Nat :=
  if 0x20 ≤ c.toNat && c.toNat < 0x7F then 1
  else if inRanges emptyRangesA c || inRanges emptyRangesB c then 0
  else if inRanges wideRanges c then 2
  else 1

/-- Draws the character behind it into the one before it. -/
def joiner : Char := '\u200D'

/-- Asks for the picture of the character before it. -/
def pictureSelector : Char := '\uFE0F'

/-- The cells by which a character grows when its picture is asked for. -/
def growth (c? : Option Char) : Nat :=
  if c?.any (inRanges pictureRanges) then 1 else 0

/-- The cells that a text fills behind a character that may still grow. -/
def cellsAfter (last? : Option Char) : List Char → Nat
  | [] => 0
  | [c] =>
    if c = joiner then 0 else if c = pictureSelector then growth last? else cellWidth c
  | c :: next :: rest =>
    if c = joiner then cellsAfter last? rest
    else if c = pictureSelector then growth last? + cellsAfter none (next :: rest)
    else
      let width := cellWidth c
      width + cellsAfter (if width = 0 then last? else some c) (next :: rest)

/-- The cells that a text fills. -/
def cellCount (cs : List Char) : Nat :=
  cellsAfter none cs

/-- Characters that are drawn as one, and the cells they fill. -/
structure Cluster where
  chars : List Char
  width : Nat
  deriving Repr, DecidableEq

namespace Cluster

/-- The cluster with more characters at its end, which may make it wider. -/
def extend (more : List Char) (growth : Nat) (cluster : Cluster) : Cluster :=
  ⟨cluster.chars ++ more, cluster.width + growth⟩

/-- Collects clusters from the front of a text; the last cluster that is known is in front of those
before it. -/
def collect (last? : Option Char) : List Cluster → List Char → List Cluster
  | done, [] => done.reverse
  | [], c :: rest =>
    let width := if c = joiner || c = pictureSelector then 0 else cellWidth c
    collect (if width = 0 then last? else some c) [⟨[c], width⟩] rest
  | last :: done, [c] =>
    if c = joiner then ((last.extend [c] 0) :: done).reverse
    else if c = pictureSelector then ((last.extend [c] (growth last?)) :: done).reverse
    else
      let width := cellWidth c
      if width = 0 then ((last.extend [c] 0) :: done).reverse
      else (⟨[c], width⟩ :: last :: done).reverse
  | last :: done, c :: next :: rest =>
    if c = joiner then collect last? (last.extend [c, next] 0 :: done) rest
    else if c = pictureSelector then
      let wider := growth last?
      collect (if wider = 0 then last? else none) (last.extend [c] wider :: done) (next :: rest)
    else
      let width := cellWidth c
      if width = 0 then collect last? (last.extend [c] 0 :: done) (next :: rest)
      else collect (some c) (⟨[c], width⟩ :: last :: done) (next :: rest)

/-- The text of clusters up to a number of cells. A blank stands for a cluster that is cut. -/
def take : Nat → List Cluster → List Char
  | 0, _ => []
  | _, [] => []
  | cells + 1, cluster :: rest =>
    if cluster.width ≤ cells + 1 then cluster.chars ++ take (cells + 1 - cluster.width) rest
    else [' ']

end Cluster

/-- The text up to a number of cells. -/
def takeCells (cells : Nat) (cs : List Char) : List Char :=
  Cluster.take cells (Cluster.collect none [] cs)

/-- Blanks for a number of cells. -/
def blanks (cells : Nat) : List Char :=
  List.replicate cells ' '

/-- The distance of tab stops. -/
def tabStop : Nat := 8

/-- The cells from a column to the next tab stop. -/
def cellsToStop (column : Nat) : Nat :=
  (tabStop - column % tabStop) % tabStop

/-- Puts together what stands between tabs from a column on: each tab is one blank and those that
lead to the next tab stop. -/
def alignParts (column : Nat) : List (List Char) → List Char
  | [] => []
  | [last] => last
  | part :: rest =>
    let part := part ++ [' ']
    let column := column + cellCount part
    let gap := cellsToStop column
    part ++ blanks gap ++ alignParts (column + gap) rest

/-- A line with blanks in place of tabs. -/
def expandTabs (cs : List Char) : List Char :=
  alignParts 0 (Text.split '\t' cs)

end ScriptVet.Console
