/-!
# Halves of surrogate pairs

JSON can spell half of a surrogate pair alone. A half is no character and has no octets, but a text
that holds one can be kept, compared and shown. It is kept as the private-use character at a fixed
distance from the unit that the half is.

These characters, U+10D800 to U+10DFFF, cannot stand for themselves as well. Wherever text is read,
from files, JSON, the environment or tools, it is understood that none of them is written in it;
what is said about text that was read is not meant for text in which one is. In UTF-8 they are the
characters whose first two octets are F4 and 8D and whose third is at least A0.
-/

namespace ScriptVet.Text

/-- How far the character that stands for a half is from the unit. -/
def halfDistance : Nat := 0x100000

/-- The character that stands for the half with a unit. -/
def ofHalf (unit : Nat) : Char :=
  Char.ofNat (halfDistance + unit)

/-- The character stands for a half. -/
def isHalf (c : Char) : Bool :=
  0x10D800 ≤ c.toNat && c.toNat < 0x10E000

/-- The code point of a character; for a half, its unit. -/
def codePoint (c : Char) : Nat :=
  if isHalf c then c.toNat - halfDistance else c.toNat

/-- Some of the characters stand for halves, so that the text has no octets. -/
def holdsHalf (s : String) : Bool :=
  s.toList.any isHalf

/-- The first run of halves: how many characters come before it, and the units. -/
def firstHalves (cs : List Char) : Nat × List Nat :=
  let before := cs.takeWhile fun c => !isHalf c
  (before.length, ((cs.drop before.length).takeWhile isHalf).map codePoint)

/-- Text without halves has the code points of its characters. -/
theorem codePoint_of_not_isHalf {c : Char} (h : isHalf c = false) : codePoint c = c.toNat := by
  simp [codePoint, h]

end ScriptVet.Text
