/-!
# Blanks

Which characters count as blanks, and how a text is stripped of them at both ends. Two readings are
in use. Text that people and tools write is stripped of every *blank*: the white space characters
of Unicode and the four information separators of ASCII. Numbers in settings are stripped of *white
space* alone.
-/

namespace ScriptVet.Text

/-- The white space characters of Unicode. -/
def isWhiteSpace (c : Char) : Bool :=
  let n := c.toNat
  (0x09 ≤ n && n ≤ 0x0D) || n == 0x20 || n == 0x85 || n == 0xA0 || n == 0x1680 ||
    (0x2000 ≤ n && n ≤ 0x200A) || n == 0x2028 || n == 0x2029 || n == 0x202F || n == 0x205F ||
    n == 0x3000

/-- White space and the information separators U+001C to U+001F. -/
def isBlank (c : Char) : Bool :=
  (0x1C ≤ c.toNat && c.toNat ≤ 0x1F) || isWhiteSpace c

/-- The blanks within a line of shell: spaces and tabs. -/
def isSpaceOrTab (c : Char) : Bool :=
  c == ' ' || c == '\t'

/-- The text without the characters at both ends that are in the class. -/
def stripWhere (inClass : Char → Bool) (cs : List Char) : List Char :=
  ((cs.dropWhile inClass).reverse.dropWhile inClass).reverse

/-- The text without blanks at both ends. -/
def strip (s : String) : String :=
  String.ofList (stripWhere isBlank s.toList)

/-- Nothing but blanks. -/
def isBlankText (s : String) : Bool :=
  s.toList.all isBlank

theorem isBlank_of_isWhiteSpace {c : Char} (h : isWhiteSpace c) : isBlank c := by
  simp [isBlank, h]

theorem isBlank_of_isSpaceOrTab {c : Char} (h : isSpaceOrTab c) : isBlank c := by
  simp only [isSpaceOrTab, Bool.or_eq_true, beq_iff_eq] at h
  rcases h with rfl | rfl <;> decide

@[simp] theorem stripWhere_nil (inClass : Char → Bool) : stripWhere inClass [] = [] := rfl

end ScriptVet.Text
