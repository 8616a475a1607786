/-!
# Lines

Three readings of "line" are in use. Line numbers count line feeds alone. The first line of what a
tool or a person wrote ends at any of the line breaks of Unicode. A text file is read with every
carriage return, alone or before a line feed, turned into a line feed.
-/

namespace ScriptVet.Text

/-- The characters that end a line in the widest reading. -/
def isLineBreak (c : Char) : Bool :=
  let n := c.toNat
  (0x0A ≤ n && n ≤ 0x0D) || (0x1C ≤ n && n ≤ 0x1E) || n == 0x85 || n == 0x2028 || n == 0x2029

/-- The first line in the widest reading, if there is any text. -/
def firstLine? (s : String) : Option String :=
  if s.isEmpty then none else some (String.ofList (s.toList.takeWhile (!isLineBreak ·)))

/-- Reads every line ending as a line feed. -/
def readNewlines : List Char → List Char
  | [] => []
  | '\r' :: '\n' :: rest => '\n' :: readNewlines rest
  | c :: rest => (if c = '\r' then '\n' else c) :: readNewlines rest

/-- How many line feeds there are. -/
def lineFeeds (cs : List Char) : Nat :=
  cs.count '\n'

/-- The line, counted from one, of the character at an offset; an offset past the end counts every
line feed. -/
def lineOf (text : List Char) (offset : Nat) : Nat :=
  lineFeeds (text.take offset) + 1

/-- The offset a signed offset means: a negative one counts back from the end, and stops at the
start. -/
def resolveOffset (text : List Char) (offset : Int) : Nat :=
  if offset < 0 then (text.length + offset).toNat else offset.toNat

/-- The pieces between the occurrences of a character; there is always at least one. -/
def split (separator : Char) : List Char → List (List Char)
  | [] => [[]]
  | c :: rest =>
    if c = separator then [] :: split separator rest
    else
      match split separator rest with
      | [] => [[c]]
      | piece :: pieces => (c :: piece) :: pieces

/-- The lines of a text where any of the line breaks ends a line; a break at the very end begins no
further line. -/
def splitLines : List Char → List (List Char)
  | [] => []
  | '\r' :: '\n' :: rest => [] :: splitLines rest
  | c :: rest =>
    if isLineBreak c then [] :: splitLines rest
    else
      match splitLines rest with
      | [] => [[c]]
      | line :: lines => (c :: line) :: lines

@[simp] theorem lineFeeds_nil : lineFeeds [] = 0 := rfl

/-- Lines are counted from one. -/
theorem one_le_lineOf (text : List Char) (offset : Nat) : 1 ≤ lineOf text offset := by
  simp [lineOf]

/-- A later offset lies on the same or on a later line. -/
theorem lineOf_mono (text : List Char) {first second : Nat} (h : first ≤ second) :
    lineOf text first ≤ lineOf text second := by
  have sub : (text.take first).Sublist (text.take second) :=
    (List.take_prefix_take_left h).sublist
  exact Nat.succ_le_succ (sub.count_le '\n')

/-- A text without carriage returns is read unchanged. -/
theorem readNewlines_eq_self {cs : List Char} (h : '\r' ∉ cs) : readNewlines cs = cs := by
  fun_induction readNewlines cs with
  | case1 => rfl
  | case2 rest _ => simp at h
  | case3 c rest _ ih =>
    have hc : c ≠ '\r' := fun e => h (by simp [e])
    have hr : '\r' ∉ rest := fun e => h (by simp [e])
    rw [if_neg hc, ih hr]

/-- No carriage return is left. -/
theorem not_mem_readNewlines (cs : List Char) : '\r' ∉ readNewlines cs := by
  fun_induction readNewlines cs with
  | case1 => simp
  | case2 rest ih => simp [ih]
  | case3 c rest _ ih =>
    by_cases hc : c = '\r'
    · simp [hc, ih]
    · simp [hc, ih, Ne.symm hc]

end ScriptVet.Text
