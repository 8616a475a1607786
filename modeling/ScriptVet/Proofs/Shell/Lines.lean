import ScriptVet.Proofs.Shell.Search

/-!
# Forms that begin a line

Some forms are looked for at the start of a line only, perhaps behind blanks, and blanks go over
line ends. Such a form is *wrapped* if it goes over a line end after it has begun. A form that is
not wrapped stands in one line of the text and is recognised in that line alone; a form that is
recognised in a line alone is found in the text, unless the line begins inside a wrapped form.
-/

namespace ScriptVet.Shell

open Text (isBlank)

/-! ## Lines -/

/-- The text is at its end or goes on with a line feed. -/
abbrev AtLineEnd (rest : List Char) : Prop :=
  Stops (· != '\n') rest

/-- A line of a text, with the text before and behind it. -/
structure IsLine (before line behind : List Char) : Prop where
  begins : atLineStart before.getLast?
  whole : '\n' ∉ line
  ends : AtLineEnd behind

theorem atLineStart_iff {passed : List Char} :
    atLineStart passed.getLast? ↔ passed = [] ∨ ∃ earlier, passed = earlier ++ ['\n'] := by
  simp [atLineStart, List.getLast?_eq_some_iff]

theorem atLineEnd_iff {rest : List Char} :
    AtLineEnd rest ↔ rest = [] ∨ ∃ later, rest = '\n' :: later := by
  cases rest with
  | nil => simp
  | cons c rest => simp [AtLineEnd]

/-- The first line of a text. -/
theorem exists_firstLine (text : List Char) :
    ∃ line behind, text = line ++ behind ∧ '\n' ∉ line ∧ AtLineEnd behind := by
  obtain ⟨line, behind, same, all, ends⟩ := exists_run (· != '\n') text
  exact ⟨line, behind, same, fun mem => absurd (all _ mem) (by decide), ends⟩

/-- A form without line feeds ends before the lines that come behind a text. -/
theorem exists_append_of_atLineEnd {cs behind form rest : List Char}
    (same : cs ++ behind = form ++ rest) (whole : '\n' ∉ form) (ends : AtLineEnd behind) :
    ∃ more, cs = form ++ more ∧ rest = more ++ behind := by
  rcases List.append_eq_append_iff.mp same with ⟨more, rfl, rfl⟩ | ⟨more, rfl, rfl⟩
  · cases more with
    | nil => exact ⟨[], by simp, rfl⟩
    | cons c more =>
        have feed : c = '\n' := by simpa using ends c rfl
        exact absurd (List.mem_append_right cs (feed ▸ List.mem_cons_self)) whole
  · exact ⟨more, rfl, rfl⟩

/-- Lines that come behind a text do not change whether it goes on with a class that has no line
feeds. -/
theorem stops_append_iff {inClass : Char → Bool} {rest behind : List Char}
    (feed : inClass '\n' = false) (ends : AtLineEnd behind) :
    Stops inClass (rest ++ behind) ↔ Stops inClass rest := by
  cases rest with
  | nil =>
      rcases atLineEnd_iff.mp ends with rfl | ⟨later, rfl⟩
      · rfl
      · exact iff_of_true (stops_cons.mpr feed) stops_nil
  | cons c rest => rfl

theorem exists_isLine_of_mem {text line : List Char} (mem : line ∈ text.splitOn '\n') :
    ∃ before behind, text = before ++ (line ++ behind) ∧ IsLine before line behind := by
  obtain ⟨first, rest, same, whole, ends⟩ := exists_firstLine text
  rcases atLineEnd_iff.mp ends with rfl | ⟨later, rfl⟩
  · rw [same, List.append_nil, List.splitOn_eq_singleton whole, List.mem_singleton] at mem
    exact ⟨[], [], by rw [same, mem, List.nil_append], rfl, mem ▸ whole, stops_nil⟩
  · rw [same, List.splitOn_append_cons_self, List.splitOn_eq_singleton whole,
      List.singleton_append, List.mem_cons] at mem
    rcases mem with rfl | mem
    · exact ⟨[], '\n' :: later, same, rfl, whole, ends⟩
    · have shorter : later.length < text.length := by
        rw [same, List.length_append, List.length_cons]
        omega
      obtain ⟨before, behind, rfl, isLine⟩ := exists_isLine_of_mem mem
      refine ⟨first ++ '\n' :: before, behind, ?_, ?_, isLine.whole, isLine.ends⟩
      · rw [same, List.append_assoc, List.cons_append]
      · rcases atLineStart_iff.mp isLine.begins with rfl | ⟨earlier, rfl⟩
        · exact atLineStart_iff.mpr (.inr ⟨first, rfl⟩)
        · exact atLineStart_iff.mpr (.inr ⟨first ++ '\n' :: earlier, by simp⟩)
termination_by text.length

theorem mem_splitOn_iff {text line : List Char} :
    line ∈ text.splitOn '\n' ↔
      ∃ before behind, text = before ++ (line ++ behind) ∧ IsLine before line behind := by
  refine ⟨exists_isLine_of_mem, ?_⟩
  rintro ⟨before, behind, rfl, isLine⟩
  have alone : line ∈ (line ++ behind).splitOn '\n' := by
    rcases atLineEnd_iff.mp isLine.ends with rfl | ⟨later, rfl⟩
    · rw [List.append_nil, List.splitOn_eq_singleton isLine.whole]
      exact List.mem_singleton_self line
    · rw [List.splitOn_append_cons_self, List.splitOn_eq_singleton isLine.whole]
      exact List.mem_append_left _ (List.mem_singleton_self line)
  rcases atLineStart_iff.mp isLine.begins with rfl | ⟨earlier, rfl⟩
  · exact alone
  · rw [List.append_assoc, List.singleton_append, List.splitOn_append_cons_self]
    exact List.mem_append_right _ alone

/-- Of any characters, those behind the last line feed. -/
theorem exists_lastLine (cs : List Char) :
    ∃ front last, cs = front ++ last ∧ '\n' ∉ last ∧ atLineStart front.getLast? := by
  obtain ⟨front, last, same, all, begins⟩ := exists_lastRun (· != '\n') cs
  refine ⟨front, last, same, fun mem => absurd (all _ mem) (by decide), ?_⟩
  cases ends : front.getLast? with
  | none => rfl
  | some c => simpa [atLineStart] using begins c ends

/-! ## Forms that begin a line -/

/-- Apart from the blanks before it, the form goes over a line end. -/
def Found.Wraps (found : Found) (text : List Char) : Prop :=
  '\n' ∈ ((text.drop found.start).take (found.stop - found.start)).dropWhile isBlank

/-- Forms that begin a line, perhaps behind blanks. -/
structure LineForm (recognise : Recogniser) where
  /-- The text is a form with a part if this text follows it. -/
  IsForm : List Char → List Char → List Char → Prop
  recognise_iff : ∀ {before text form}, recognise before text = some form ↔
    atLineStart before ∧ ∃ blanks content behind, text = blanks ++ (content ++ behind) ∧
      (∀ c ∈ blanks, isBlank c) ∧ IsForm content form.2 behind ∧
        form.1 = blanks.length + content.length
  /-- A form begins with a character that is no blank. -/
  solid : ∀ {content part behind}, IsForm content part behind →
    ∃ c rest, content = c :: rest ∧ isBlank c = false
  /-- A form in one line is one without the lines behind it. -/
  alone : ∀ {content part behind after}, IsForm content part (behind ++ after) →
    '\n' ∉ content → '\n' ∉ behind → AtLineEnd after → IsForm content part behind
  /-- A form with a part is one whatever lines come behind it. -/
  further : ∀ {content part behind after}, IsForm content part behind → part ≠ [] →
    '\n' ∉ behind → AtLineEnd after → IsForm content part (behind ++ after)

namespace LineForm

variable {recognise : Recogniser} (forms : LineForm recognise)

/-- A form that is found in a text begins a line, behind blanks. -/
structure StandsAt (found : Found) (passed blanks content behind : List Char) : Prop where
  begins : atLineStart passed.getLast?
  blank : ∀ c ∈ blanks, isBlank c
  isForm : forms.IsForm content found.part behind
  start : found.start = passed.length
  stop : found.stop = passed.length + (blanks.length + content.length)

variable {forms}

theorem exists_standsAt {text : List Char} {found : Found} (mem : found ∈ findAll recognise text) :
    ∃ passed blanks content behind, text = passed ++ (blanks ++ (content ++ behind)) ∧
      forms.StandsAt found passed blanks content behind := by
  obtain ⟨passed, rest, form, rfl, here, rfl⟩ := exists_of_mem_findAll mem
  obtain ⟨begins, blanks, content, behind, rfl, blank, isForm, size⟩ := forms.recognise_iff.mp here
  exact ⟨passed, blanks, content, behind, rfl, begins, blank, isForm, rfl, by rw [← size]; rfl⟩

namespace StandsAt

variable {found : Found} {passed blanks content behind : List Char}
  (stands : forms.StandsAt found passed blanks content behind)

include stands

theorem wraps_iff :
    found.Wraps (passed ++ (blanks ++ (content ++ behind))) ↔ '\n' ∈ content := by
  obtain ⟨c, rest, same, solid⟩ := forms.solid stands.isForm
  have stops : Stops isBlank content := by rw [same]; exact stops_cons.mpr solid
  have size : found.stop - found.start = (blanks ++ content).length := by
    rw [stands.stop, stands.start, List.length_append]
    omega
  rw [Found.Wraps, size, stands.start, List.drop_left, ← List.append_assoc, List.take_left,
    dropWhile_run stands.blank stops]

/-- A form that is not wrapped stands in one line and is recognised there. -/
theorem exists_line (whole : '\n' ∉ content) :
    ∃ before line after form,
      passed ++ (blanks ++ (content ++ behind)) = before ++ (line ++ after) ∧
        IsLine before line after ∧ recognise none line = some form ∧ form.2 = found.part ∧
        found.start ≤ before.length ∧ before.length < found.stop := by
  obtain ⟨front, last, rfl, wholeLast, begins⟩ := exists_lastLine blanks
  obtain ⟨rest, after, rfl, wholeRest, ends⟩ := exists_firstLine behind
  obtain ⟨c, tail, same, -⟩ := forms.solid stands.isForm
  refine ⟨passed ++ front, last ++ (content ++ rest), after,
    (last.length + content.length, found.part), by simp only [List.append_assoc],
    ⟨?_, ?_, ends⟩, ?_, rfl, ?_, ?_⟩
  · rcases atLineStart_iff.mp begins with rfl | ⟨earlier, rfl⟩
    · rw [List.append_nil]
      exact stands.begins
    · exact atLineStart_iff.mpr (.inr ⟨passed ++ earlier, (List.append_assoc _ _ _).symm⟩)
  · simp only [List.mem_append, not_or]
    exact ⟨wholeLast, whole, wholeRest⟩
  · refine forms.recognise_iff.mpr ⟨rfl, last, content, rest, rfl, ?_, ?_, rfl⟩
    · exact fun c mem => stands.blank c (List.mem_append_right _ mem)
    · exact forms.alone stands.isForm whole wholeRest ends
  · rw [stands.start, List.length_append]
    omega
  · rw [stands.stop, same]
    simp only [List.length_append, List.length_cons]
    omega

/-- The form is recognised at every line that begins among the blanks before it. -/
theorem recognise_behind {front rest : List Char} (same : blanks = front ++ rest)
    {before : Option Char} (begins : atLineStart before) :
    recognise before (rest ++ (content ++ behind)) =
      some (rest.length + content.length, found.part) := by
  refine forms.recognise_iff.mpr ⟨begins, rest, content, behind, rfl, fun c mem => ?_,
    stands.isForm, rfl⟩
  exact stands.blank c (by rw [same]; exact List.mem_append_right _ mem)

/-- A line that begins inside a form begins among the blanks before its content, or the content
goes over the end of the line before. -/
theorem cut {inside rest : List Char} (same : blanks ++ (content ++ behind) = inside ++ rest)
    (ends : inside.getLast? = some '\n')
    (short : inside.length < blanks.length + content.length) :
    (∃ more, blanks = inside ++ more ∧ rest = more ++ (content ++ behind)) ∨
      ∃ front more, inside = blanks ++ front ∧ content = front ++ more ∧ rest = more ++ behind ∧
        front.getLast? = some '\n' := by
  rcases List.append_eq_append_iff.mp same with ⟨front, rfl, same'⟩ | ⟨more, rfl, rfl⟩
  · rcases List.append_eq_append_iff.mp same' with ⟨later, rfl, -⟩ | ⟨more, rfl, rfl⟩
    · simp only [List.length_append] at short
      omega
    · by_cases none : front = []
      · exact .inl ⟨[], by simp [none], by simp [none]⟩
      · rw [List.getLast?_append_of_ne_nil _ none] at ends
        exact .inr ⟨front, more, rfl, rfl, rfl, ends⟩
  · exact .inl ⟨more, rfl, rfl⟩

end StandsAt

section

variable {before line after : List Char} {form : Nat × List Char}

/-- What is recognised has a character. -/
theorem pos_of_recognise (forms : LineForm recognise) {start : Option Char} {cs : List Char}
    (here : recognise start cs = some form) : cs ≠ [] ∧ 0 < form.1 := by
  obtain ⟨-, blanks, content, behind, rfl, -, isForm, size⟩ := forms.recognise_iff.mp here
  obtain ⟨c, tail, rfl, -⟩ := forms.solid isForm
  rw [size, List.length_cons]
  exact ⟨by simp, by omega⟩

/-- What is recognised in a line alone is recognised where the line stands. -/
theorem recognise_line (forms : LineForm recognise) (isLine : IsLine before line after)
    (here : recognise none line = some form) (some : form.2 ≠ []) :
    recognise before.getLast? (line ++ after) = .some form := by
  obtain ⟨-, blanks, content, behind, rfl, blank, isForm, size⟩ := forms.recognise_iff.mp here
  refine forms.recognise_iff.mpr ⟨isLine.begins, blanks, content, behind ++ after,
    by simp only [List.append_assoc], blank, forms.further isForm some ?_ isLine.ends, size⟩
  exact fun mem => isLine.whole (List.mem_append_right _ (List.mem_append_right _ mem))

/-- What is recognised in a line alone is found in the text, or the line begins inside a form that
goes over the end of the line before. -/
theorem exists_found_of_line (forms : LineForm recognise) (isLine : IsLine before line after)
    (here : recognise none line = some form) (some : form.2 ≠ []) :
    ∃ found ∈ findAll recognise (before ++ (line ++ after)),
      found.start ≤ before.length ∧ before.length < found.stop ∧
        (found.part = form.2 ∨ ∃ passed blanks front more behind,
          before = passed ++ (blanks ++ front) ∧ line ++ after = more ++ behind ∧
            forms.StandsAt found passed blanks (front ++ more) behind ∧
              front.getLast? = .some '\n') := by
  have there := forms.recognise_line isLine here some
  obtain ⟨more, size⟩ := forms.pos_of_recognise there
  rcases mem_or_covered more there with listed | ⟨found, mem, early, late⟩
  · exact ⟨_, listed, le_rfl, Nat.lt_add_of_pos_right size, .inl rfl⟩
  · refine ⟨found, mem, early.le, late, ?_⟩
    obtain ⟨passed, blanks, content, behind, same, stands⟩ := forms.exists_standsAt mem
    rw [stands.start] at early
    rw [stands.stop] at late
    rcases List.append_eq_append_iff.mp same with ⟨inside, rfl, -⟩ | ⟨inside, rfl, tail⟩
    · rw [List.length_append] at early
      omega
    · have within : inside ≠ [] := by
        rintro rfl
        exact absurd early (by simp)
      have last := List.getLast?_append_of_ne_nil passed within
      have begins' := isLine.begins
      rw [last] at begins'
      obtain ⟨earlier, ends⟩ := (atLineStart_iff.mp begins').resolve_left within
      rw [List.length_append, Nat.add_lt_add_iff_left] at late
      -- The line feed before the line is among the blanks of the earlier form, which is then the
      -- one that the line begins with, or in its content.
      rcases stands.cut tail (List.getLast?_eq_some_iff.mpr ⟨earlier, ends⟩) late with
        ⟨more, blanks, rest⟩ | ⟨front, more, rfl, rfl, rest, ends⟩
      · have there' := stands.recognise_behind blanks begins'
        rw [← rest, ← last, there] at there'
        exact .inl (congrArg Prod.snd (Option.some.inj there')).symm
      · exact .inr ⟨passed, _, front, more, behind, rfl, rest, stands, ends⟩

/-- In a line alone a form is found at its start only. -/
theorem mem_findAll_line_iff (forms : LineForm recognise) (whole : '\n' ∉ line) {found : Found} :
    found ∈ findAll recognise line ↔
      ∃ form, recognise none line = .some form ∧ found = .behind [] form := by
  constructor
  · intro mem
    obtain ⟨passed, rest, form, rfl, here, rfl⟩ := exists_of_mem_findAll mem
    rcases atLineStart_iff.mp (forms.recognise_iff.mp here).1 with rfl | ⟨earlier, rfl⟩
    · exact ⟨form, here, rfl⟩
    · exact absurd (by simp) whole
  · rintro ⟨form, here, rfl⟩
    exact mem_findAll_of_start (forms.pos_of_recognise here).1 here

/-- A form that is not wrapped covers the start of a line in which its part is found. -/
theorem exists_line_of_found (forms : LineForm recognise) {text : List Char} {found : Found}
    (mem : found ∈ findAll recognise text) (whole : ¬ found.Wraps text) :
    ∃ before line after, text = before ++ (line ++ after) ∧ IsLine before line after ∧
      (found.start ≤ before.length ∧ before.length < found.stop) ∧
        ∃ alone ∈ findAll recognise line, alone.part = found.part := by
  obtain ⟨passed, blanks, content, behind, rfl, stands⟩ := forms.exists_standsAt mem
  rw [stands.wraps_iff] at whole
  obtain ⟨before, line, after, form, same, isLine, here, part, covers⟩ := stands.exists_line whole
  exact ⟨before, line, after, same, isLine, covers, _,
    (forms.mem_findAll_line_iff isLine.whole).mpr ⟨form, here, rfl⟩, part⟩

end

end LineForm

end ScriptVet.Shell
