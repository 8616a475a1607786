import Mathlib.Data.List.DropRight
import ScriptVet.Proofs.Shell.Found

/-!
# Commands in shell text

A text in ASCII falls into runs of characters of words and other text. A run is never split at its
hyphens: it has one word at most, which begins with the first segment between hyphens that can begin
a word and goes on to the end of the run, less the hyphens there. The commands of a text are the
words of its runs that are in the list.
-/

namespace ScriptVet.Shell

/-- A character of two texts, one behind the other, stands in the first or in the second one. -/
theorem left_or_right_of_append {front rest left right : List Char} {c : Char}
    (same : front ++ c :: rest = left ++ right) :
    (∃ more, left = front ++ c :: more) ∨
      ∃ more, front = left ++ more ∧ right = more ++ c :: rest := by
  rcases List.append_eq_append_iff.mp same with ⟨more, rfl, cut⟩ | ⟨more, rfl, rfl⟩
  · cases more with
    | nil => exact .inr ⟨[], by simp, cut.symm⟩
    | cons d more => exact .inl ⟨more, by rw [(List.cons.inj cut).1]⟩
  · exact .inr ⟨more, rfl, rfl⟩

theorem getLast?_append_cons (front : List Char) (c : Char) (behind : List Char) :
    (front ++ c :: behind).getLast? = behind.getLast?.or (some c) := by
  rw [List.getLast?_append_of_ne_nil _ (List.cons_ne_nil _ _), List.getLast?_cons]
  cases behind.getLast? <;> rfl

/-! ## The word of a run -/

/-- A segment between hyphens that no word begins with: it is empty or begins with a digit. -/
def beginsNoWord (segment : List Char) : Bool :=
  segment.head?.all Char.isDigit

/-- The word of a run of characters of words; there is none if it has no characters. The leading
segments that no word begins with are left out, and so are the hyphens at the end. -/
def wordOfRun (run : List Char) : List Char :=
  (['-'].intercalate ((run.splitOn '-').dropWhile beginsNoWord)).rdropWhile (· == '-')

/-- No word begins among the characters: none that could begin one stands at the start or behind a
hyphen. -/
def BeginsNowhere (cs : List Char) : Prop :=
  ∀ front c rest, cs = front ++ c :: rest → isNameStart c → front.getLast?.all (· == '-') = false

/-- A run falls into characters that are passed over, its word, and hyphens. -/
structure IsCut (run skipped hyphens : List Char) : Prop where
  whole : run = skipped ++ (wordOfRun run ++ hyphens)
  nowhere : BeginsNowhere skipped
  hyphens : ∀ c ∈ hyphens, c = '-'
  begins : wordOfRun run ≠ [] → skipped.getLast?.all (· == '-') ∧
    ∃ c rest, wordOfRun run = c :: rest ∧ c ≠ '-' ∧ c.isDigit = false

theorem isDigit_of_isNameStart {c : Char} (start : isNameStart c) : c.isDigit = false :=
  forall_isNameChar (p := fun c => isNameStart c → c.isDigit = false) (by decide)
    (isNameChar_of_isNameStart start) start

section

variable {segment later : List Char}

theorem beginsNowhere_of_segment (free : '-' ∉ segment) (none : beginsNoWord segment) :
    BeginsNowhere segment := by
  intro front c rest same start
  cases last : front.getLast? with
  | none =>
      rw [List.getLast?_eq_none_iff] at last
      rw [same, last] at none
      have digit : c.isDigit := none
      rw [isDigit_of_isNameStart start] at digit
      cases digit
  | some d =>
      have mem : d ∈ segment := by
        rw [same]
        exact List.mem_append_left _ (List.mem_of_getLast? last)
      have other : d ≠ '-' := fun hyphen => free (hyphen ▸ mem)
      simpa using other

theorem beginsNowhere_nil : BeginsNowhere [] := by
  intro front c rest same
  simp at same

/-- Behind a hyphen the characters are looked at as if nothing stood before them. -/
theorem BeginsNowhere.append_hyphen (first : BeginsNowhere segment) (second : BeginsNowhere later) :
    BeginsNowhere (segment ++ '-' :: later) := by
  intro front c rest same start
  rcases left_or_right_of_append same.symm with ⟨more, rfl⟩ | ⟨more, rfl, cut⟩
  · exact first front c more rfl start
  · cases more with
    | nil =>
        obtain ⟨rfl, -⟩ := List.cons.inj cut
        exact absurd start (by decide)
    | cons d more =>
        obtain ⟨rfl, rfl⟩ := List.cons.inj cut
        have inside := second more c rest rfl start
        rw [getLast?_append_cons]
        cases last : more.getLast? with
        | none => rw [last] at inside; cases inside
        | some e => rwa [last] at inside

theorem wordOfRun_of_segment (free : '-' ∉ segment) (none : beginsNoWord segment) :
    wordOfRun segment = [] := by
  rw [wordOfRun, List.splitOn_eq_singleton free, List.dropWhile_cons_of_pos none]
  rfl

theorem wordOfRun_append_hyphen (free : '-' ∉ segment) (none : beginsNoWord segment) :
    wordOfRun (segment ++ '-' :: later) = wordOfRun later := by
  rw [wordOfRun, List.splitOn_append_cons_self, List.splitOn_eq_singleton free,
    List.singleton_append, List.dropWhile_cons_of_pos none]
  rfl

/-- A run whose first segment begins a word has all of it but the hyphens at the end. -/
theorem wordOfRun_of_begins {run : List Char} {first : List Char} {others : List (List Char)}
    (segments : run.splitOn '-' = first :: others) (begins : beginsNoWord first = false) :
    wordOfRun run = run.rdropWhile (· == '-') := by
  have none : ¬ beginsNoWord first := Bool.eq_false_iff.mp begins
  rw [wordOfRun, segments, List.dropWhile_cons_of_neg none, ← segments, List.intercalate_splitOn]

end

/-! ### The cut of a run -/

section

variable {segment later skipped hyphens : List Char}

/-- In a run of one segment that begins no word, everything is passed over. -/
theorem isCut_of_segment (free : '-' ∉ segment) (none : beginsNoWord segment) :
    IsCut segment segment [] where
  whole := by rw [wordOfRun_of_segment free none, List.append_nil, List.append_nil]
  nowhere := beginsNowhere_of_segment free none
  hyphens := nofun
  begins some := absurd (wordOfRun_of_segment free none) some

/-- A first segment that begins no word is passed over together with the hyphen behind it. -/
theorem IsCut.behind_segment (cut : IsCut later skipped hyphens) (free : '-' ∉ segment)
    (none : beginsNoWord segment) :
    IsCut (segment ++ '-' :: later) (segment ++ '-' :: skipped) hyphens where
  whole := by
    rw [wordOfRun_append_hyphen free none, List.append_assoc, List.cons_append, ← cut.whole]
  nowhere := (beginsNowhere_of_segment free none).append_hyphen cut.nowhere
  hyphens := cut.hyphens
  begins := by
    rw [wordOfRun_append_hyphen free none]
    intro some
    obtain ⟨last, first⟩ := cut.begins some
    refine ⟨?_, first⟩
    rw [getLast?_append_cons]
    cases ends : skipped.getLast? with
    | none => rfl
    | some d => rwa [ends] at last

/-- A run whose first segment begins a word is passed over only in its hyphens at the end. -/
theorem isCut_of_begins {rest : List Char} (free : '-' ∉ segment) (stops : Stops (· != '-') rest)
    (begins : beginsNoWord segment = false) :
    IsCut (segment ++ rest) [] ((segment ++ rest).rtakeWhile (· == '-')) := by
  have word : wordOfRun (segment ++ rest) = (segment ++ rest).rdropWhile (· == '-') := by
    cases rest with
    | nil =>
        rw [List.append_nil]
        exact wordOfRun_of_begins (List.splitOn_eq_singleton free) begins
    | cons c later =>
        obtain rfl : c = '-' := by simpa using stops_cons.mp stops
        have segments : (segment ++ '-' :: later).splitOn '-' = segment :: later.splitOn '-' := by
          rw [List.splitOn_append_cons_self, List.splitOn_eq_singleton free, List.singleton_append]
        exact wordOfRun_of_begins segments begins
  refine ⟨?_, beginsNowhere_nil, fun c mem => ?_, fun some => ⟨rfl, ?_⟩⟩
  · rw [word, List.nil_append, List.rdropWhile_append_rtakeWhile]
  · simpa using List.mem_rtakeWhile_imp mem
  · -- The word is not empty, so it begins as the first segment does.
    cases segment with
    | nil => cases begins
    | cons c tail =>
        obtain ⟨d, others, letters⟩ := List.exists_cons_of_ne_nil some
        have front : d :: others <+: c :: (tail ++ rest) := by
          rw [← letters, word]
          exact List.rdropWhile_prefix _ _
        obtain rfl := (List.cons_prefix_cons.mp front).1
        have solid : d ≠ '-' := fun hyphen => free (hyphen ▸ List.mem_cons_self)
        exact ⟨d, others, letters, solid, begins⟩

end

theorem exists_isCut (run : List Char) : ∃ skipped hyphens, IsCut run skipped hyphens := by
  obtain ⟨segment, rest, same, all, stops⟩ := exists_run (· != '-') run
  have free : '-' ∉ segment := fun mem => absurd (all _ mem) (by decide)
  by_cases none : beginsNoWord segment
  · cases rest with
    | nil =>
        rw [same, List.append_nil]
        exact ⟨segment, [], isCut_of_segment free none⟩
    | cons c later =>
        obtain rfl : c = '-' := by simpa using stops_cons.mp stops
        have shorter : later.length < run.length := by
          rw [same, List.length_append, List.length_cons]
          omega
        obtain ⟨skipped, hyphens, cut⟩ := exists_isCut later
        rw [same]
        exact ⟨_, hyphens, cut.behind_segment free none⟩
  · rw [Bool.not_eq_true] at none
    rw [same]
    exact ⟨[], _, isCut_of_begins free stops none⟩
termination_by run.length

/-! ## Words in runs -/

/-- A run of characters of words in a text, from its first character to its last. -/
structure IsRun (before run behind : List Char) : Prop where
  begins : ∀ c ∈ before.getLast?, isCommandChar c = false
  all : ∀ c ∈ run, isCommandChar c
  ends : Stops isCommandChar behind

/-- Before other characters than those of words, a run ends in its last character that is no
hyphen. -/
theorem longestWord_run {after : Option Char} {run : List Char} (plain : Text.isWord? after = false)
    (all : ∀ c ∈ run, isCommandChar c) :
    longestWord after run.reverse = run.rdropWhile (· == '-') := by
  induction run using List.reverseRecOn generalizing after with
  | nil => rfl
  | append_singleton run last ih =>
      rw [List.forall_mem_append, List.forall_mem_singleton] at all
      rw [List.reverse_append, List.reverse_singleton, List.singleton_append, longestWord,
        List.rdropWhile_concat]
      by_cases hyphen : last = '-'
      · have inside : Text.isBoundary (some last) after = false := by
          rw [Text.isBoundary, plain, hyphen]
          decide
        rw [inside, hyphen]
        exact ih (by decide) all.1
      · have name : isNameChar last := by simpa [isCommandChar, hyphen] using all.2
        have boundary : Text.isBoundary (some last) after := by
          simp [Text.isBoundary, plain, isWord_of_isNameChar name]
        simp [boundary, hyphen]

theorem word_run {before : Option Char} {c : Char} {tail behind : List Char}
    (first : Text.isWord? before = false) (start : isNameStart c)
    (all : ∀ d ∈ tail, isCommandChar d) (ends : Stops isCommandChar behind)
    (plain : Text.isWord? behind.head? = false) :
    word before (c :: (tail ++ behind)) =
      some (((c :: tail).rdropWhile (· == '-')).length, (c :: tail).rdropWhile (· == '-')) := by
  have inside : ∀ d ∈ c :: tail, isCommandChar d :=
    List.forall_mem_cons.mpr ⟨isCommandChar_of_isNameStart start, all⟩
  have run : (c :: (tail ++ behind)).takeWhile isCommandChar = c :: tail :=
    takeWhile_run inside ends
  have rest : (c :: (tail ++ behind)).drop (c :: tail).length = behind := by
    rw [← List.cons_append, List.drop_left]
  have some : ((c :: tail).rdropWhile (· == '-')).isEmpty = false := by
    rw [List.isEmpty_eq_false_iff, Ne, List.rdropWhile_eq_nil_iff]
    intro hyphens
    obtain rfl : c = '-' := by simpa using hyphens c List.mem_cons_self
    exact absurd start (by decide)
  simp only [word, start, first, run, rest, longestWord_run plain inside, some]
  rfl

theorem isNameStart_of_isCommandChar {c : Char} (command : isCommandChar c) (solid : c ≠ '-')
    (letter : c.isDigit = false) : isNameStart c := by
  simpa [isCommandChar, isNameChar, isNameStart, Char.isAlphanum, solid, letter] using command

/-- Of the ASCII characters only those of words are word characters. -/
theorem isWord?_of_ascii {c? : Option Char} (ascii : ∀ c ∈ c?, c.toNat < 0x80)
    (plain : ∀ c ∈ c?, isCommandChar c = false) : Text.isWord? c? = false := by
  cases c? with
  | none => rfl
  | some c =>
      have other := plain c rfl
      rw [isCommandChar, Bool.or_eq_false_iff] at other
      rw [Text.isWord?_some, Text.isWord_of_ascii (ascii c rfl)]
      exact other.1

section

variable {before run behind skipped hyphens : List Char}

/-- Hyphens behind the word of a run are no part of it. -/
theorem rdropWhile_wordOfRun (all : ∀ c ∈ hyphens, c = '-') :
    (wordOfRun run ++ hyphens).rdropWhile (· == '-') = wordOfRun run := by
  have none : ∀ c ∈ hyphens.reverse, (c == '-') = true := fun c mem => by
    simpa using all c (List.mem_reverse.mp mem)
  rw [List.rdropWhile, List.reverse_append, List.dropWhile_append_of_pos none]
  exact List.rdropWhile_idempotent _ _

/-- The start of a name in a run belongs to its word if nothing or a hyphen stands before it. -/
theorem IsCut.within (cut : IsCut run skipped hyphens) {front rest : List Char} {c : Char}
    (same : run = front ++ c :: rest) (start : isNameStart c)
    (first : front.getLast?.all (· == '-')) :
    skipped.length ≤ front.length ∧ front.length < skipped.length + (wordOfRun run).length := by
  have whole := same.symm.trans cut.whole
  rcases left_or_right_of_append whole with ⟨more, skips⟩ | ⟨more, rfl, inside⟩
  · rw [cut.nowhere front c more skips start] at first
    cases first
  · refine ⟨by simp, ?_⟩
    rcases left_or_right_of_append inside.symm with ⟨_, word⟩ | ⟨_, -, behind⟩
    · simp [word]
    · have hyphen := cut.hyphens c (by simp [behind])
      rw [hyphen] at start
      exact absurd start (by decide)

/-- In a run, a word may begin at the start and behind hyphens. -/
theorem isWord?_behind_iff {front : List Char} (ascii : ∀ c ∈ before, c.toNat < 0x80)
    (begins : ∀ c ∈ before.getLast?, isCommandChar c = false)
    (all : ∀ c ∈ front, isCommandChar c) :
    Text.isWord? (before ++ front).getLast? = false ↔ front.getLast?.all (· == '-') := by
  cases last : front.getLast? with
  | none =>
      rw [List.getLast?_eq_none_iff] at last
      rw [last, List.append_nil]
      exact iff_of_true
        (isWord?_of_ascii (fun c mem => ascii c (List.mem_of_getLast? mem)) begins) rfl
  | some d =>
      have mem := List.mem_of_getLast? last
      rw [List.getLast?_append_of_ne_nil _ (List.ne_nil_of_mem mem), last, Text.isWord?_some]
      by_cases hyphen : d = '-'
      · rw [hyphen]
        decide
      · have name : isNameChar d := by simpa [isCommandChar, hyphen] using all d mem
        simp [isWord_of_isNameChar name, hyphen]

/-- The word of a run is recognised behind what is passed over. -/
theorem word_here (ascii : ∀ c ∈ before ++ (run ++ behind), c.toNat < 0x80)
    (isRun : IsRun before run behind) (cut : IsCut run skipped hyphens)
    (some : wordOfRun run ≠ []) :
    word (before ++ skipped).getLast? (wordOfRun run ++ (hyphens ++ behind)) =
      .some ((wordOfRun run).length, wordOfRun run) := by
  obtain ⟨last, c, rest, letters, solid, letter⟩ := cut.begins some
  simp only [List.forall_mem_append] at ascii
  have all := isRun.all
  rw [cut.whole] at all
  simp only [List.forall_mem_append, letters, List.forall_mem_cons] at all
  obtain ⟨inSkipped, ⟨first, inRest⟩, inHyphens⟩ := all
  have whole : (wordOfRun run ++ hyphens).rdropWhile (· == '-') = wordOfRun run :=
    rdropWhile_wordOfRun cut.hyphens
  rw [letters, List.cons_append] at whole
  rw [letters, ← List.append_assoc, List.cons_append]
  have here := word_run ((isWord?_behind_iff ascii.1 isRun.begins inSkipped).mpr last)
    (isNameStart_of_isCommandChar first solid letter)
    (List.forall_mem_append.mpr ⟨inRest, inHyphens⟩) isRun.ends
    (isWord?_of_ascii (fun c mem => ascii.2.2 c (List.mem_of_head? mem)) isRun.ends)
  rwa [whole] at here

/-- A word that begins before a run ends before it. -/
theorem size_le_of_word (begins : ∀ c ∈ before.getLast?, isCommandChar c = false)
    {passed front rest : List Char} {c : Char} (same : before = passed ++ c :: front)
    {form : Nat × List Char} (here : word passed.getLast? (c :: front ++ rest) = some form) :
    form.1 ≤ (c :: front).length := by
  obtain ⟨-, size, prefixWord, d, tail, letters, start, others⟩ := exists_of_word here
  rw [String.toList_ofList] at letters
  rw [size]
  by_contra long
  -- A longer word would have the last character before the run, which is in no word.
  have inWord : c :: front <+: form.2 :=
    List.prefix_of_prefix_length_le (List.prefix_append _ rest) prefixWord (by omega)
  obtain ⟨e, last⟩ : ∃ e, (c :: front).getLast? = some e :=
    ⟨_, List.getLast?_eq_some_getLast (List.cons_ne_nil c front)⟩
  have plain : isCommandChar e = false := by
    refine begins e ?_
    rw [same, List.getLast?_append_of_ne_nil _ (List.cons_ne_nil c front)]
    exact last
  have mem := inWord.subset (List.mem_of_getLast? last)
  rw [letters] at mem
  have command : isCommandChar e := by
    rcases List.mem_cons.mp mem with rfl | mem
    · exact isCommandChar_of_isNameStart start
    · exact others e mem
  rw [plain] at command
  cases command

/-- The word of a run is found. -/
theorem mem_findAll_word (ascii : ∀ c ∈ before ++ (run ++ behind), c.toNat < 0x80)
    (isRun : IsRun before run behind) (cut : IsCut run skipped hyphens)
    (some : wordOfRun run ≠ []) :
    .behind (before ++ skipped) ((wordOfRun run).length, wordOfRun run) ∈
      findAll word (before ++ (run ++ behind)) := by
  have here := word_here ascii isRun cut some
  have whole : before ++ (run ++ behind) =
      (before ++ skipped) ++ (wordOfRun run ++ (hyphens ++ behind)) := by
    conv_lhs => rw [cut.whole]
    simp only [List.append_assoc]
  rw [whole]
  rcases mem_or_covered (by simp [some]) here with listed | ⟨found, mem, early, late⟩
  · exact listed
  -- An earlier word that goes on to here would begin before the run, or among the characters that
  -- are passed over.
  exfalso
  obtain ⟨passed, rest, form, same, there, rfl⟩ := exists_of_mem_findAll mem
  obtain ⟨first, size, ⟨more, rfl⟩, c, tail, letters, start, others⟩ := exists_of_word there
  rw [String.toList_ofList] at letters
  simp only [Found.behind, List.length_append] at early late
  rw [letters, List.cons_append] at same there
  rw [List.append_assoc] at same
  rcases left_or_right_of_append same.symm with ⟨front, split⟩ | ⟨front, rfl, inside⟩
  · have rests : c :: (tail ++ more) =
        c :: front ++ (skipped ++ (wordOfRun run ++ (hyphens ++ behind))) := by
      rw [split, List.append_assoc, List.append_cancel_left_eq] at same
      exact same.symm
    rw [rests] at there
    have short := size_le_of_word isRun.begins split there
    rw [split, List.length_append] at late
    omega
  · rcases left_or_right_of_append inside.symm with ⟨_, skips⟩ | ⟨_, rfl, -⟩
    · have inFront : ∀ d ∈ front, isCommandChar d := fun d mem =>
        isRun.all d (by rw [cut.whole, skips]; simp [mem])
      rw [isWord?_behind_iff (fun d mem => ascii d (by simp [mem])) isRun.begins inFront,
        cut.nowhere front c _ skips start] at first
      cases first
    · simp only [List.length_append] at early
      omega

end

/-- Every place of a text lies in a run, or at the end of one. -/
theorem exists_isRun (passed rest : List Char) :
    ∃ before front run behind, passed = before ++ front ∧ rest = run ++ behind ∧
      IsRun before (front ++ run) behind := by
  obtain ⟨before, front, rfl, inFront, begins⟩ := exists_lastRun isCommandChar passed
  obtain ⟨run, behind, rfl, inRun, ends⟩ := exists_run isCommandChar rest
  exact ⟨before, front, run, behind, rfl, rfl, begins,
    List.forall_mem_append.mpr ⟨inFront, inRun⟩, ends⟩

/-- A word is recognised in a run only at a character that begins one. -/
theorem exists_start_of_word {before : Option Char} {run behind : List Char}
    {form : Nat × List Char} (here : word before (run ++ behind) = some form)
    (ends : Stops isCommandChar behind) :
    Text.isWord? before = false ∧ 0 < form.1 ∧ ∃ c tail, run = c :: tail ∧ isNameStart c := by
  obtain ⟨first, size, ⟨more, same⟩, c, letters, spelled, start, -⟩ := exists_of_word here
  rw [String.toList_ofList] at spelled
  rw [spelled, List.cons_append] at same
  refine ⟨first, by rw [size, spelled]; exact Nat.zero_lt_succ _, ?_⟩
  cases run with
  | nil =>
      rw [List.nil_append] at same
      rw [← same, stops_cons, isCommandChar_of_isNameStart start] at ends
      cases ends
  | cons d tail =>
      obtain ⟨rfl, -⟩ := List.cons.inj same
      exact ⟨_, tail, rfl, start⟩

/-- The words of a text in ASCII are those of its runs. -/
theorem mem_words_iff {text : List Char} (ascii : ∀ c ∈ text, c.toNat < 0x80) {w : String} :
    w ∈ words text ↔ w ≠ "" ∧ ∃ before run behind, text = before ++ (run ++ behind) ∧
      IsRun before run behind ∧ String.ofList (wordOfRun run) = w := by
  rw [words, List.mem_map]
  constructor
  · rintro ⟨found, mem, rfl⟩
    obtain ⟨passed, rest, form, rfl, here, rfl⟩ := exists_of_mem_findAll mem
    obtain ⟨before, front, run, behind, rfl, rfl, isRun⟩ := exists_isRun passed rest
    obtain ⟨skipped, hyphens, cut⟩ := exists_isCut (front ++ run)
    obtain ⟨first, size, c, tail, rfl, start⟩ := exists_start_of_word here isRun.ends
    have inFront : ∀ d ∈ front, isCommandChar d := fun d mem =>
      isRun.all d (List.mem_append_left _ mem)
    rw [isWord?_behind_iff (fun d mem => ascii d (by simp [mem])) isRun.begins inFront] at first
    obtain ⟨early, late⟩ := cut.within rfl start first
    have some : wordOfRun (front ++ c :: tail) ≠ [] := by
      intro none
      rw [none, List.length_nil] at late
      omega
    have whole : before ++ front ++ (c :: tail ++ behind) =
        before ++ (front ++ c :: tail ++ behind) := by
      simp only [List.append_assoc]
    rw [whole] at ascii mem ⊢
    have there := mem_findAll_word ascii isRun cut some
    -- Both words cover the place, so they are the same.
    have covers' : (before ++ skipped).length ≤ (before ++ front).length ∧
        (before ++ front).length <
          (before ++ skipped).length + (wordOfRun (front ++ c :: tail)).length := by
      simp only [List.length_append]
      omega
    have same := eq_of_covers mem there ⟨le_rfl, Nat.lt_add_of_pos_right size⟩ covers'
    refine ⟨?_, before, _, behind, rfl, isRun, ?_⟩
    · rw [same]
      simpa [Found.behind] using some
    · rw [same, Found.behind]
  · rintro ⟨some, before, run, behind, rfl, isRun, rfl⟩
    have some : wordOfRun run ≠ [] := by
      intro none
      exact some (by rw [none, String.ofList_nil])
    obtain ⟨skipped, hyphens, cut⟩ := exists_isCut run
    exact ⟨_, mem_findAll_word ascii isRun cut some, rfl⟩

/-- In a text in ASCII the commands are, in strictly ascending order, those words of its runs that
are in the list. -/
theorem commands_exact {text : List Char} (ascii : ∀ c ∈ text, c.toNat < 0x80)
    (allowed : List String) :
    (∀ command, command ∈ commandsAmong allowed text ↔ command ∈ allowed ∧ command ≠ "" ∧
      ∃ before run behind, text = before ++ (run ++ behind) ∧ IsRun before run behind ∧
        String.ofList (wordOfRun run) = command) ∧
    (commandsAmong allowed text).Pairwise (· < ·) := by
  refine ⟨fun command => ?_, pairwise_sortedSet _⟩
  rw [commandsAmong, mem_sortedSet, List.mem_filter, List.contains_iff_mem, mem_words_iff ascii,
    and_comm]

/-- The hyphens inside a run do not split it, those at its end and the number before it are left
out. -/
theorem commandsAmong_of_hyphens :
    let text := "7z-git-lfs--;".toList
    (∀ c ∈ text, c.toNat < 0x80) ∧ "git-lfs" ∈ commandsAmong ["git", "git-lfs"] text := by
  intro text
  have ascii : ∀ c ∈ text, c.toNat < 0x80 := by
    simpa only [List.all_eq_true, decide_eq_true_eq] using
      (by decide : text.all fun c => decide (c.toNat < 0x80))
  have isRun : IsRun [] "7z-git-lfs--".toList [';'] :=
    ⟨nofun, List.all_eq_true.mp (by decide), stops_cons.mpr rfl⟩
  refine ⟨ascii, ((commands_exact ascii _).1 _).mpr ⟨by decide, by decide, ?_⟩⟩
  exact ⟨[], _, _, rfl, isRun, by decide +kernel⟩

end ScriptVet.Shell
