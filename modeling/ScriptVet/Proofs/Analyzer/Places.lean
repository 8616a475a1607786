import ScriptVet.Proofs.Analyzer.Parsing

/-!
# The lines of strict mode

In strict mode lines stand before a script, and the parser counts them. A message that names a line
so many further on leads to the same place as it would without them: the first place that a message
names stays the first when its number changes, and the column behind it stays the column. Lines
before the script are no place. Only numerals with more digits than are converted stand in the way.
-/

namespace ScriptVet

namespace ParseCheck

/-! ## The first place in a message -/

/-- A place is named here: a word that begins with a line number. -/
def StartsPlace (before : Option Char) (cs : List Char) : Prop :=
  Text.isWord? before = false ∧
    ∃ digit rest, cs = "line ".toList ++ digit :: rest ∧ Text.isDecimalDigit digit

/-- A message with a line number in it. -/
def naming (front line behind : List Char) : List Char :=
  front ++ ("line ".toList ++ (line ++ behind))

/-- The line is the first that the message names, and it is named in full. -/
structure NamesLine (front line behind : List Char) : Prop where
  written : line ≠ []
  digits : ∀ c ∈ line, Text.isDecimalDigit c
  ends : ∀ c ∈ behind.head?, Text.isDecimalDigit c = false
  word : Text.isWord? front.getLast? = false
  first : ∀ before c after, front = before ++ c :: after →
    ¬ StartsPlace before.getLast? (c :: after ++ ("line ".toList ++ (line ++ behind)))

/-- The digits of the column that may follow a line number. -/
def columnIn (behind : List Char) : Option (List Char) :=
  (numeralAfter? ", column " behind).map (·.1)

theorem numeralAfter?_append (start : String) {digits rest : List Char} (written : digits ≠ [])
    (all : ∀ c ∈ digits, Text.isDecimalDigit c)
    (ends : ∀ c ∈ rest.head?, Text.isDecimalDigit c = false) :
    numeralAfter? start (start.toList ++ (digits ++ rest)) = some (digits, rest) := by
  have span : (digits ++ rest).span Text.isDecimalDigit = (digits, rest) := by
    rw [List.span_eq_takeWhile_dropWhile, List.takeWhile_append_of_pos all,
      List.dropWhile_append_of_pos all]
    cases rest with
    | nil => simp
    | cons c rest => simp [ends c rfl]
  rw [numeralAfter?, Text.dropStart?_eq_some_iff.mpr rfl]
  simp only [Option.bind_eq_bind, Option.bind_some, span]
  exact if_neg (by simpa using written)

/-- No numeral is found after a text if no digit follows. -/
theorem numeralAfter?_eq_none {start : String} {cs : List Char}
    (noDigit : ∀ digit rest, cs = start.toList ++ digit :: rest →
      ¬ Text.isDecimalDigit digit) : numeralAfter? start cs = none := by
  rw [numeralAfter?]
  cases begins : Text.dropStart? start.toList cs with
  | none => rfl
  | some rest =>
      have parts := Text.dropStart?_eq_some_iff.mp begins
      simp only [Option.bind_eq_bind, Option.bind_some, List.span_eq_takeWhile_dropWhile]
      cases rest with
      | nil => rfl
      | cons digit rest => rw [List.takeWhile_cons_of_neg (noDigit digit rest parts)]; rfl

/-- The search goes on where no place is named. -/
theorem findNumerals_of_not_startsPlace {before : Option Char} {c : Char} {rest : List Char}
    (not : ¬ StartsPlace before (c :: rest)) :
    findNumerals before (c :: rest) = findNumerals (some c) rest := by
  rw [findNumerals]
  by_cases word : Text.isWord? before
  · rw [if_pos word]
  · rw [if_neg word, numeralAfter?_eq_none]
    intro digit tail begins isDigit
    exact not ⟨Bool.eq_false_iff.mpr word, digit, tail, begins, isDigit⟩

/-- It ends where a line is named. -/
theorem findNumerals_here {before : Option Char} {line behind : List Char}
    (free : Text.isWord? before = false) (written : line ≠ [])
    (digits : ∀ c ∈ line, Text.isDecimalDigit c)
    (ends : ∀ c ∈ behind.head?, Text.isDecimalDigit c = false) :
    findNumerals before ("line ".toList ++ (line ++ behind)) = some (line, columnIn behind) := by
  have found := numeralAfter?_append "line " written digits ends
  have begins : "line ".toList ++ (line ++ behind) = 'l' :: ("ine ".toList ++ (line ++ behind)) :=
    rfl
  rw [begins] at found ⊢
  rw [findNumerals, if_neg (by rw [free]; decide), found]
  rfl

/-- The first line that a message names is found. -/
theorem findNumerals_naming {front line behind : List Char}
    (named : NamesLine front line behind) :
    findNumerals none (naming front line behind) = some (line, columnIn behind) := by
  suffices passed : ∀ before after, front = before ++ after →
      findNumerals before.getLast? (after ++ ("line ".toList ++ (line ++ behind))) =
        some (line, columnIn behind) from passed [] front rfl
  intro before after parts
  induction after generalizing before with
  | nil =>
      rw [List.append_nil] at parts
      subst parts
      exact findNumerals_here named.word named.written named.digits named.ends
  | cons c after ih =>
      have next := ih (before ++ [c]) (by rw [parts, List.append_assoc, List.singleton_append])
      rw [List.getLast?_append_of_ne_nil _ (List.cons_ne_nil c [])] at next
      exact (findNumerals_of_not_startsPlace (named.first before c after parts)).trans next

/-- Whether a place is named earlier does not depend on the number: the text before it cannot hold
the beginning of what names it. -/
theorem StartsPlace.of_number {before : Option Char} {c : Char} {after tail : List Char}
    (starts : StartsPlace before (c :: after ++ ("line ".toList ++ tail))) (tail' : List Char) :
    StartsPlace before (c :: after ++ ("line ".toList ++ tail')) := by
  obtain ⟨free, digit, rest, same, isDigit⟩ := starts
  -- The first letter comes only once, and it is no digit.
  rcases after with _ | ⟨c₁, _ | ⟨c₂, _ | ⟨c₃, _ | ⟨c₄, _ | ⟨c₅, after⟩⟩⟩⟩⟩
  · simp at same
  · simp at same
  · simp at same
  · simp at same
  · obtain ⟨-, -, -, -, -, rfl, -⟩ : c = 'l' ∧ c₁ = 'i' ∧ c₂ = 'n' ∧ c₃ = 'e' ∧ c₄ = ' ' ∧
        'l' = digit ∧ 'i' :: 'n' :: 'e' :: ' ' :: tail = rest := by
      simpa using same
    cases isDigit
  · obtain ⟨rfl, rfl, rfl, rfl, rfl, rfl, -⟩ : c = 'l' ∧ c₁ = 'i' ∧ c₂ = 'n' ∧ c₃ = 'e' ∧
        c₄ = ' ' ∧ c₅ = digit ∧ after ++ 'l' :: 'i' :: 'n' :: 'e' :: ' ' :: tail = rest := by
      simpa using same
    exact ⟨free, c₅, after ++ ("line ".toList ++ tail'), rfl, isDigit⟩

/-- Another number in the place of the first is the first. -/
theorem NamesLine.of_number {front line line' behind : List Char}
    (named : NamesLine front line behind) (written : line' ≠ [])
    (digits : ∀ c ∈ line', Text.isDecimalDigit c) : NamesLine front line' behind where
  written := written
  digits := digits
  ends := named.ends
  word := named.word
  first before c after parts starts := named.first before c after parts (starts.of_number _)

/-! ## The place that is taken from it -/

/-- The place in a line of the script; before the first line there is none. -/
def placeAt (line : Nat) (column? : Option (List Char)) : Result (Option Location) :=
  if h : 0 < line then do
    let column? ← column?.mapM column
    .ok (some ⟨⟨line, h⟩, column?⟩)
  else .ok none

theorem location_naming {front line behind : List Char} (named : NamesLine front line behind)
    (linesBefore : Int) :
    location (naming front line behind) linesBefore = (do
      let n ← number line
      placeAt ((n : Int) - linesBefore).toNat (columnIn behind)) := by
  rw [location, findNumerals_naming named]
  rfl

theorem digitValue?_of_isDigit {c : Char} (digit : c.isDigit) :
    Text.digitValue? c = some (c.toNat - 48) := by
  have small : c.toNat < 0x80 := by
    have bounds : 48 ≤ c.toNat ∧ c.toNat ≤ 57 := Char.isDigit_iff_toNat.mp digit
    omega
  rw [Text.digitValue?_of_ascii small, if_pos digit]

section

variable (n : Nat)

theorem isDigit_of_mem_toDigits {c : Char} (mem : c ∈ Nat.toDigits 10 n) : c.isDigit :=
  Nat.isDigit_of_mem_toDigits (by decide) (by decide) mem

theorem isDecimalDigit_of_mem_toDigits : ∀ c ∈ Nat.toDigits 10 n, Text.isDecimalDigit c := by
  intro c mem
  rw [Text.isDecimalDigit, digitValue?_of_isDigit (isDigit_of_mem_toDigits n mem)]
  rfl

theorem numeral_toDigits : Text.numeral (Nat.toDigits 10 n) = n := by
  refine Eq.trans ?_ (Json.Reader.natOfDigits_toDigits n)
  refine List.foldl_ext _ _ 0 fun value c mem => ?_
  rw [digitValue?_of_isDigit (isDigit_of_mem_toDigits n mem)]
  rfl

/-- Zeros in front count for nothing. -/
theorem numeral_replicate_zero : Text.numeral (List.replicate n '0') = 0 := by
  induction n with
  | zero => rfl
  | succ n ih =>
      rw [List.replicate_succ', Text.numeral_append_singleton, ih]
      rfl

theorem length_toDigits_le_numeralLimit {n : Nat} :
    (Nat.toDigits 10 n).length ≤ numeralLimit ↔ n < 10 ^ numeralLimit :=
  Nat.length_toDigits_le_iff (by decide) (by decide)

theorem number_toDigits (short : (Nat.toDigits 10 n).length ≤ numeralLimit) :
    number (Nat.toDigits 10 n) = .ok n := by
  rw [number_of_le short, numeral_toDigits]

end

section

variable {front behind : List Char} {line : List Char}

/-- A message that names a line so many further on leads to the same place behind so many lines. -/
theorem location_naming_add {n : Nat} (named : NamesLine front (Nat.toDigits 10 n) behind)
    (more : Nat) (short : (Nat.toDigits 10 (n + more)).length ≤ numeralLimit) :
    location (naming front (Nat.toDigits 10 (n + more)) behind) more =
      location (naming front (Nat.toDigits 10 n) behind) 0 := by
  have later := named.of_number (Nat.toDigits_ne_nil) (isDecimalDigit_of_mem_toDigits (n + more))
  have short' : (Nat.toDigits 10 n).length ≤ numeralLimit :=
    length_toDigits_le_numeralLimit.mpr
      (Nat.lt_of_le_of_lt (Nat.le_add_right n more) (length_toDigits_le_numeralLimit.mp short))
  rw [location_naming later, location_naming named, number_toDigits _ short,
    number_toDigits _ short', Result.ok_bind, Result.ok_bind]
  congr 1
  omega

theorem location_naming_of_lt (named : NamesLine front line behind)
    (long : numeralLimit < line.length) (linesBefore : Int) :
    location (naming front line behind) linesBefore =
      .error (.json (.numeralTooLong line.length)) := by
  rw [location_naming named, number_of_lt long, Result.error_bind]

/-- A line before the script is no place. -/
theorem location_naming_of_le (named : NamesLine front line behind)
    (short : line.length ≤ numeralLimit) {linesBefore : Int}
    (le : (Text.numeral line : Int) ≤ linesBefore) :
    location (naming front line behind) linesBefore = .ok none := by
  rw [location_naming named, number_of_le short, Result.ok_bind]
  exact dif_neg (by omega)

end

end ParseCheck

namespace Analyzer

open ParseCheck

/-- How many lines stand before a script in a parse check. -/
def linesBefore (kind : AnalyzerKind) : Int :=
  Text.lineFeeds (prologueOf kind).toList

/-- Strict mode takes a message that names a line three further on to the place that the message
leads to without the three lines, if the number is converted at all, and to none if the line is one
of the three. -/
theorem strict_places_agree (front behind : List Char) :
    (∀ n, NamesLine front (Nat.toDigits 10 n) behind →
      ((Nat.toDigits 10 (n + 3)).length ≤ numeralLimit →
        location (naming front (Nat.toDigits 10 (n + 3)) behind) (linesBefore .strictMode) =
          location (naming front (Nat.toDigits 10 n) behind) (linesBefore .parses)) ∧
      (numeralLimit < (Nat.toDigits 10 (n + 3)).length →
        ∃ fault, location (naming front (Nat.toDigits 10 (n + 3)) behind)
          (linesBefore .strictMode) = .error fault)) ∧
    ∀ line, NamesLine front line behind →
      1 ≤ Text.numeral line → Text.numeral line ≤ 3 →
        (line.length ≤ numeralLimit →
          location (naming front line behind) (linesBefore .strictMode) = .ok none) ∧
        (numeralLimit < line.length →
          ∃ fault, location (naming front line behind) (linesBefore .strictMode) =
            .error fault) := by
  have three : linesBefore .strictMode = (3 : Nat) := by decide +kernel
  have none : linesBefore .parses = 0 := rfl
  rw [three, none]
  refine ⟨fun n named => ⟨location_naming_add named 3, fun long => ?_⟩,
    fun line named first last => ⟨fun short => ?_, fun long => ?_⟩⟩
  · have later := named.of_number Nat.toDigits_ne_nil (isDecimalDigit_of_mem_toDigits (n + 3))
    exact ⟨_, location_naming_of_lt later long _⟩
  · exact location_naming_of_le named short (by omega)
  · exact ⟨_, location_naming_of_lt named long _⟩

/-- Behind the three lines the eighth line is the eleventh. -/
theorem strict_places_agree_on_eleven :
    let front := "sh: ".toList
    let behind := ", column 2: x".toList
    NamesLine front (Nat.toDigits 10 8) behind ∧
      location (naming front (Nat.toDigits 10 11) behind) (linesBefore .strictMode) =
        location (naming front (Nat.toDigits 10 8) behind) (linesBefore .parses) ∧
      NamesLine front ['2'] behind ∧
      location (naming front ['2'] behind) (linesBefore .strictMode) = .ok none := by
  intro front behind
  have named (line : List Char) (written : line ≠ [])
      (digits : ∀ c ∈ line, Text.isDecimalDigit c) : NamesLine front line behind := by
    refine ⟨written, digits, by rintro c ⟨⟩; decide, by decide, ?_⟩
    rintro before c after parts ⟨-, digit, rest, same, -⟩
    have letter : 'l' ∈ front := by
      rw [parts, (List.cons.inj same).1]
      exact List.mem_append_right _ List.mem_cons_self
    exact absurd letter (by decide)
  have eight := named _ Nat.toDigits_ne_nil (isDecimalDigit_of_mem_toDigits 8)
  have two := named ['2'] (by decide) (by decide)
  obtain ⟨agree, none⟩ := strict_places_agree front behind
  exact ⟨eight, (agree 8 eight).1 (by decide), two,
    (none _ two (by decide) (by decide)).1 (by decide)⟩

/-- A numeral with too many digits makes strict mode break off, even where it is a line before the
script, or a line that is placed without the three lines. -/
theorem strict_place_breaks_at_long_numeral :
    let first := List.replicate numeralLimit '0' ++ ['1']
    let last := 10 ^ numeralLimit - 1
    (NamesLine [] first [] ∧ Text.numeral first = 1 ∧
      ∃ fault, location (naming [] first []) (linesBefore .strictMode) = .error fault) ∧
    NamesLine [] (Nat.toDigits 10 last) [] ∧
      (∃ place, location (naming [] (Nat.toDigits 10 last) []) (linesBefore .parses) =
        .ok (some place)) ∧
      ∃ fault, location (naming [] (Nat.toDigits 10 (last + 3)) []) (linesBefore .strictMode) =
        .error fault := by
  intro first last
  have alone {line : List Char} (written : line ≠ [])
      (digits : ∀ c ∈ line, Text.isDecimalDigit c) : NamesLine [] line [] :=
    ⟨written, digits, nofun, rfl, fun before c after parts => by simp at parts⟩
  have digits : ∀ c ∈ first, Text.isDecimalDigit c := by
    intro c mem
    rcases List.mem_append.mp mem with zero | one
    · rw [(List.mem_replicate.mp zero).2]
      decide
    · rw [List.mem_singleton.mp one]
      decide
  have long : numeralLimit < first.length := by simp [first]
  have named := alone (List.append_ne_nil_of_right_ne_nil _ (List.cons_ne_nil _ _)) digits
  have named' := alone Nat.toDigits_ne_nil (isDecimalDigit_of_mem_toDigits last)
  have later := alone Nat.toDigits_ne_nil (isDecimalDigit_of_mem_toDigits (last + 3))
  have power : 1 < 10 ^ numeralLimit := Nat.one_lt_pow (by decide) (by decide)
  have short : (Nat.toDigits 10 last).length ≤ numeralLimit :=
    length_toDigits_le_numeralLimit.mpr (Nat.sub_lt (Nat.zero_lt_of_lt power) Nat.one_pos)
  have long' : numeralLimit < (Nat.toDigits 10 (last + 3)).length := by
    rw [← Nat.not_le, length_toDigits_le_numeralLimit]
    omega
  refine ⟨⟨named, ?_, _, location_naming_of_lt named long _⟩, named', ?_,
    _, location_naming_of_lt later long' _⟩
  · rw [Text.numeral_append_singleton, numeral_replicate_zero]
    rfl
  · rw [location_naming named', number_toDigits _ short, Result.ok_bind]
    have inside : 0 < ((last : Int) - linesBefore .parses).toNat := by
      change 0 < ((last : Int) - 0).toNat
      omega
    exact ⟨_, dif_pos inside⟩

end Analyzer

end ScriptVet
