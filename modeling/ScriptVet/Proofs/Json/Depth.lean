import ScriptVet.Proofs.Json.ReadBack
import ScriptVet.Proofs.Json.Steps

/-!
# How deep the reader goes

What was read is no higher than the reader may go. Who may go deeper reads the same, so a value that
is nested too deep for a reader is not read back from its text in any form: the text is refused.
-/

namespace ScriptVet.Json

theorem fieldsHeight_put_le (key : String) (value : Json) (fields : List (String × Json)) :
    fieldsHeight (Keyed.put key value fields) ≤ max value.height (fieldsHeight fields) := by
  induction fields with
  | nil => exact Nat.le_refl _
  | cons field fields ih =>
      obtain ⟨k, v⟩ := field
      rw [Keyed.put]
      split <;> simp only [fieldsHeight] <;> omega

/-- Putting fields together makes none higher. -/
theorem fieldsHeight_merge_le (base more : List (String × Json)) :
    fieldsHeight (Keyed.merge base more) ≤ max (fieldsHeight base) (fieldsHeight more) := by
  induction more generalizing base with
  | nil => exact Nat.le_max_left _ _
  | cons field more ih =>
      obtain ⟨key, value⟩ := field
      have first := fieldsHeight_put_le key value base
      have others := ih (Keyed.put key value base)
      rw [fieldsHeight]
      exact Nat.le_trans others (by omega)

theorem fieldsHeight_ofFields_le (fields : List (String × Json)) :
    fieldsHeight (ofFields fields) ≤ fieldsHeight fields := by
  have merged := fieldsHeight_merge_le [] fields
  rwa [fieldsHeight, Nat.zero_max] at merged

namespace Reader

variable {dialect : JsonDialect} {fuel depth : Nat} {cs rest : List Char}

theorem height_of_readUnsigned {negative : Bool} {v : Json}
    (read : readUnsigned dialect negative cs = .ok (v, rest)) : v.height = 1 := by
  simp only [readUnsigned] at read
  split at read
  · cases read
  · split at read
    · cases read
    · split at read <;> cases read <;> rfl

theorem height_of_readName {v : Json} (read : readName cs = .ok (v, rest)) : v.height = 1 := by
  unfold readName at read
  split at read <;> cases read <;> rfl

theorem height_of_readScalar {v : Json} (read : readScalar dialect cs = .ok (v, rest)) :
    v.height = 1 := by
  unfold readScalar at read
  split at read
  · next named => exact height_of_readName (named.trans read)
  · exact height_of_readUnsigned read
  · exact height_of_readUnsigned read

/-- The ways to get a value, with one unit of fuel more than its parts have. -/
inductive GetsValue (dialect : JsonDialect) (fuel depth : Nat) :
    List Char → Json → List Char → Prop
  | text {cs rest : List Char} {s : String} : readText dialect cs = .ok (s, rest) →
      GetsValue dialect fuel depth ('"' :: cs) (.str s) rest
  | noItems {cs rest : List Char} : ¬ (depth = 0 && dialect.countsEmpty) = true →
      skipSpace cs = ']' :: rest → GetsValue dialect fuel depth ('[' :: cs) (.arr []) rest
  | items {cs rest : List Char} {items : List Json} : depth ≠ 0 →
      (∀ tail, skipSpace cs ≠ ']' :: tail) →
      readItems dialect fuel (depth - 1) (skipSpace cs) = .ok (items, rest) →
      GetsValue dialect fuel depth ('[' :: cs) (.arr items) rest
  | noFields {cs rest : List Char} : ¬ (depth = 0 && dialect.countsEmpty) = true →
      skipSpace cs = '\x7d' :: rest → GetsValue dialect fuel depth ('\x7b' :: cs) (.obj []) rest
  | fields {cs rest : List Char} {fields : List (String × Json)} : depth ≠ 0 →
      (∀ tail, skipSpace cs ≠ '\x7d' :: tail) →
      readFields dialect fuel (depth - 1) (skipSpace cs) = .ok (fields, rest) →
      GetsValue dialect fuel depth ('\x7b' :: cs) (.obj (ofFields fields)) rest
  | scalar {cs rest : List Char} {v : Json} : (∀ tail, cs ≠ '"' :: tail) →
      (∀ tail, cs ≠ '[' :: tail) → (∀ tail, cs ≠ '\x7b' :: tail) →
      readScalar dialect cs = .ok (v, rest) → GetsValue dialect fuel depth cs v rest

theorem readValue_eq_ok_iff {v : Json} :
    readValue dialect (fuel + 1) depth cs = .ok (v, rest) ↔
      GetsValue dialect fuel depth cs v rest := by
  constructor
  · intro read
    cases begins cs with
    | text cs =>
        rw [readValue_text] at read
        obtain ⟨⟨s, tail⟩, got, ⟨⟩⟩ := Result.map_eq_ok.mp read
        exact .text got
    | array cs =>
        rw [readValue_array, Result.unless_eq_ok_iff, opened_eq_ok_iff] at read
        obtain ⟨opens, ⟨tail, closes, ⟨⟩⟩ | ⟨more, read⟩⟩ := read
        · exact .noItems opens closes
        · obtain ⟨deep, read⟩ := Result.unless_eq_ok_iff.mp read
          obtain ⟨⟨items, tail⟩, got, ⟨⟩⟩ := Result.map_eq_ok.mp read
          exact .items deep more got
    | object cs =>
        rw [readValue_object, Result.unless_eq_ok_iff, opened_eq_ok_iff] at read
        obtain ⟨opens, ⟨tail, closes, ⟨⟩⟩ | ⟨more, read⟩⟩ := read
        · exact .noFields opens closes
        · obtain ⟨deep, read⟩ := Result.unless_eq_ok_iff.mp read
          obtain ⟨⟨fields, tail⟩, got, ⟨⟩⟩ := Result.map_eq_ok.mp read
          exact .fields deep more got
    | other noText noArray noObject =>
        rw [readValue_other dialect fuel depth noText noArray noObject] at read
        exact .scalar noText noArray noObject read
  · intro got
    cases got with
    | text got =>
        rw [readValue_text, got]
        rfl
    | noItems opens closes =>
        rw [readValue_array, Result.unless_eq_ok_iff, opened_eq_ok_iff]
        exact ⟨opens, .inl ⟨rest, closes, rfl⟩⟩
    | items deep more got =>
        rw [readValue_array, Result.unless_eq_ok_iff, opened_eq_ok_iff, if_neg deep, got]
        exact ⟨by simp [deep], .inr ⟨more, rfl⟩⟩
    | noFields opens closes =>
        rw [readValue_object, Result.unless_eq_ok_iff, opened_eq_ok_iff]
        exact ⟨opens, .inl ⟨rest, closes, rfl⟩⟩
    | fields deep more got =>
        rw [readValue_object, Result.unless_eq_ok_iff, opened_eq_ok_iff, if_neg deep, got]
        exact ⟨by simp [deep], .inr ⟨more, rfl⟩⟩
    | scalar noText noArray noObject got =>
        rw [readValue_other dialect fuel depth noText noArray noObject]
        exact got

/-- Items end after the first or go on with others. -/
theorem readItems_eq_ok_iff {items : List Json} {tail : List Char} :
    readItems dialect (fuel + 1) depth cs = .ok (items, tail) ↔
      ∃ item rest, readValue dialect fuel depth cs = .ok (item, rest) ∧
        ((skipSpace rest = ']' :: tail ∧ items = [item]) ∨
          ∃ more others, skipSpace rest = ',' :: more ∧
            readItems dialect fuel depth (skipSpace more) = .ok (others, tail) ∧
            items = item :: others) := by
  simp only [readItems_succ, Result.bind_eq_ok, Prod.exists,
    listed_eq_ok_iff (show ']' ≠ ',' by decide)]

/-- Fields begin with a key and its value and end there or go on with others. -/
theorem readFields_eq_ok_iff {fields : List (String × Json)} {tail : List Char} :
    readFields dialect (fuel + 1) depth cs = .ok (fields, tail) ↔
      ∃ text key named blanks value rest, cs = '"' :: text ∧
        readText dialect text = .ok (key, named) ∧ skipSpace named = ':' :: blanks ∧
        readValue dialect fuel depth (skipSpace blanks) = .ok (value, rest) ∧
        ((skipSpace rest = '\x7d' :: tail ∧ fields = [(key, value)]) ∨
          ∃ more others, skipSpace rest = ',' :: more ∧
            readFields dialect fuel depth (skipSpace more) = .ok (others, tail) ∧
            fields = (key, value) :: others) := by
  by_cases text : ∃ text, cs = '"' :: text
  · obtain ⟨text, rfl⟩ := text
    simp only [readFields_text, Result.bind_eq_ok, Prod.exists, keyed_eq_ok_iff,
      listed_eq_ok_iff (show '\x7d' ≠ ',' by decide)]
    constructor
    · rintro ⟨key, named, gotKey, blanks, colon, value, rest, gotValue, others⟩
      exact ⟨text, key, named, blanks, value, rest, rfl, gotKey, colon, gotValue, others⟩
    · rintro ⟨_, key, named, blanks, value, rest, ⟨⟩, gotKey, colon, gotValue, others⟩
      exact ⟨key, named, gotKey, blanks, colon, value, rest, gotValue, others⟩
  · rw [readFields_other dialect fuel depth (not_exists.mp text)]
    refine iff_of_false nofun ?_
    rintro ⟨tail, _, _, _, _, _, begins, -⟩
    exact text ⟨tail, begins⟩

/-- What is read at some depth is at most one higher. -/
theorem height_le_of_read (dialect : JsonDialect) (fuel : Nat) :
    (∀ {depth cs rest v}, readValue dialect fuel depth cs = .ok (v, rest) →
        v.height ≤ depth + 1) ∧
      (∀ {depth cs rest items}, readItems dialect fuel depth cs = .ok (items, rest) →
        itemsHeight items ≤ depth + 1) ∧
      ∀ {depth cs rest fields}, readFields dialect fuel depth cs = .ok (fields, rest) →
        fieldsHeight fields ≤ depth + 1 := by
  induction fuel with
  | zero => refine ⟨?_, ?_, ?_⟩ <;> intro depth cs rest _ read <;> cases read
  | succ fuel ih =>
      obtain ⟨value, items, fields⟩ := ih
      refine ⟨fun {depth cs rest v} read => ?_, fun {depth cs rest all} read => ?_,
        fun {depth cs rest all} read => ?_⟩
      · cases readValue_eq_ok_iff.mp read with
        | text | noItems | noFields => simp [height, itemsHeight, fieldsHeight]
        | items deep _ got =>
            have low := items got
            rw [height]
            omega
        | fields deep _ got =>
            have low := Nat.le_trans (fieldsHeight_ofFields_le _) (fields got)
            rw [height]
            omega
        | scalar _ _ _ got =>
            rw [height_of_readScalar got]
            omega
      · obtain ⟨item, rest', first, ⟨-, rfl⟩ | ⟨more, others, -, got, rfl⟩⟩ :=
          readItems_eq_ok_iff.mp read
        · simpa [itemsHeight] using value first
        · exact Nat.max_le.mpr ⟨value first, items got⟩
      · obtain ⟨_, key, _, _, v, rest', -, -, -, first,
          ⟨-, rfl⟩ | ⟨more, others, -, got, rfl⟩⟩ := readFields_eq_ok_iff.mp read
        · simpa [fieldsHeight] using value first
        · exact Nat.max_le.mpr ⟨value first, fields got⟩

/-- Who may go deeper reads the same. -/
theorem read_of_le (dialect : JsonDialect) (fuel : Nat) :
    (∀ {depth depth' cs rest v}, depth ≤ depth' →
        readValue dialect fuel depth cs = .ok (v, rest) →
        readValue dialect fuel depth' cs = .ok (v, rest)) ∧
      (∀ {depth depth' cs rest items}, depth ≤ depth' →
        readItems dialect fuel depth cs = .ok (items, rest) →
        readItems dialect fuel depth' cs = .ok (items, rest)) ∧
      ∀ {depth depth' cs rest fields}, depth ≤ depth' →
        readFields dialect fuel depth cs = .ok (fields, rest) →
        readFields dialect fuel depth' cs = .ok (fields, rest) := by
  induction fuel with
  | zero => refine ⟨?_, ?_, ?_⟩ <;> intro depth depth' cs rest _ _ read <;> cases read
  | succ fuel ih =>
      obtain ⟨value, items, fields⟩ := ih
      refine ⟨fun {depth depth' cs rest v} le read => ?_,
        fun {depth depth' cs rest all} le read => ?_,
        fun {depth depth' cs rest all} le read => ?_⟩
      · have opensDeeper (opens : ¬ (depth = 0 && dialect.countsEmpty) = true) :
            ¬ (depth' = 0 && dialect.countsEmpty) = true := by
          simp only [Bool.and_eq_true, decide_eq_true_eq, not_and] at opens ⊢
          exact fun zero => opens (by omega)
        rw [readValue_eq_ok_iff] at read ⊢
        cases read with
        | text got => exact .text got
        | noItems opens closes => exact .noItems (opensDeeper opens) closes
        | items deep more got => exact .items (by omega) more (items (by omega) got)
        | noFields opens closes => exact .noFields (opensDeeper opens) closes
        | fields deep more got => exact .fields (by omega) more (fields (by omega) got)
        | scalar noText noArray noObject got => exact .scalar noText noArray noObject got
      · obtain ⟨item, rest', first, others⟩ := readItems_eq_ok_iff.mp read
        refine readItems_eq_ok_iff.mpr ⟨item, rest', value le first, others.imp_right ?_⟩
        rintro ⟨more, later, goesOn, got, rfl⟩
        exact ⟨more, later, goesOn, items le got, rfl⟩
      · obtain ⟨text, key, named, blanks, v, rest', rfl, gotKey, colon, first, others⟩ :=
          readFields_eq_ok_iff.mp read
        refine readFields_eq_ok_iff.mpr ⟨text, key, named, blanks, v, rest', rfl, gotKey, colon,
          value le first, others.imp_right ?_⟩
        rintro ⟨more, later, goesOn, got, rfl⟩
        exact ⟨more, later, goesOn, fields le got, rfl⟩

/-- A plain value that is nested too deep is not read back as anything. -/
theorem read_write_of_lt {style : Style} (dialect : JsonDialect) {v : Json}
    (whole : style.asciiOnly → v.brokenText? = none) (plain : v.IsPlain)
    (high : dialect.depth + 1 < v.height) :
    ∃ fault, read dialect (write style 0 v) = .error fault := by
  cases got : read dialect (write style 0 v) with
  | error fault => exact ⟨fault, rfl⟩
  | ok w =>
      exfalso
      have start := skipSpace_write style 0 plain []
      rw [List.append_nil] at start
      rw [read, start, Result.bind_eq_ok] at got
      obtain ⟨⟨w', rest⟩, value, -⟩ := got
      have low := (height_le_of_read dialect _).1 value
      -- A reader that may go as deep as the value is high reads the value itself.
      have deeper := (read_of_le dialect _).1 (show dialect.depth ≤ v.height by omega) value
      have all := readsBack dialect v whole plain 0 (2 * (write style 0 v).length + 2)
        v.height [] (by omega) (by omega) endsNumber_nil
      rw [List.append_nil, deeper] at all
      cases hl : v.longNumeral? dialect.digitLimit with
      | none =>
          rw [hl] at all
          cases all
          omega
      | some digits =>
          rw [hl] at all
          cases all

end Reader

end ScriptVet.Json
