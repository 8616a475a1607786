import ScriptVet.Json.Writable
import ScriptVet.Proofs.Json.Scalars
import ScriptVet.Proofs.Json.Steps

/-!
# Values that are read back

A value without floating-point numbers is read back as it was written, on one line or indented, if
the reader may open as many arrays and objects and has fuel for every character. Text that is
written in ASCII alone must not hold half of a surrogate pair; in plain Unicode it may. The one
thing that can go wrong is that an integer has more digits than the reader converts. Objects have to
have each key once, as they do when they were read.
-/

namespace ScriptVet.Json

mutual

/-- No floating-point numbers, and each key once. -/
def IsPlain : Json → Prop
  | .float _ => False
  | .arr items => AllPlain items
  | .obj fields => FieldsPlain fields ∧ (fields.map Prod.fst).Nodup
  | _ => True

/-- All items are plain. -/
def AllPlain : List Json → Prop
  | [] => True
  | item :: items => IsPlain item ∧ AllPlain items

/-- The values of all fields are plain. -/
def FieldsPlain : List (String × Json) → Prop
  | [] => True
  | (_, value) :: fields => IsPlain value ∧ FieldsPlain fields

end

mutual

/-- The number of digits of the first integer that has more than there may be. -/
def longNumeral? (limit : Option Nat) : Json → Option Nat
  | .int n =>
    let digits := (Nat.toDigits 10 n.natAbs).length
    if limit.any (· < digits) then some digits else none
  | .arr items => longItem? limit items
  | .obj fields => longField? limit fields
  | _ => none

/-- The same for items. -/
def longItem? (limit : Option Nat) : List Json → Option Nat
  | [] => none
  | item :: items => (longNumeral? limit item).or (longItem? limit items)

/-- The same for fields. -/
def longField? (limit : Option Nat) : List (String × Json) → Option Nat
  | [] => none
  | (_, value) :: fields => (longNumeral? limit value).or (longField? limit fields)

end

theorem brokenField?_cons_eq_none_iff {key : String} {value : Json}
    {fields : List (String × Json)} :
    brokenField? ((key, value) :: fields) = none ↔
      Text.holdsHalf key = false ∧ value.brokenText? = none ∧ brokenField? fields = none := by
  rw [brokenField?]
  cases Text.holdsHalf key with
  | true => simp
  | false => simp [Option.or_eq_none_iff]

theorem brokenText?_str_eq_none_iff {s : String} :
    (Json.str s).brokenText? = none ↔ Text.holdsHalf s = false := by
  rw [brokenText?]
  cases Text.holdsHalf s <;> simp

section Items

variable {α : Type} {toJson : α → Json} {values : List α}

theorem brokenItem?_map_eq_none_iff :
    brokenItem? (values.map toJson) = none ↔ ∀ a ∈ values, (toJson a).brokenText? = none := by
  induction values with
  | nil => exact iff_of_true rfl nofun
  | cons a values ih =>
      rw [List.map_cons, brokenItem?, Option.or_eq_none_iff, ih, List.forall_mem_cons]

theorem longItem?_map_eq_none_iff {limit : Option Nat} :
    longItem? limit (values.map toJson) = none ↔
      ∀ a ∈ values, (toJson a).longNumeral? limit = none := by
  induction values with
  | nil => exact iff_of_true rfl nofun
  | cons a values ih =>
      rw [List.map_cons, longItem?, Option.or_eq_none_iff, ih, List.forall_mem_cons]

theorem allPlain_map_iff : AllPlain (values.map toJson) ↔ ∀ a ∈ values, (toJson a).IsPlain := by
  induction values with
  | nil => exact iff_of_true trivial nofun
  | cons a values ih => rw [List.map_cons, AllPlain, ih, List.forall_mem_cons]

theorem itemsHeight_map_le_iff {n : Nat} :
    itemsHeight (values.map toJson) ≤ n ↔ ∀ a ∈ values, (toJson a).height ≤ n := by
  induction values with
  | nil => exact iff_of_true (Nat.zero_le n) nofun
  | cons a values ih => rw [List.map_cons, itemsHeight, Nat.max_le, ih, List.forall_mem_cons]

end Items

theorem checkHeights_eq_ok_iff {fields : List (String × Json)} :
    checkHeights fields = .ok () ↔ fieldsHeight fields ≤ heightLimit := by
  rw [checkHeights]
  split <;> simp <;> omega

theorem checkText_eq_ok_iff {value : Json} :
    checkText value = .ok () ↔ value.brokenText? = none := by
  rw [checkText]
  cases value.brokenText? <;> simp

namespace Reader

/-- What reading gives where a long numeral may stand in the way. -/
def unlessLong {α : Type} (long? : Option Nat) (value : α) : Except JsonFault α :=
  long?.elim (.ok value) fun digits => .error (.numeralTooLong digits)

/-- How many arrays and objects more may lie inside one another than count as open. -/
def slack (dialect : JsonDialect) : Nat :=
  if dialect.countsEmpty then 0 else 1

theorem unlessLong_bind {α β : Type} (long? : Option Nat) (a : α)
    (next : α → Except JsonFault β) :
    (unlessLong long? a >>= next) =
      long?.elim (next a) fun digits => .error (.numeralTooLong digits) := by
  cases long? <;> rfl

theorem unlessLong_map {α β : Type} (long? : Option Nat) (a : α) (f : α → β) :
    (unlessLong long? a).map f = unlessLong long? (f a) := by
  cases long? <;> rfl

/-- The first of two long numerals stands in the way of both values. -/
theorem unlessLong_or {α : Type} (first? second? : Option Nat) (a : α) :
    first?.elim (unlessLong second? a) (fun digits => .error (.numeralTooLong digits)) =
      unlessLong (first?.or second?) a := by
  cases first? <;> rfl

theorem skipSpace_cons {c : Char} (h : isSpace c = false) (cs : List Char) :
    skipSpace (c :: cs) = c :: cs := by
  simp [skipSpace, h]

theorem skipSpace_lineBreak (style : Style) (depth : Nat) (cs : List Char) :
    skipSpace (style.lineBreak depth ++ cs) = skipSpace cs := by
  rw [Style.lineBreak]
  cases style.indent with
  | none => rfl
  | some width =>
      exact List.dropWhile_append_of_pos fun c hc => by
        rcases List.mem_cons.mp hc with rfl | hc
        · rfl
        · rw [List.eq_of_mem_replicate hc]
          rfl

theorem skipSpace_colon (style : Style) (cs : List Char) :
    ∃ blanks, style.colon ++ cs = ':' :: blanks ∧ skipSpace blanks = skipSpace cs := by
  rw [Style.colon]
  split
  · exact ⟨' ' :: cs, rfl, rfl⟩
  · exact ⟨cs, rfl, rfl⟩

theorem endsNumber_lineBreak (style : Style) (depth : Nat) {cs : List Char}
    (ends : EndsNumber cs) : EndsNumber (style.lineBreak depth ++ cs) := by
  rw [Style.lineBreak]
  cases style.indent with
  | none => exact ends
  | some width =>
      exact endsNumber_cons (by decide) (by decide) (by decide) (by decide) _

/-- A written integer begins with a sign or a digit. -/
theorem intText_eq_cons (n : Int) : ∃ c cs, intText n = c :: cs ∧ (c = '-' ∨ c.isDigit) := by
  rw [intText]
  split
  · exact ⟨_, _, rfl, .inl rfl⟩
  · obtain ⟨c, cs, hc⟩ := List.exists_cons_of_ne_nil
      (Nat.toDigits_ne_nil (n := n.natAbs) (b := 10))
    refine ⟨c, cs, hc, .inr ?_⟩
    exact Nat.isDigit_of_mem_toDigits (by decide) (by decide) (hc ▸ List.mem_cons_self)

/-- What is no sign and no digit does not begin an integer. -/
theorem ne_of_beginsInt {c d : Char} (h : c = '-' ∨ c.isDigit) (hm : d ≠ '-')
    (hd : d.isDigit = false) : c ≠ d := by
  rintro rfl
  rcases h with h | h
  · exact hm h
  · rw [hd] at h
    cases h

/-- A written value begins with a character that is no blank and closes nothing. -/
theorem write_eq_cons (style : Style) (indent : Nat) {v : Json} (plain : v.IsPlain) :
    ∃ c cs, write style indent v = c :: cs ∧ isSpace c = false ∧ c ≠ ']' ∧ c ≠ '\x7d' := by
  cases v with
  | null => exact ⟨_, _, rfl, by decide, by decide, by decide⟩
  | bool b => cases b <;> exact ⟨_, _, rfl, by decide, by decide, by decide⟩
  | float x => exact plain.elim
  | int n =>
      obtain ⟨c, cs, hc, begins⟩ := intText_eq_cons n
      have other {d : Char} := ne_of_beginsInt (d := d) begins
      refine ⟨c, cs, hc, ?_, other (by decide) (by decide), other (by decide) (by decide)⟩
      simp [isSpace, other]
  | str s => exact ⟨_, _, rfl, by decide, by decide, by decide⟩
  | arr items => cases items <;> exact ⟨_, _, rfl, by decide, by decide, by decide⟩
  | obj fields => rcases fields with _ | ⟨⟨key, value⟩, fields⟩ <;>
      exact ⟨_, _, rfl, by decide, by decide, by decide⟩

/-- Blanks before a written value are passed. -/
theorem skipSpace_lineBreak_write (style : Style) (depth indent : Nat) {v : Json}
    (plain : v.IsPlain) (rest : List Char) :
    skipSpace (style.lineBreak depth ++ (write style indent v ++ rest)) =
      write style indent v ++ rest := by
  obtain ⟨c, cs, hc, blank, -, -⟩ := write_eq_cons style indent plain
  rw [skipSpace_lineBreak, hc, List.cons_append, skipSpace_cons blank]

/-- An array that holds something opens before its items. -/
theorem readValue_bracket (dialect : JsonDialect) (fuel : Nat) {depth : Nat} (hd : depth ≠ 0)
    {cs : List Char} {c : Char} {inner : List Char} (hi : skipSpace cs = c :: inner)
    (hc : c ≠ ']') :
    readValue dialect (fuel + 1) depth ('[' :: cs) =
      (readItems dialect fuel (depth - 1) (c :: inner)).map fun (items, tail) =>
        (.arr items, tail) := by
  rw [readValue_array, if_neg (by simp [hd]), opened_of_cons hi hc, if_neg hd]

/-- An object that holds something opens before its fields. -/
theorem readValue_brace (dialect : JsonDialect) (fuel : Nat) {depth : Nat} (hd : depth ≠ 0)
    {cs : List Char} {c : Char} {inner : List Char} (hi : skipSpace cs = c :: inner)
    (hc : c ≠ '\x7d') :
    readValue dialect (fuel + 1) depth ('\x7b' :: cs) =
      (readFields dialect fuel (depth - 1) (c :: inner)).map fun (fields, tail) =>
        (.obj (ofFields fields), tail) := by
  rw [readValue_object, if_neg (by simp [hd]), opened_of_cons hi hc, if_neg hd]

/-- What reading a value back means, for a text before `rest`. -/
def ReadsBack (dialect : JsonDialect) (style : Style) (v : Json) : Prop :=
  ∀ (indent fuel depth : Nat) (rest : List Char), v.height ≤ depth + slack dialect →
    (write style indent v).length ≤ fuel → EndsNumber rest →
    readValue dialect fuel depth (write style indent v ++ rest) =
      unlessLong (v.longNumeral? dialect.digitLimit) (v, rest)

theorem endsNumber_writeItems (style : Style) (indent : Nat) (items : List Json)
    {rest : List Char} (ends : EndsNumber rest) :
    EndsNumber (writeItems style indent items ++ rest) := by
  cases items with
  | nil => exact ends
  | cons item items =>
      exact endsNumber_cons (by decide) (by decide) (by decide) (by decide) _

theorem endsNumber_writeFields (style : Style) (indent : Nat) (fields : List (String × Json))
    {rest : List Char} (ends : EndsNumber rest) :
    EndsNumber (writeFields style indent fields ++ rest) := by
  cases fields with
  | nil => exact ends
  | cons field fields =>
      exact endsNumber_cons (by decide) (by decide) (by decide) (by decide) _

/-- Items are read back if each is. -/
theorem readItems_write {dialect : JsonDialect} {style : Style} {items : List Json}
    (back : ∀ item ∈ items, ReadsBack dialect style item) (plain : ∀ item ∈ items, item.IsPlain)
    {first : Json} (firstBack : ReadsBack dialect style first) (indent depth : Nat)
    {closing rest : List Char} (close : skipSpace closing = ']' :: rest)
    (ends : EndsNumber closing) (firstHigh : first.height ≤ depth + slack dialect)
    (high : itemsHeight items ≤ depth + slack dialect) {fuel : Nat}
    (enough : (write style indent first ++ writeItems style indent items).length < fuel) :
    readItems dialect fuel depth
        (write style indent first ++ (writeItems style indent items ++ closing)) =
      unlessLong (longItem? dialect.digitLimit (first :: items)) (first :: items, rest) := by
  induction items generalizing first fuel with
  | nil =>
      cases fuel with
      | zero => omega
      | succ fuel =>
          have short : (write style indent first).length ≤ fuel := by
            simp at enough
            omega
          rw [readItems_succ, firstBack indent fuel depth _ firstHigh short
            (endsNumber_writeItems style indent [] ends), unlessLong_bind]
          simp only [writeItems, List.nil_append, listed_of_close close]
          exact unlessLong_or _ none _
  | cons next items ih =>
      cases fuel with
      | zero => omega
      | succ fuel =>
          rw [itemsHeight] at high
          have lengths : (write style indent first).length ≤ fuel ∧
              (write style indent next ++ writeItems style indent items).length < fuel := by
            simp [writeItems] at enough ⊢
            omega
          have later := ih (fun item hi => back item (List.mem_cons_of_mem _ hi))
            (fun item hi => plain item (List.mem_cons_of_mem _ hi))
            (back next List.mem_cons_self) (by omega) (by omega) lengths.2
          rw [readItems_succ, firstBack indent fuel depth _ firstHigh lengths.1
            (endsNumber_writeItems style indent (next :: items) ends), unlessLong_bind]
          simp only [writeItems, List.cons_append, List.append_assoc]
          rw [listed_of_comma (by decide) (skipSpace_cons (by decide) _),
            skipSpace_lineBreak_write style indent indent (plain next List.mem_cons_self), later,
            unlessLong_map]
          exact unlessLong_or _ _ _

/-- What is read behind a written key. -/
theorem readFields_quote (dialect : JsonDialect) (fuel depth : Nat) {asciiOnly : Bool}
    {key : String} (whole : asciiOnly → Text.holdsHalf key = false) (cs : List Char) :
    readFields dialect (fuel + 1) depth (quote asciiOnly key ++ cs) =
      keyed (fun blanks => do
        let (value, rest) ← readValue dialect fuel depth blanks
        listed '\x7d' (key, value) (readFields dialect fuel depth) rest) cs := by
  rw [quote, List.cons_append, List.append_assoc, List.singleton_append, readFields_text,
    readText_quote dialect whole, Result.ok_bind]

theorem keyed_colon {α : Type} (style : Style) (step : List Char → Except JsonFault α)
    (cs : List Char) : keyed step (style.colon ++ cs) = step (skipSpace cs) := by
  obtain ⟨blanks, colon, same⟩ := skipSpace_colon style cs
  rw [colon, keyed_of_colon (skipSpace_cons (by decide) blanks), same]

/-- The last field: its key, its value and what closes the object. -/
theorem readFields_last {dialect : JsonDialect} {style : Style} {fuel depth : Nat} {key : String}
    {value : Json} {text closing tail : List Char} {long? : Option Nat}
    (whole : style.asciiOnly → Text.holdsHalf key = false)
    (read : readValue dialect fuel depth (skipSpace text) = unlessLong long? (value, closing))
    (close : skipSpace closing = '\x7d' :: tail) :
    readFields dialect (fuel + 1) depth (quote style.asciiOnly key ++ (style.colon ++ text)) =
      unlessLong long? ([(key, value)], tail) := by
  rw [readFields_quote dialect fuel depth whole, keyed_colon, read, unlessLong_bind]
  simp only [listed_of_close close]
  exact (unlessLong_or long? none _).trans (by rw [Option.or_none])

/-- A field with others after it. -/
theorem readFields_more {dialect : JsonDialect} {style : Style} {fuel depth : Nat} {key : String}
    {value : Json} {text more tail : List Char} {fields : List (String × Json)}
    {long? others? : Option Nat} (whole : style.asciiOnly → Text.holdsHalf key = false)
    (read : readValue dialect fuel depth (skipSpace text) = unlessLong long? (value, ',' :: more))
    (others : readFields dialect fuel depth (skipSpace more) =
      unlessLong others? (fields, tail)) :
    readFields dialect (fuel + 1) depth (quote style.asciiOnly key ++ (style.colon ++ text)) =
      unlessLong (long?.or others?) ((key, value) :: fields, tail) := by
  rw [readFields_quote dialect fuel depth whole, keyed_colon, read, unlessLong_bind]
  simp only
  rw [listed_of_comma (by decide) (skipSpace_cons (by decide) more), others, unlessLong_map]
  exact unlessLong_or long? others? _

/-- A written value stands where it is read. -/
theorem skipSpace_write (style : Style) (indent : Nat) {v : Json} (plain : v.IsPlain)
    (rest : List Char) :
    skipSpace (write style indent v ++ rest) = write style indent v ++ rest := by
  obtain ⟨c, cs, hc, blank, -, -⟩ := write_eq_cons style indent plain
  rw [hc, List.cons_append, skipSpace_cons blank]

theorem skipSpace_quote (asciiOnly : Bool) (s : String) (rest : List Char) :
    skipSpace (quote asciiOnly s ++ rest) = quote asciiOnly s ++ rest :=
  skipSpace_cons (by decide) _

/-- Fields are read back if their values are. -/
theorem readFields_write {dialect : JsonDialect} {style : Style} {fields : List (String × Json)}
    (back : ∀ field ∈ fields, ReadsBack dialect style field.2)
    (plain : ∀ field ∈ fields, field.2.IsPlain)
    {key : String} {first : Json}
    (whole : style.asciiOnly → brokenField? ((key, first) :: fields) = none)
    (firstBack : ReadsBack dialect style first)
    (firstPlain : first.IsPlain) (indent depth : Nat) {closing rest : List Char}
    (close : skipSpace closing = '\x7d' :: rest) (ends : EndsNumber closing)
    (firstHigh : first.height ≤ depth + slack dialect)
    (high : fieldsHeight fields ≤ depth + slack dialect) {fuel : Nat}
    (enough : (quote style.asciiOnly key ++ (write style indent first ++
      writeFields style indent fields)).length < fuel) :
    readFields dialect fuel depth
        (quote style.asciiOnly key ++ (style.colon ++ (write style indent first ++
          (writeFields style indent fields ++ closing)))) =
      unlessLong (longField? dialect.digitLimit ((key, first) :: fields))
        ((key, first) :: fields, rest) := by
  have wholeKey (ascii : style.asciiOnly) : Text.holdsHalf key = false :=
    (brokenField?_cons_eq_none_iff.mp (whole ascii)).1
  induction fields generalizing key first fuel with
  | nil =>
      cases fuel with
      | zero => omega
      | succ fuel =>
          have short : (write style indent first).length ≤ fuel := by
            simp at enough
            omega
          have read := firstBack indent fuel depth closing firstHigh short ends
          rw [← skipSpace_write style indent firstPlain closing] at read
          rw [longField?, longField?, Option.or_none]
          exact readFields_last wholeKey read close
  | cons next fields ih =>
      obtain ⟨nextKey, nextValue⟩ := next
      cases fuel with
      | zero => omega
      | succ fuel =>
          rw [fieldsHeight] at high
          have nextHigh : nextValue.height ≤ depth + slack dialect := by omega
          have lengths : (write style indent first).length ≤ fuel ∧
              (quote style.asciiOnly nextKey ++ (write style indent nextValue ++
                writeFields style indent fields)).length < fuel := by
            simp [writeFields] at enough ⊢
            omega
          have read := firstBack indent fuel depth _ firstHigh lengths.1
            (endsNumber_writeFields style indent ((nextKey, nextValue) :: fields) ends)
          have wholeOthers (ascii : style.asciiOnly) :
              brokenField? ((nextKey, nextValue) :: fields) = none :=
            (brokenField?_cons_eq_none_iff.mp (whole ascii)).2.2
          have others := ih (fun field hf => back field (List.mem_cons_of_mem _ hf))
            (fun field hf => plain field (List.mem_cons_of_mem _ hf)) wholeOthers
            (back _ List.mem_cons_self) (plain _ List.mem_cons_self) nextHigh (by omega)
            lengths.2 fun ascii => (brokenField?_cons_eq_none_iff.mp (wholeOthers ascii)).1
          rw [← skipSpace_write style indent firstPlain] at read
          rw [← skipSpace_quote style.asciiOnly nextKey, ← skipSpace_lineBreak style indent]
            at others
          rw [longField?]
          simp only [writeFields, List.cons_append, List.append_assoc] at read ⊢
          exact readFields_more wholeKey read others

theorem readsBack_scalar {dialect : JsonDialect} {style : Style} {v : Json} {c : Char}
    {cs : List Char}
    (written : ∀ indent, write style indent v = c :: cs)
    (scalar : c ≠ '"' ∧ c ≠ '[' ∧ c ≠ '\x7b')
    (read : ∀ rest, EndsNumber rest → readScalar dialect (c :: cs ++ rest) =
      unlessLong (v.longNumeral? dialect.digitLimit) (v, rest)) :
    ReadsBack dialect style v := by
  intro indent fuel depth rest _ enough ends
  rw [written] at enough ⊢
  cases fuel with
  | zero => simp at enough
  | succ fuel =>
      rw [← read rest ends]
      exact readValue_other dialect fuel depth (fun _ he => scalar.1 (List.cons.inj he).1)
        (fun _ he => scalar.2.1 (List.cons.inj he).1) fun _ he => scalar.2.2 (List.cons.inj he).1

theorem readsBack_int {dialect : JsonDialect} {style : Style} (n : Int) :
    ReadsBack dialect style (.int n) := by
  have value (rest : List Char) : readDigits dialect n rest =
      unlessLong ((Json.int n).longNumeral? dialect.digitLimit) (.int n, rest) := by
    rw [readDigits, longNumeral?]
    split <;> rfl
  obtain ⟨c, cs, hc, begins⟩ := intText_eq_cons n
  have other {d : Char} := ne_of_beginsInt (d := d) begins
  have scalar : c ≠ '"' ∧ c ≠ '[' ∧ c ≠ '\x7b' :=
    ⟨other (by decide) (by decide), other (by decide) (by decide), other (by decide) (by decide)⟩
  refine readsBack_scalar (fun _ => hc) scalar fun rest ends => ?_
  rw [← value, ← readScalar_intText dialect n ends, ← hc]

theorem readsBack_str {dialect : JsonDialect} {style : Style} {s : String}
    (whole : style.asciiOnly → Text.holdsHalf s = false) : ReadsBack dialect style (.str s) := by
  intro indent fuel depth rest _ enough _
  cases fuel with
  | zero => simp [write, quote] at enough
  | succ fuel =>
      rw [write, quote, List.cons_append, List.append_assoc, List.singleton_append, readValue_text,
        readText_quote dialect whole]
      rfl

/-- Who may open something may open one more than is open. -/
theorem slack_le_one (dialect : JsonDialect) : slack dialect ≤ 1 := by
  rw [slack]
  split <;> omega

/-- Whatever fits may be opened. -/
theorem opens_of_le {dialect : JsonDialect} {depth : Nat} (h : 1 ≤ depth + slack dialect) :
    ¬ (depth = 0 && dialect.countsEmpty) = true := by
  intro hd
  simp only [Bool.and_eq_true, decide_eq_true_eq] at hd
  rw [slack, if_pos hd.2] at h
  omega

theorem readsBack_arr {dialect : JsonDialect} {style : Style} {items : List Json}
    (back : ∀ item ∈ items, ReadsBack dialect style item)
    (plain : ∀ item ∈ items, item.IsPlain) : ReadsBack dialect style (.arr items) := by
  intro indent fuel depth rest high enough _
  have opens := slack_le_one dialect
  rw [height] at high
  cases fuel with
  | zero => cases items <;> simp [write] at enough
  | succ fuel =>
      cases items with
      | nil =>
          rw [write, List.cons_append, readValue_array, if_neg (opens_of_le (by omega))]
          rfl
      | cons first items =>
          have firstPlain := plain first List.mem_cons_self
          have firstPos := height_pos first
          rw [itemsHeight] at high
          have lengths : (write style (indent + 1) first ++
              writeItems style (indent + 1) items).length < fuel := by
            simp [write] at enough ⊢
            omega
          obtain ⟨c, cs, hc, -, closes, -⟩ := write_eq_cons style (indent + 1) firstPlain
          have close : skipSpace (style.lineBreak indent ++ ']' :: rest) = ']' :: rest := by
            rw [skipSpace_lineBreak, skipSpace_cons (by decide)]
          have ends : EndsNumber (style.lineBreak indent ++ ']' :: rest) :=
            endsNumber_lineBreak style indent
              (endsNumber_cons (by decide) (by decide) (by decide) (by decide) _)
          have inner := readItems_write (fun item hi => back item (List.mem_cons_of_mem _ hi))
            (fun item hi => plain item (List.mem_cons_of_mem _ hi)) (back first List.mem_cons_self)
            (indent + 1) (depth - 1) close ends (by omega) (by omega) lengths
          have start := skipSpace_lineBreak_write style (indent + 1) (indent + 1) firstPlain
            (writeItems style (indent + 1) items ++ (style.lineBreak indent ++ ']' :: rest))
          simp only [hc, List.cons_append] at inner start
          rw [write]
          simp only [hc, List.cons_append, List.append_assoc, List.nil_append]
          rw [readValue_bracket dialect fuel (by omega) start closes, inner, unlessLong_map]
          rfl

theorem readsBack_obj {dialect : JsonDialect} {style : Style} {fields : List (String × Json)}
    (whole : style.asciiOnly → brokenField? fields = none)
    (back : ∀ field ∈ fields, ReadsBack dialect style field.2)
    (plain : ∀ field ∈ fields, field.2.IsPlain) (nodup : (fields.map Prod.fst).Nodup) :
    ReadsBack dialect style (.obj fields) := by
  intro indent fuel depth rest high enough _
  have opens := slack_le_one dialect
  rw [height] at high
  cases fuel with
  | zero => rcases fields with _ | ⟨⟨key, value⟩, fields⟩ <;> simp [write] at enough
  | succ fuel =>
      rcases fields with _ | ⟨⟨key, first⟩, fields⟩
      · rw [write, List.cons_append, readValue_object, if_neg (opens_of_le (by omega))]
        rfl
      · have firstPos := height_pos first
        rw [fieldsHeight] at high
        have lengths : (quote style.asciiOnly key ++ (write style (indent + 1) first ++
            writeFields style (indent + 1) fields)).length < fuel := by
          simp [write] at enough ⊢
          omega
        have close : skipSpace (style.lineBreak indent ++ '\x7d' :: rest) = '\x7d' :: rest := by
          rw [skipSpace_lineBreak, skipSpace_cons (by decide)]
        have ends : EndsNumber (style.lineBreak indent ++ '\x7d' :: rest) :=
          endsNumber_lineBreak style indent
            (endsNumber_cons (by decide) (by decide) (by decide) (by decide) _)
        have firstHigh : first.height ≤ depth - 1 + slack dialect := by omega
        have inner := readFields_write
          (fun field hf => back field (List.mem_cons_of_mem _ hf))
          (fun field hf => plain field (List.mem_cons_of_mem _ hf)) whole
          (back _ List.mem_cons_self) (plain _ List.mem_cons_self) (indent + 1) (depth - 1)
          close ends firstHigh (by omega) lengths
        have start := (skipSpace_lineBreak style (indent + 1) _).trans
          (skipSpace_quote style.asciiOnly key (style.colon ++ (write style (indent + 1) first ++
            (writeFields style (indent + 1) fields ++ (style.lineBreak indent ++ '\x7d' :: rest)))))
        rw [write]
        simp only [List.cons_append, List.append_assoc, List.nil_append]
        rw [quote, List.cons_append] at inner start ⊢
        have kept : ofFields ((key, first) :: fields) = (key, first) :: fields :=
          Keyed.merge_of_nodup nodup
        rw [readValue_brace dialect fuel (by omega) start (by decide), inner, unlessLong_map]
        simp only [kept]
        rfl

mutual

/-- A plain value is read back, from ASCII alone if its texts are whole. -/
theorem readsBack {style : Style} (dialect : JsonDialect) :
    (v : Json) → (style.asciiOnly → v.brokenText? = none) → v.IsPlain → ReadsBack dialect style v
  | .null, _, _ => readsBack_scalar (fun _ => rfl) (by decide) fun _ _ => rfl
  | .bool true, _, _ => readsBack_scalar (fun _ => rfl) (by decide) fun _ _ => rfl
  | .bool false, _, _ => readsBack_scalar (fun _ => rfl) (by decide) fun _ _ => rfl
  | .int n, _, _ => readsBack_int n
  | .str s, whole, _ => readsBack_str fun ascii => by simpa [brokenText?] using whole ascii
  | .arr items, whole, plain =>
      have items := readsBack_items dialect items whole plain
      readsBack_arr (fun item hi => (items item hi).1) fun item hi => (items item hi).2
  | .obj fields, whole, plain =>
      have values := readsBack_fields dialect fields whole plain.1
      readsBack_obj whole (fun field hf => (values field hf).1)
        (fun field hf => (values field hf).2) plain.2

theorem readsBack_items {style : Style} (dialect : JsonDialect) :
    (items : List Json) → (style.asciiOnly → brokenItem? items = none) → AllPlain items →
      ∀ item ∈ items, ReadsBack dialect style item ∧ item.IsPlain
  | [], _, _ => by simp
  | item :: items, whole, plain =>
      have parts (ascii : style.asciiOnly) := Option.or_eq_none_iff.mp (whole ascii)
      List.forall_mem_cons.mpr
        ⟨⟨readsBack dialect item (fun ascii => (parts ascii).1) plain.1, plain.1⟩,
          readsBack_items dialect items (fun ascii => (parts ascii).2) plain.2⟩

theorem readsBack_fields {style : Style} (dialect : JsonDialect) :
    (fields : List (String × Json)) → (style.asciiOnly → brokenField? fields = none) →
      FieldsPlain fields → ∀ field ∈ fields, ReadsBack dialect style field.2 ∧ field.2.IsPlain
  | [], _, _ => by simp
  | (_, value) :: fields, whole, plain =>
      have parts (ascii : style.asciiOnly) := brokenField?_cons_eq_none_iff.mp (whole ascii)
      List.forall_mem_cons.mpr
        ⟨⟨readsBack dialect value (fun ascii => (parts ascii).2.1) plain.1, plain.1⟩,
          readsBack_fields dialect fields (fun ascii => (parts ascii).2.2) plain.2⟩

end

/-- A plain value that is not nested too deep is read back from its text, with blanks behind it or
without. -/
theorem read_write_append {style : Style} (dialect : JsonDialect) {v : Json}
    (whole : style.asciiOnly → v.brokenText? = none) (plain : v.IsPlain)
    (low : v.height ≤ dialect.depth + slack dialect) {blanks : List Char}
    (spaces : ∀ c ∈ blanks, isSpace c) :
    read dialect (write style 0 v ++ blanks) =
      unlessLong (v.longNumeral? dialect.digitLimit) v := by
  have ends : EndsNumber blanks := by
    cases blanks with
    | nil => exact endsNumber_nil
    | cons c cs =>
        have space := spaces c List.mem_cons_self
        simp only [isSpace, Bool.or_eq_true, beq_iff_eq] at space
        apply endsNumber_cons
        all_goals rcases space with ((rfl | rfl) | rfl) | rfl <;> decide
  have value := readsBack dialect v whole plain 0 (2 * (write style 0 v ++ blanks).length + 2)
    dialect.depth blanks low (by rw [List.length_append]; omega) ends
  have nothing : skipSpace blanks = [] := by
    rw [← List.append_nil blanks]
    exact List.dropWhile_append_of_pos spaces
  rw [read, skipSpace_write style 0 plain, value, unlessLong_bind]
  simp only [nothing]
  rfl

theorem read_write {style : Style} (dialect : JsonDialect) {v : Json}
    (whole : style.asciiOnly → v.brokenText? = none) (plain : v.IsPlain)
    (low : v.height ≤ dialect.depth + slack dialect) :
    read dialect (write style 0 v) = unlessLong (v.longNumeral? dialect.digitLimit) v := by
  rw [← List.append_nil (write style 0 v)]
  exact read_write_append dialect whole plain low (List.forall_mem_nil _)

/-- A list of strings is read back, also from ASCII alone if no string holds half of a pair. -/
theorem read_write_ofStrings {style : Style} {dialect : JsonDialect} {xs : List String}
    (whole : style.asciiOnly → ∀ x ∈ xs, Text.holdsHalf x = false)
    (low : 2 ≤ dialect.depth + slack dialect) :
    read dialect (write style 0 (ofStrings xs)) = .ok (ofStrings xs) := by
  have plain : (ofStrings xs).IsPlain := allPlain_map_iff.mpr fun _ _ => trivial
  have wholeList (ascii : style.asciiOnly) : (ofStrings xs).brokenText? = none :=
    brokenItem?_map_eq_none_iff.mpr fun x hx => brokenText?_str_eq_none_iff.mpr (whole ascii x hx)
  have noNumeral : longItem? dialect.digitLimit (xs.map .str) = none :=
    longItem?_map_eq_none_iff.mpr fun _ _ => rfl
  have fits : (ofStrings xs).height ≤ dialect.depth + slack dialect := by
    have items : itemsHeight (xs.map .str) ≤ 1 :=
      itemsHeight_map_le_iff.mpr fun _ _ => Nat.le_refl 1
    rw [ofStrings, Json.height]
    omega
  rw [read_write dialect wholeList plain fits, ofStrings, longNumeral?, noNumeral]
  rfl

end Reader

theorem return_notMem_hexPlaces (places n : Nat) : '\r' ∉ Text.hexPlaces places n := by
  have digits : ∀ d < 16, Text.hexDigit d ≠ '\r' := by decide
  induction places generalizing n with
  | zero => simp [Text.hexPlaces]
  | succ places ih =>
      have last := digits (n % 16) (Nat.mod_lt _ (by decide))
      simp [Text.hexPlaces, ih, Ne.symm last]

theorem return_notMem_unitEscape (n : Nat) : '\r' ∉ unitEscape n := by
  simp [unitEscape, return_notMem_hexPlaces]

theorem return_notMem_escapeChar (asciiOnly : Bool) (c : Char) :
    '\r' ∉ escapeChar asciiOnly c := by
  have wide (n : Nat) : '\r' ∉ wideEscape n := by
    rw [wideEscape]
    split <;> simp [return_notMem_unitEscape]
  unfold escapeChar
  split
  · decide
  split
  · decide
  split
  · decide
  split
  · decide
  split
  · decide
  split
  · decide
  split
  · decide
  split
  · exact return_notMem_unitEscape _
  split
  · exact wide _
  · next hr _ _ _ _ _ => simpa [eq_comm] using hr

theorem return_notMem_quote (asciiOnly : Bool) (s : String) : '\r' ∉ quote asciiOnly s := by
  simp [quote, return_notMem_escapeChar]

theorem return_notMem_lineBreak (style : Style) (depth : Nat) : '\r' ∉ style.lineBreak depth := by
  rw [Style.lineBreak]
  cases style.indent <;> simp

theorem return_notMem_colon (style : Style) : '\r' ∉ style.colon := by
  rw [Style.colon]
  split <;> decide

mutual

/-- No carriage return is written, so that the text is read as a file without change. -/
theorem return_notMem_write (style : Style) :
    (v : Json) → v.IsPlain → ∀ indent, '\r' ∉ write style indent v
  | .null, _ => fun _ => by simp [write]
  | .bool true, _ => fun _ => by simp [write]
  | .bool false, _ => fun _ => by simp [write]
  | .int n, _ => fun _ => Reader.notMem_intText (by decide) (by decide) n
  | .str s, _ => fun _ => by simp [write, return_notMem_quote]
  | .arr [], _ => fun _ => by simp [write]
  | .arr (item :: items), plain => fun indent => by
      have first := return_notMem_write style item plain.1 (indent + 1)
      have others := return_notMem_writeItems style items plain.2 (indent + 1)
      simp [write, first, others, return_notMem_lineBreak]
  | .obj [], _ => fun _ => by simp [write]
  | .obj ((key, value) :: fields), plain => fun indent => by
      have first := return_notMem_write style value plain.1.1 (indent + 1)
      have others := return_notMem_writeFields style fields plain.1.2 (indent + 1)
      simp [write, first, others, return_notMem_lineBreak, return_notMem_quote,
        return_notMem_colon]

theorem return_notMem_writeItems (style : Style) :
    (items : List Json) → AllPlain items → ∀ indent, '\r' ∉ writeItems style indent items
  | [], _ => fun _ => by simp [writeItems]
  | item :: items, plain => fun indent => by
      have first := return_notMem_write style item plain.1 indent
      have others := return_notMem_writeItems style items plain.2 indent
      simp [writeItems, first, others, return_notMem_lineBreak]

theorem return_notMem_writeFields (style : Style) :
    (fields : List (String × Json)) → FieldsPlain fields →
      ∀ indent, '\r' ∉ writeFields style indent fields
  | [], _ => fun _ => by simp [writeFields]
  | (key, value) :: fields, plain => fun indent => by
      have first := return_notMem_write style value plain.1 indent
      have others := return_notMem_writeFields style fields plain.2 indent
      simp [writeFields, first, others, return_notMem_lineBreak, return_notMem_quote,
        return_notMem_colon]

end

end ScriptVet.Json
