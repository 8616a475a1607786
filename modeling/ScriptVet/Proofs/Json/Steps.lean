import ScriptVet.Json.Reader
import ScriptVet.Proofs.Result

/-!
# The steps of the reader

Arrays and objects are read alike: behind the opening bracket there is the closing one or a member,
and behind a member the closing bracket or a comma and other members. What is common is named here,
so that a property of all steps is shown for it once.
-/

namespace ScriptVet.Json.Reader

/-- What is read behind an opening bracket: nothing up to the closing one, or what a step reads. -/
def opened (close : Char) (empty : Json) (step : List Char → Except JsonFault (Json × List Char))
    (cs : List Char) : Except JsonFault (Json × List Char) :=
  match skipSpace cs with
  | [] => step []
  | c :: tail => if c = close then .ok (empty, tail) else step (c :: tail)

/-- What is read behind a member: the closing bracket, or a comma and the other members. -/
def listed {α : Type} (close : Char) (first : α)
    (others : List Char → Except JsonFault (List α × List Char)) (cs : List Char) :
    Except JsonFault (List α × List Char) :=
  match skipSpace cs with
  | [] => .error .malformed
  | c :: tail =>
    if c = close then .ok ([first], tail)
    else if c = ',' then
      (others (skipSpace tail)).map fun (members, rest) => (first :: members, rest)
    else .error .malformed

/-- What is read behind a key: a colon and what a step reads. -/
def keyed {α : Type} (step : List Char → Except JsonFault α) (cs : List Char) :
    Except JsonFault α :=
  match skipSpace cs with
  | [] => .error .malformed
  | c :: tail => if c = ':' then step (skipSpace tail) else .error .malformed

section

variable {α : Type} {close : Char} {cs : List Char}

theorem opened_of_cons {empty : Json} {step : List Char → Except JsonFault (Json × List Char)}
    {c : Char} {tail : List Char} (inner : skipSpace cs = c :: tail) (other : c ≠ close) :
    opened close empty step cs = step (c :: tail) := by
  rw [opened, inner]
  exact if_neg other

theorem listed_of_close {first : α} {others : List Char → Except JsonFault (List α × List Char)}
    {tail : List Char} (closes : skipSpace cs = close :: tail) :
    listed close first others cs = .ok ([first], tail) := by
  rw [listed, closes]
  exact if_pos rfl

theorem listed_of_comma (apart : close ≠ ',') {first : α}
    {others : List Char → Except JsonFault (List α × List Char)} {more : List Char}
    (comma : skipSpace cs = ',' :: more) :
    listed close first others cs =
      (others (skipSpace more)).map fun (members, rest) => (first :: members, rest) := by
  rw [listed, comma]
  simp only [if_neg apart.symm, if_true]

theorem keyed_of_colon {step : List Char → Except JsonFault α} {blanks : List Char}
    (colon : skipSpace cs = ':' :: blanks) : keyed step cs = step (skipSpace blanks) := by
  rw [keyed, colon]
  exact if_pos rfl

theorem opened_eq_ok_iff {empty : Json} {step : List Char → Except JsonFault (Json × List Char)}
    {got : Json × List Char} :
    opened close empty step cs = .ok got ↔
      (∃ tail, skipSpace cs = close :: tail ∧ (empty, tail) = got) ∨
        (∀ tail, skipSpace cs ≠ close :: tail) ∧ step (skipSpace cs) = .ok got := by
  rw [opened]
  cases skipSpace cs with
  | nil => simp
  | cons c tail => by_cases closes : c = close <;> simp [closes]

/-- Members end after the first or go on with others. -/
theorem listed_eq_ok_iff (apart : close ≠ ',') {first : α}
    {others : List Char → Except JsonFault (List α × List Char)} {members : List α}
    {tail : List Char} :
    listed close first others cs = .ok (members, tail) ↔
      (skipSpace cs = close :: tail ∧ members = [first]) ∨
        ∃ more later, skipSpace cs = ',' :: more ∧
          others (skipSpace more) = .ok (later, tail) ∧ members = first :: later := by
  rw [listed]
  cases skipSpace cs with
  | nil => simp
  | cons c more =>
      by_cases closes : c = close
      · simp [closes, apart, and_comm, @eq_comm _ members]
      by_cases comma : c = ','
      · simp [comma, apart.symm, Result.map_eq_ok, and_comm, @eq_comm _ members]
      · simp [closes, comma]

theorem keyed_eq_ok_iff {step : List Char → Except JsonFault α} {a : α} :
    keyed step cs = .ok a ↔
      ∃ blanks, skipSpace cs = ':' :: blanks ∧ step (skipSpace blanks) = .ok a := by
  rw [keyed]
  cases skipSpace cs with
  | nil => simp
  | cons c blanks => by_cases colon : c = ':' <;> simp [colon]

end

/-- How a value begins: with the mark of a string, an array or an object, or otherwise. -/
inductive Begins : List Char → Prop where
  | text (rest : List Char) : Begins ('"' :: rest)
  | array (rest : List Char) : Begins ('[' :: rest)
  | object (rest : List Char) : Begins ('\x7b' :: rest)
  | other {cs : List Char} : (∀ tail, cs ≠ '"' :: tail) → (∀ tail, cs ≠ '[' :: tail) →
      (∀ tail, cs ≠ '\x7b' :: tail) → Begins cs

theorem begins (cs : List Char) : Begins cs := by
  by_cases text : ∃ rest, cs = '"' :: rest
  · obtain ⟨rest, rfl⟩ := text
    exact .text rest
  by_cases array : ∃ rest, cs = '[' :: rest
  · obtain ⟨rest, rfl⟩ := array
    exact .array rest
  by_cases object : ∃ rest, cs = '\x7b' :: rest
  · obtain ⟨rest, rfl⟩ := object
    exact .object rest
  · exact .other (not_exists.mp text) (not_exists.mp array) (not_exists.mp object)

section

variable (dialect : JsonDialect) (fuel depth : Nat) (cs : List Char)

theorem readValue_text :
    readValue dialect (fuel + 1) depth ('"' :: cs) =
      (readText dialect cs).map fun (s, tail) => (.str s, tail) := by
  rw [readValue]

theorem readValue_array :
    readValue dialect (fuel + 1) depth ('[' :: cs) =
      if depth = 0 && dialect.countsEmpty then .error (.tooDeep false)
      else opened ']' (.arr []) (fun inner =>
        if depth = 0 then .error (.tooDeep false)
        else (readItems dialect fuel (depth - 1) inner).map fun (items, tail) =>
          (.arr items, tail)) cs := by
  rw [readValue, opened]
  cases skipSpace cs with
  | nil => rfl
  | cons c tail =>
      by_cases closes : c = ']'
      · subst closes
        rfl
      · simp only [closes, if_false]
        split <;> simp_all

theorem readValue_object :
    readValue dialect (fuel + 1) depth ('\x7b' :: cs) =
      if depth = 0 && dialect.countsEmpty then .error (.tooDeep true)
      else opened '\x7d' (.obj []) (fun inner =>
        if depth = 0 then .error (.tooDeep true)
        else (readFields dialect fuel (depth - 1) inner).map fun (fields, tail) =>
          (.obj (ofFields fields), tail)) cs := by
  rw [readValue, opened]
  cases skipSpace cs with
  | nil => rfl
  | cons c tail =>
      by_cases closes : c = '\x7d'
      · subst closes
        rfl
      · simp only [closes, if_false]
        split <;> simp_all

theorem readValue_other {cs : List Char} (noText : ∀ tail, cs ≠ '"' :: tail)
    (noArray : ∀ tail, cs ≠ '[' :: tail) (noObject : ∀ tail, cs ≠ '\x7b' :: tail) :
    readValue dialect (fuel + 1) depth cs = readScalar dialect cs := by
  rw [readValue]
  · exact noText
  · exact noArray
  · exact noObject

theorem readItems_succ :
    readItems dialect (fuel + 1) depth cs = (do
      let (item, rest) ← readValue dialect fuel depth cs
      listed ']' item (readItems dialect fuel depth) rest) := by
  rw [readItems]
  congr 1
  funext read
  obtain ⟨item, rest⟩ := read
  simp only [listed]
  cases skipSpace rest with
  | nil => rfl
  | cons c tail =>
      by_cases closes : c = ']'
      · subst closes
        rfl
      by_cases comma : c = ','
      · subst comma
        cases later : readItems dialect fuel depth (skipSpace tail) <;> simp [later, Except.map]
      · simp only [closes, comma, if_false]
        split <;> simp_all

theorem readFields_other {cs : List Char} (noText : ∀ tail, cs ≠ '"' :: tail) :
    readFields dialect (fuel + 1) depth cs = .error .malformed := by
  rw [readFields]
  exact noText

theorem readFields_text :
    readFields dialect (fuel + 1) depth ('"' :: cs) = (do
      let (key, rest) ← readText dialect cs
      keyed (fun blanks => do
        let (value, rest) ← readValue dialect fuel depth blanks
        listed '\x7d' (key, value) (readFields dialect fuel depth) rest) rest) := by
  rw [readFields]
  congr 1
  funext read
  obtain ⟨key, rest⟩ := read
  simp only [keyed]
  cases skipSpace rest with
  | nil => rfl
  | cons c tail =>
      by_cases colon : c = ':'
      · subst colon
        simp only [if_true]
        congr 1
        funext read
        obtain ⟨value, rest⟩ := read
        simp only [listed]
        cases skipSpace rest with
        | nil => rfl
        | cons c tail =>
            by_cases closes : c = '\x7d'
            · subst closes
              rfl
            by_cases comma : c = ','
            · subst comma
              cases later : readFields dialect fuel depth (skipSpace tail) <;>
                simp [later, Except.map]
            · simp only [closes, comma, if_false]
              split <;> simp_all
      · simp only [colon, if_false]
        split <;> simp_all

end

end ScriptVet.Json.Reader
