import ScriptVet.Text.Phrase

/-!
# Problems with data

Data from outside is checked against what it should be. Every problem found says where it is, as the
keys and positions that lead to it, and what is wrong. All problems of one value are reported, in
the order of its fields.
-/

namespace ScriptVet

/-- One step on the way to a value inside data. -/
inductive DataStep where
  | key (name : String)
  | index (n : Nat)
  deriving Repr, DecidableEq

/-- What can be wrong with a value. -/
inductive Wrong where
  | missing
  | notText
  /-- The text holds half of a surrogate pair. -/
  | brokenText
  | emptyText
  | badName
  | notOneOf (options : List String)
  | notBool
  | unclearBool
  | notInteger
  | unclearInteger
  | fractionalInteger
  | hugeInteger
  | notFinite
  | belowOne
  | notList
  | notObject
  | notSet
  | notRecord (record : String)
  | notPath
  | unexpected
  | brokenRule (rule : String)
  deriving Repr, DecidableEq

/-- Choices between single quotes, the last one after "or". -/
def choices : List String → String
  | [] => ""
  | [a] => s!"'{a}'"
  | [a, b] => s!"'{a}' or '{b}'"
  | a :: rest => s!"'{a}', " ++ choices rest

/-- The short name of a kind of problem. -/
def Wrong.tag : Wrong → String
  | .missing => "missing"
  | .notText => "string_type"
  | .brokenText => "string_unicode"
  | .emptyText => "string_too_short"
  | .badName => "string_pattern_mismatch"
  | .notOneOf _ => "enum"
  | .notBool => "bool_type"
  | .unclearBool => "bool_parsing"
  | .notInteger => "int_type"
  | .unclearInteger => "int_parsing"
  | .fractionalInteger => "int_from_float"
  | .hugeInteger => "int_parsing_size"
  | .notFinite => "finite_number"
  | .belowOne => "greater_than_equal"
  | .notList => "list_type"
  | .notObject => "dict_type"
  | .notSet => "frozen_set_type"
  | .notRecord _ => "model_type"
  | .notPath => "path_type"
  | .unexpected => "extra_forbidden"
  | .brokenRule _ => "value_error"

/-- The text of a kind of problem. -/
def Wrong.message : Wrong → String
  | .missing => "Field required"
  | .notText => "Input should be a valid string"
  | .brokenText =>
    "Input should be a valid string, unable to parse raw data as a unicode string"
  | .emptyText => "String should have at least 1 character"
  | .badName => "String should match pattern '^[A-Za-z0-9_+-][A-Za-z0-9._+-]*$'"
  | .notOneOf options => Text.phrase ["Input should be ", choices options]
  | .notBool => "Input should be a valid boolean"
  | .unclearBool => "Input should be a valid boolean, unable to interpret input"
  | .notInteger => "Input should be a valid integer"
  | .unclearInteger =>
    "Input should be a valid integer, unable to parse string as an integer"
  | .fractionalInteger =>
    "Input should be a valid integer, got a number with a fractional part"
  | .hugeInteger => "Unable to parse input string as an integer, exceeded maximum size"
  | .notFinite => "Input should be a finite number"
  | .belowOne => "Input should be greater than or equal to 1"
  | .notList => "Input should be a valid list"
  | .notObject => "Input should be a valid dictionary"
  | .notSet => "Input should be a valid frozenset"
  | .notRecord record =>
    Text.phrase ["Input should be a valid dictionary or instance of ", record]
  | .notPath => "Input is not a valid path for <class 'pathlib.Path'>"
  | .unexpected => "Extra inputs are not permitted"
  | .brokenRule rule => Text.phrase ["Value error, ", rule]

/-- A problem and the way to it. -/
structure Problem where
  place : List DataStep
  wrong : Wrong
  deriving Repr, DecidableEq

/-- A value, or everything that is wrong with the data it was to come from. -/
abbrev Checked (α : Type) := Except (List Problem) α

namespace Checked

variable {α β : Type}

/-- One problem with the value at hand. -/
def reject (wrong : Wrong) : Checked α :=
  .error [⟨[], wrong⟩]

/-- A value found one step further inside. -/
def inside (step : DataStep) (x : Checked α) : Checked α :=
  x.mapError fun problems => problems.map fun p => { p with place := step :: p.place }

/-- Applies a function; the problems of both sides are reported. -/
def apply (f : Checked (α → β)) (x : Checked α) : Checked β :=
  match f, x with
  | .ok f, .ok a => .ok (f a)
  | .ok _, .error e => .error e
  | .error e, .ok _ => .error e
  | .error e, .error e' => .error (e ++ e')

/-- Hands one more value to a function that is being supplied with its arguments in turn. -/
def take (x : Checked α) (f : Checked (α → β)) : Checked β :=
  apply f x

/-- All values, or all their problems. -/
def all : List (Checked α) → Checked (List α)
  | [] => .ok []
  | x :: xs => apply (x.map List.cons) (all xs)

@[simp] theorem apply_ok_ok (f : α → β) (a : α) :
    apply (.ok f) (.ok a) = (.ok (f a) : Checked β) := rfl

/-- Everything is right only if both sides are. -/
theorem apply_eq_ok_iff {f : Checked (α → β)} {x : Checked α} {b : β} :
    apply f x = .ok b ↔ ∃ g a, f = .ok g ∧ x = .ok a ∧ g a = b := by
  cases f <;> cases x <;> simp [apply]

/-- All values are right exactly if each of them is. -/
theorem all_eq_ok_iff {xs : List (Checked α)} {values : List α} :
    all xs = .ok values ↔ xs = values.map .ok := by
  induction xs generalizing values with
  | nil => cases values <;> simp [all]
  | cons x rest ih =>
    rw [all, apply_eq_ok_iff]
    constructor
    · rintro ⟨g, tail, hg, htail, rfl⟩
      cases x with
      | error problems => cases hg
      | ok a =>
        cases hg
        simp [ih.1 htail]
    · intro h
      cases values with
      | nil => simp at h
      | cons a tail =>
        rw [List.map_cons, List.cons.injEq] at h
        exact ⟨List.cons a, tail, by rw [h.1]; rfl, ih.2 h.2, rfl⟩

@[simp] theorem inside_eq_ok_iff {step : DataStep} {x : Checked α} {a : α} :
    inside step x = .ok a ↔ x = .ok a := by
  cases x with
  | ok b => rfl
  | error problems => exact ⟨nofun, nofun⟩

end Checked

end ScriptVet
