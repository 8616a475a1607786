import Mathlib.Data.List.Forall2
import ScriptVet.Fault

/-!
# Values and faults

How steps that may fail go on. The laws hold for faults and for lists of problems alike.
-/

namespace ScriptVet.Result

variable {ε α β : Type}

@[simp] theorem ok_bind (a : α) (next : α → Except ε β) : (Except.ok a >>= next) = next a := rfl

@[simp] theorem error_bind (e : ε) (next : α → Except ε β) :
    (Except.error e >>= next) = Except.error e := rfl

@[simp] theorem pure_eq_ok (a : α) : (pure a : Except ε α) = .ok a := rfl

@[simp] theorem map_ok (f : α → β) (a : α) : (f <$> (.ok a : Except ε α)) = .ok (f a) := rfl

@[simp] theorem map_error (f : α → β) (e : ε) : (f <$> (.error e : Except ε α)) = .error e := rfl

/-- A value at the end comes from values at every step. -/
theorem bind_eq_ok {x : Except ε α} {next : α → Except ε β} {b : β} :
    (x >>= next) = .ok b ↔ ∃ a, x = .ok a ∧ next a = .ok b := by
  cases x <;> simp

/-- What follows a check is done if it goes well. -/
theorem check_bind_eq_ok {x : Except ε Unit} {rest : Except ε β} {b : β} :
    (x >>= fun _ => rest) = .ok b ↔ x = .ok () ∧ rest = .ok b := by
  cases x <;> simp

/-- Behind a guard there is a value if the guard lets through. -/
theorem unless_eq_ok_iff {p : Prop} [Decidable p] {e : ε} {x : Except ε α} {a : α} :
    (if p then .error e else x) = .ok a ↔ ¬ p ∧ x = .ok a := by
  by_cases stops : p <;> simp [stops]

/-- A fault at the end comes from the first step or, after a value there, from the second. -/
theorem bind_eq_error {x : Except ε α} {next : α → Except ε β} {e : ε} :
    (x >>= next) = .error e ↔ x = .error e ∨ ∃ a, x = .ok a ∧ next a = .error e := by
  cases x <;> simp

theorem map_eq_ok {f : α → β} {x : Except ε α} {b : β} :
    x.map f = .ok b ↔ ∃ a, x = .ok a ∧ f a = b := by
  cases x <;> simp [Except.map]

theorem mapError_eq_ok_iff {ε' : Type} {f : ε → ε'} {x : Except ε α} {a : α} :
    x.mapError f = .ok a ↔ x = .ok a := by
  cases x <;> simp [Except.mapError]

/-- Whether there is a value, and which, does not depend on the faults on the way. -/
theorem toOption_bind_congr {x x' : Except ε α} {next next' : α → Except ε β}
    (same : x.toOption = x'.toOption) (after : ∀ a, (next a).toOption = (next' a).toOption) :
    (x >>= next).toOption = (x' >>= next').toOption := by
  cases x with
  | error e =>
      cases x' with
      | error e' => rfl
      | ok a' => cases same
  | ok a =>
      cases x' with
      | error e' => cases same
      | ok a' =>
          obtain rfl : a = a' := Option.some.inj same
          exact after a

/-- Checks go well together exactly if each of them does. -/
theorem forM_eq_ok_iff {check : α → Except ε Unit} {as : List α} :
    as.forM check = .ok () ↔ ∀ a ∈ as, check a = .ok () := by
  induction as with
  | nil => exact iff_of_true rfl nofun
  | cons a as ih =>
      have first : (a :: as).forM check = (check a >>= fun _ => as.forM check) := rfl
      rw [first, List.forall_mem_cons, ← ih]
      cases check a with
      | ok _ => exact (and_iff_right rfl).symm
      | error e => exact iff_of_false nofun fun both => nomatch both.1

/-- A list of values comes from a value at every place. -/
theorem forall₂_of_mapM {f : α → Except ε β} {as : List α} {bs : List β}
    (h : as.mapM f = .ok bs) : List.Forall₂ (fun a b => f a = .ok b) as bs := by
  induction as generalizing bs with
  | nil =>
    cases h
    exact .nil
  | cons a as ih =>
    rw [List.mapM_cons] at h
    obtain ⟨b, first, rest⟩ := bind_eq_ok.mp h
    obtain ⟨bs', later, ended⟩ := bind_eq_ok.mp rest
    cases ended
    exact .cons first (ih later)

/-- There is a list of values if there is a value at every place. -/
theorem exists_mapM_eq_ok {f : α → Except ε β} {P : β → Prop} {as : List α}
    (h : ∀ a ∈ as, ∃ b, f a = .ok b ∧ P b) : ∃ bs, as.mapM f = .ok bs ∧ ∀ b ∈ bs, P b := by
  induction as with
  | nil => exact ⟨[], rfl, by simp⟩
  | cons a as ih =>
    rw [List.forall_mem_cons] at h
    obtain ⟨b, first, good⟩ := h.1
    obtain ⟨bs, later, others⟩ := ih h.2
    refine ⟨b :: bs, ?_, List.forall_mem_cons.mpr ⟨good, others⟩⟩
    rw [List.mapM_cons, first, ok_bind, later]
    rfl

/-- There is no list of values if there is a fault at one place. -/
theorem exists_mapM_eq_error {f : α → Except ε β} {as : List α} {a : α} (ha : a ∈ as) {e : ε}
    (h : f a = .error e) : ∃ e', as.mapM f = .error e' := by
  induction as with
  | nil => cases ha
  | cons first rest ih =>
    rw [List.mapM_cons]
    rcases List.mem_cons.mp ha with rfl | later
    · exact ⟨e, by rw [h, error_bind]⟩
    · obtain ⟨e', fails⟩ := ih later
      cases f first with
      | error e => exact ⟨e, rfl⟩
      | ok b => exact ⟨e', by rw [ok_bind, fails, error_bind]⟩

/-- There is a list of values exactly if there is a value at every place. -/
theorem exists_mapM_iff {f : α → Except ε β} {as : List α} :
    (∃ bs, as.mapM f = .ok bs) ↔ ∀ a ∈ as, ∃ b, f a = .ok b := by
  constructor
  · rintro ⟨bs, listed⟩ a ha
    cases first : f a with
    | ok b => exact ⟨b, rfl⟩
    | error e =>
        obtain ⟨e', fails⟩ := exists_mapM_eq_error ha first
        rw [fails] at listed
        cases listed
  · intro each
    obtain ⟨bs, listed, -⟩ := exists_mapM_eq_ok (P := fun _ => True) fun a ha =>
      (each a ha).imp fun _ given => ⟨given, trivial⟩
    exact ⟨bs, listed⟩

/-- The fault in place of a value. -/
def fault? : Except ε α → Option ε
  | .ok _ => none
  | .error e => some e

theorem fault?_eq_some_iff {x : Except ε α} {e : ε} : fault? x = some e ↔ x = .error e := by
  cases x <;> simp [fault?]

theorem fault?_eq_none_iff {x : Except ε α} : fault? x = none ↔ ∃ a, x = .ok a := by
  cases x <;> simp [fault?]

/-- The result is a value as described, or a fault as described. -/
def Meets (good : α → Prop) (bad : ε → Prop) : Except ε α → Prop
  | .ok a => good a
  | .error e => bad e

end ScriptVet.Result
