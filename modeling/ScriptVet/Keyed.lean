/-!
# Lists of keyed values

A list of pairs in which each key stands once keeps the order in which its keys were first put. A
key that is put again keeps its place and takes the new value.
-/

namespace ScriptVet.Keyed

variable {κ α : Type} [DecidableEq κ]

/-- Puts a value: in the place of the key if it is there, otherwise at the end. -/
def put (key : κ) (value : α) : List (κ × α) → List (κ × α)
  | [] => [(key, value)]
  | (k, v) :: rest => if k = key then (key, value) :: rest else (k, v) :: put key value rest

/-- Puts every pair of a second list into a first one. -/
def merge (base more : List (κ × α)) : List (κ × α) :=
  more.foldl (fun merged (k, v) => put k v merged) base

@[simp] theorem lookup_put_self [BEq κ] [LawfulBEq κ] (key : κ) (value : α)
    (pairs : List (κ × α)) :
    (put key value pairs).lookup key = some value := by
  induction pairs with
  | nil => simp [put]
  | cons pair rest ih =>
    obtain ⟨k, v⟩ := pair
    unfold put
    split
    · simp
    · next h =>
      have hk : (key == k) = false := by simpa using Ne.symm h
      simpa [List.lookup_cons, hk] using ih

theorem lookup_put_of_ne [BEq κ] [LawfulBEq κ] {key other : κ} (h : other ≠ key) (value : α)
    (pairs : List (κ × α)) :
    (put key value pairs).lookup other = pairs.lookup other := by
  induction pairs with
  | nil =>
    have ho : (other == key) = false := by simpa using h
    simp [put, List.lookup_cons, ho]
  | cons pair rest ih =>
    obtain ⟨k, v⟩ := pair
    unfold put
    split
    · next hk =>
      subst hk
      have ho : (other == k) = false := by simpa using h
      simp [List.lookup_cons, ho]
    · simp only [List.lookup_cons]
      split <;> simp_all

/-- A new key goes to the end. -/
theorem put_of_notMem {key : κ} {pairs : List (κ × α)} (h : key ∉ pairs.map Prod.fst)
    (value : α) : put key value pairs = pairs ++ [(key, value)] := by
  induction pairs with
  | nil => rfl
  | cons pair rest ih =>
    obtain ⟨k, v⟩ := pair
    rw [List.map_cons, List.mem_cons, not_or] at h
    rw [put, if_neg (Ne.symm h.1), ih h.2, List.cons_append]

/-- Pairs with different keys are put one after another. -/
theorem merge_of_nodup {base more : List (κ × α)}
    (h : ((base ++ more).map Prod.fst).Nodup) : merge base more = base ++ more := by
  induction more generalizing base with
  | nil => simp [merge]
  | cons pair more ih =>
    obtain ⟨k, v⟩ := pair
    have new : k ∉ base.map Prod.fst := by
      intro hk
      rw [List.map_append, List.nodup_append] at h
      exact h.2.2 k hk k (by simp) rfl
    have first : merge base ((k, v) :: more) = merge (base ++ [(k, v)]) more := by
      rw [← put_of_notMem new]
      rfl
    rw [first, ih (by simpa using h), List.append_assoc, List.singleton_append]

/-- Taking keys away leaves what is under the others. -/
theorem lookup_filter [BEq κ] [LawfulBEq κ] (keep : κ → Bool) (key : κ) (pairs : List (κ × α)) :
    (pairs.filter fun pair => keep pair.1).lookup key =
      if keep key then pairs.lookup key else none := by
  induction pairs with
  | nil => simp
  | cons pair rest ih =>
    obtain ⟨k, v⟩ := pair
    by_cases same : key = k
    · subst same
      by_cases kept : keep key
      · simp [kept]
      · simp [kept] at ih ⊢
        exact ih
    · have other : (key == k) = false := by simpa using same
      by_cases kept : keep k <;> simp [List.lookup_cons, kept, other, ih]

/-- A pair found after a value was put is that value under its key, or was there before. -/
theorem mem_put {key : κ} {value : α} {pairs : List (κ × α)} {pair : κ × α}
    (h : pair ∈ put key value pairs) : pair = (key, value) ∨ pair ∈ pairs := by
  induction pairs with
  | nil => exact .inl (List.mem_singleton.mp h)
  | cons first rest ih =>
    obtain ⟨k, v⟩ := first
    unfold put at h
    split at h
    · exact (List.mem_cons.mp h).imp_right (List.mem_cons_of_mem _)
    · rcases List.mem_cons.mp h with rfl | later
      · exact .inr List.mem_cons_self
      · exact (ih later).imp_right (List.mem_cons_of_mem _)

theorem mem_map_fst_put {key other : κ} {value : α} {pairs : List (κ × α)} :
    other ∈ (put key value pairs).map Prod.fst ↔ other = key ∨ other ∈ pairs.map Prod.fst := by
  induction pairs with
  | nil => simp [put]
  | cons pair rest ih =>
    obtain ⟨k, v⟩ := pair
    unfold put
    split
    · next same => simp [same]
    · simp only [List.map_cons, List.mem_cons, ih]
      exact or_left_comm

theorem nodup_put {key : κ} {value : α} {pairs : List (κ × α)}
    (h : (pairs.map Prod.fst).Nodup) : ((put key value pairs).map Prod.fst).Nodup := by
  induction pairs with
  | nil => simp [put]
  | cons pair rest ih =>
    obtain ⟨k, v⟩ := pair
    rw [List.map_cons, List.nodup_cons] at h
    unfold put
    split
    · next same => simpa [← same] using h
    · next other =>
      rw [List.map_cons, List.nodup_cons, mem_map_fst_put, not_or]
      exact ⟨⟨other, h.1⟩, ih h.2⟩

theorem nodup_merge {base : List (κ × α)} (h : (base.map Prod.fst).Nodup)
    (more : List (κ × α)) : ((merge base more).map Prod.fst).Nodup :=
  List.foldlRecOn (motive := fun merged : List (κ × α) => (merged.map Prod.fst).Nodup) more _ h
    fun _ h _ _ => nodup_put h

end ScriptVet.Keyed
