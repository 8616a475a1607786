import Mathlib.Data.List.Nodup
import Mathlib.Order.Lattice

/-!
# Sorting by keys

The ids of tests, the kinds of results and the places of definitions are keys that lists are sorted
by. Members with the same key stay in the order in which they came, and where all keys are distinct
there is one sorted list only.
-/

namespace ScriptVet.Sorting

variable {α β : Type} [LinearOrder β] (key : α → β)

theorem trans_of_key (a b c : α) (first : decide (key a ≤ key b))
    (second : decide (key b ≤ key c)) : decide (key a ≤ key c) :=
  decide_eq_true (le_trans (of_decide_eq_true first) (of_decide_eq_true second))

theorem total_of_key (a b : α) : (decide (key a ≤ key b) || decide (key b ≤ key a)) := by
  simpa using le_total (key a) (key b)

theorem pairwise_mergeSort (list : List α) :
    (list.mergeSort fun a b => key a ≤ key b).Pairwise fun a b => key a ≤ key b :=
  (List.pairwise_mergeSort (trans_of_key key) (total_of_key key) list).imp of_decide_eq_true

variable {list : List α}

/-- Members that come in order keep their order. -/
theorem filter_mergeSort {keep : α → Bool}
    (ordered : (list.filter keep).Pairwise fun a b => key a ≤ key b) :
    (list.mergeSort fun a b => key a ≤ key b).filter keep = list.filter keep := by
  have kept := List.sublist_mergeSort (trans_of_key key) (total_of_key key)
    (ordered.imp decide_eq_true) List.filter_sublist
  have within := kept.filter keep
  rw [List.filter_filter] at within
  simp only [Bool.and_self] at within
  exact (within.eq_of_length ((List.mergeSort_perm list _).filter keep).length_eq.symm).symm

/-- Sorting finds the order in which the keys ascend. -/
theorem mergeSort_eq_of_perm {sorted : List α} (perm : list.Perm sorted)
    (ascending : sorted.Pairwise fun a b => key a < key b) :
    (list.mergeSort fun a b => key a ≤ key b) = sorted := by
  have distinct : (sorted.map key).Nodup := List.pairwise_map.mpr (ascending.imp ne_of_lt)
  have found := (List.mergeSort_perm list fun a b => key a ≤ key b).trans perm
  refine found.eq_of_pairwise (fun a b memA memB below above => ?_) (pairwise_mergeSort key list)
    (ascending.imp le_of_lt)
  exact List.inj_on_of_nodup_map distinct (found.mem_iff.mp memA) memB (le_antisymm below above)

/-- Distinct keys ascend strictly. -/
theorem pairwise_lt_mergeSort (distinct : (list.map key).Nodup) :
    (list.mergeSort fun a b => key a ≤ key b).Pairwise fun a b => key a < key b := by
  have nodup : ((list.mergeSort fun a b => key a ≤ key b).map key).Nodup :=
    ((List.mergeSort_perm list _).map key).nodup_iff.mpr distinct
  exact ((pairwise_mergeSort key list).and (List.pairwise_map.mp nodup)).imp
    fun ⟨below, other⟩ => lt_of_le_of_ne below other

end ScriptVet.Sorting
