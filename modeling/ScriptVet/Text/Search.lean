/-!
# Searching and replacing

A text is searched from left to right, and occurrences that are replaced do not overlap.
-/

namespace ScriptVet.Text

/-- The part occurs somewhere in the text. -/
def occursIn (part : List Char) : List Char → Bool
  | [] => part.isEmpty
  | c :: rest => part.isPrefixOf (c :: rest) || occursIn part rest

/-- Replaces from left to right every occurrence of a part that is not empty; `skip` characters of
an occurrence already replaced are still to be passed over. -/
def replaceFrom (part replacement : List Char) : Nat → List Char → List Char
  | _, [] => []
  | skip + 1, _ :: rest => replaceFrom part replacement skip rest
  | 0, c :: rest =>
    if part.isPrefixOf (c :: rest) then
      replacement ++ replaceFrom part replacement (part.length - 1) rest
    else c :: replaceFrom part replacement 0 rest

/-- Replaces every occurrence of a part by another text. -/
def replaceAll (part replacement s : String) : String :=
  if part.isEmpty then s
  else String.ofList (replaceFrom part.toList replacement.toList 0 s.toList)

/-- The text without a beginning that it is known to have. -/
def dropStart? (start : List Char) (cs : List Char) : Option (List Char) :=
  if start.isPrefixOf cs then some (cs.drop start.length) else none

/-- Where the part does not occur nothing is replaced. -/
theorem replaceFrom_eq_self {part replacement cs : List Char} (h : ¬ part <:+: cs) :
    replaceFrom part replacement 0 cs = cs := by
  induction cs with
  | nil => rfl
  | cons c rest ih =>
    rw [List.infix_cons_iff, not_or] at h
    have hp : part.isPrefixOf (c :: rest) = false :=
      Bool.eq_false_iff.2 fun e => h.1 (List.isPrefixOf_iff_prefix.1 e)
    simp [replaceFrom, hp, ih h.2]

theorem dropStart?_eq_some_iff {start cs rest : List Char} :
    dropStart? start cs = some rest ↔ cs = start ++ rest := by
  unfold dropStart?
  constructor
  · intro h
    split at h
    · next hp =>
      obtain ⟨t, rfl⟩ := List.isPrefixOf_iff_prefix.1 hp
      simpa using h
    · simp at h
  · rintro rfl
    simp

end ScriptVet.Text
