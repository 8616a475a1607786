import ScriptVet.Proofs.Files.Contents

/-!
# The text of a path

The text of a path one name longer is the name behind a lead, and the lead grows by the name and a
slash.
-/

namespace ScriptVet.Path

/-- What stands before the next name: the slashes at the front, and all names, each with a slash
behind it. -/
def lead (p : Path) : String :=
  String.ofList (List.replicate p.slashes '/') ++ String.join (p.parts.map (· ++ "/"))

theorem intercalate_concat (parts : List String) (name : String) :
    "/".intercalate (parts ++ [name]) = String.join (parts.map (· ++ "/")) ++ name := by
  induction parts with
  | nil => simp
  | cons part parts ih =>
      have rest : parts ++ [name] ≠ [] := by simp
      rw [List.cons_append, String.intercalate_cons_of_ne_nil rest, ih, List.map_cons,
        String.join_cons]
      simp only [String.append_assoc]

/-- Behind a name the lead goes on with a slash. -/
theorem lead_of_parts_ne_nil {p : Path} (some : p.parts ≠ []) : p.lead = p.toString ++ "/" := by
  rw [Disk.toString_of_parts_ne_nil some, lead, ← List.dropLast_concat_getLast some,
    intercalate_concat, List.map_append, List.map_singleton]
  simp [String.join_append, String.append_assoc]

variable (p : Path) {name : String}

/-- The lead begins as the text of the path does, or is only a slash, or nothing. -/
theorem head?_lead {c : Char} (begins : c ∈ p.lead.toList.head?) :
    c ∈ p.toString.toList.head? ∨ c = '/' := by
  by_cases some : p.parts = []
  · right
    rw [lead, some, List.map_nil, String.toList_append, String.toList_ofList] at begins
    cases slashes : p.slashes with
    | zero =>
        rw [slashes] at begins
        cases begins
    | succ n =>
        rw [slashes] at begins
        exact (Option.some.inj begins).symm
  · rw [lead_of_parts_ne_nil some, String.toList_append] at begins
    cases text : p.toString.toList with
    | nil =>
        rw [text] at begins
        exact .inr (Option.some.inj begins).symm
    | cons d rest =>
        rw [text] at begins
        exact .inl begins

theorem toString_child (h : IsStepName name) : (p.child name).toString = p.lead ++ name := by
  rw [child_of_isStepName p h, Disk.toString_of_parts_ne_nil (by simp), intercalate_concat, lead,
    String.append_assoc]

theorem lead_child (h : IsStepName name) : (p.child name).lead = p.lead ++ name ++ "/" := by
  rw [child_of_isStepName p h, lead, lead, List.map_append, List.map_singleton]
  simp [String.join_append, String.append_assoc]

end ScriptVet.Path
