/-!
# Ranges of characters

A property of characters that a standard lists as ranges of code points is kept as the list of its
ranges, both ends included.
-/

namespace ScriptVet.Text

/-- The character lies in one of the ranges. -/
def inRanges (ranges : List (Nat × Nat)) (c : Char) : Bool :=
  ranges.any fun (first, last) => first ≤ c.toNat && c.toNat ≤ last

@[simp] theorem inRanges_nil (c : Char) : inRanges [] c = false := rfl

theorem inRanges_cons (first last : Nat) (ranges : List (Nat × Nat)) (c : Char) :
    inRanges ((first, last) :: ranges) c
      = ((first ≤ c.toNat && c.toNat ≤ last) || inRanges ranges c) := rfl

end ScriptVet.Text
