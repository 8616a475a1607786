/-!
# Texts put together

A text made of parts, given as what it is letter by letter: the letters of the parts, one part after
another. So a text with fixed and changing parts is reasoned about through its letters alone.
-/

namespace ScriptVet.Text

/-- The parts of a text, one after another. -/
def phrase (parts : List String) : String :=
  String.ofList (parts.flatMap String.toList)

@[simp] theorem toList_phrase (parts : List String) :
    (phrase parts).toList = parts.flatMap String.toList := by
  simp [phrase]

/-- A part in front is in front of the text. -/
theorem phrase_cons (part : String) (parts : List String) :
    phrase (part :: parts) = part ++ phrase parts := by
  rw [← String.toList_inj]
  simp

end ScriptVet.Text
