import ScriptVet.Descriptor

/-!
# Manifests

A manifest is a JSON file that lists scripts: an array of descriptors, or an object with such an
array under the key `scripts`.
-/

namespace ScriptVet.Manifest

/-- The list of scripts in a manifest that has been read. -/
def scripts : Json → Json
  | .obj fields => (Json.getField? "scripts" fields).getD (.arr [])
  | v => v

/-- What the list of scripts should be. -/
def title : String := "list[function-after[check_source(), ScriptDescriptor]]"

/-- The descriptors of a manifest that has been read. -/
def descriptors (v : Json) : Result (List Descriptor) :=
  (Checked.list Descriptor.ofJson (scripts v)).toResult title (scripts v)

/-- The descriptors of a manifest file. -/
def load (disk : Disk) (file : Path) : Result (List Descriptor) := do
  let text ← Descriptor.readTextFile disk file
  match Json.parse text with
  | .error e => .error (.json e)
  | .ok v => descriptors v

end ScriptVet.Manifest
