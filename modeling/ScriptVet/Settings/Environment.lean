import ScriptVet.Settings
import ScriptVet.Settings.DotEnv
import ScriptVet.Text.Lines

/-!
# Settings from the environment

A setting may be given by the caller, by a variable of the environment or in the file `.env` of the
working folder, and the first of them that gives it wins. The variable of a field has the name of
the field after `SCRIPTGATE_`, in any case. Lists and objects are given as JSON; objects that come
from several sources are merged.
-/

namespace ScriptVet.Settings

/-- The lower-case name of the variable of a field. -/
def variableOf (field : String) : String :=
  "scriptgate_" ++ field

/-- Variables by their lower-case names. Of several with one name the last counts, in the place of
the first; this holds for the names as they are given and then for the lower-case ones. -/
def lowerNames (bindings : List (String × Option String)) : List (String × Option String) :=
  Keyed.merge [] ((Keyed.merge [] bindings).map fun (name, value) => (Text.lower name, value))

/-- The value of a field in a variable: as JSON if the field is a composite one. -/
def readVariable (field text : String) : Result Json :=
  if compositeFields.contains field then
    match Json.parse text with
    | .ok value => .ok value
    | .error (.tooDeep inObject) => .error (.json (.tooDeep inObject))
    | .error _ => .error (.unreadableSetting field)
  else .ok (.str text)

/-- The fields that variables give. -/
def fieldsOfVariables (bindings : List (String × Option String)) :
    Result (List (String × Json)) := do
  let given ← fieldNames.mapM fun field =>
    match (bindings.lookup (variableOf field)).join with
    | none => pure none
    | some text => do
      let value ← readVariable field text
      pure (if value.isNull then none else some (field, value))
  return given.reduceOption

/-- The variables of an environment file that no field accounts for. -/
def strayVariables (bindings : List (String × Option String)) : List (String × Json) :=
  bindings.filterMap fun (name, value) =>
    let accounted := fieldNames.any fun field =>
      name = variableOf field || name = field ||
        (compositeFields.contains field && (variableOf field).toList.isPrefixOf name.toList)
    match value with
    | none | some "" => none
    | some text => if accounted then none else some (name, .str text)

/-- The text of the environment file, if there is one. -/
def readEnvironmentFile (disk : Disk) : Result (List Char) :=
  let file := Path.ofString ".env"
  match disk.look file with
  | .error e => .error (.disk e)
  | .ok (some (.file content _)) =>
    match Text.Utf8.decode? content with
    | none => .error .notText
    | some text => .ok (Text.readNewlines text)
  | .ok _ => .ok []

/-- Settings for a run in the working folder of the disk. -/
def load (working : Path) (disk : Disk) (environment : List (String × String))
    (given : List (String × Json)) : Result Settings := do
  let file := lowerNames (DotEnv.values environment (← readEnvironmentFile disk))
  let outerFields ←
    fieldsOfVariables (lowerNames (environment.map fun (name, value) => (name, some value)))
  let fileFields ← fieldsOfVariables file
  let fields := Json.mergeFields (fileFields ++ strayVariables file) outerFields
  ofFields working (Json.mergeFields fields given)

end ScriptVet.Settings
