import ScriptVet.Checked.Decode

/-!
# Configured tools

An external tool is known by a name. Its configuration says which executable to look for, how long
it may take and which arguments it is given besides those that an analyzer needs.
-/

namespace ScriptVet

structure ToolConfig where
  enabled : Bool := true
  executable : String
  /-- The seconds that a run may take. Nothing, and zero, set no bound; any negative number is
  overrun at once. -/
  timeout : Option Int := none
  extraArgs : List String := []
  deriving Repr, DecidableEq

namespace ToolConfig

open Checked in
/-- A configuration from its fields. -/
def ofJson (v : Json) : Checked ToolConfig := do
  let fields ← recordFields "ToolConfig" v
  Except.ok ToolConfig.mk
    |> take (withDefault fields "enabled" true bool)
    |> take (required fields "executable" text)
    |> take (withDefault fields "timeout" none (optional int))
    |> take (withDefault fields "extra_args" [] (list text))

/-- The bound on a run. -/
def bound? (config : ToolConfig) : Option Int :=
  config.timeout.filter (· != 0)

end ToolConfig

end ScriptVet
