import ScriptVet.Proofs.Analyzer.Outcome

/-!
# What tools tell about their versions

The version of a tool is a function of the toolbox, as long as what was noted earlier is. Only a
command that is refused before the system is asked keeps a tool from having a version.
-/

namespace ScriptVet.Work

open Activity

/-- What asking a tool for its version gives. -/
def askedVersion (settings : Settings) (toolbox : Toolbox) (tool : String) : Result String := do
  let executable ← executableOf settings tool toolbox
  versionIn <$> answer toolbox ⟨executable, ["--version"], .version⟩ (some versionSeconds)

/-- What counts as the version of a tool. -/
def toldVersion (settings : Settings) (toolbox : Toolbox) (tool : String) : Result String :=
  match askedVersion settings toolbox tool with
  | .ok version => .ok version
  | .error fault => if leavesVersionOpen fault then .ok "unavailable" else .error fault

theorem leavesVersionOpen_of_executableOf {settings : Settings} {toolbox : Toolbox} {tool : String}
    {fault : Fault} (missing : executableOf settings tool toolbox = .error fault) :
    leavesVersionOpen fault = true := by
  simp only [executableOf] at missing
  split at missing
  · rw [← Except.error.inj missing]
    rfl
  · split at missing
    · rw [← Except.error.inj missing]
      rfl
    · cases missing

/-- A tool without a version has an executable, which is refused before the system is asked. -/
theorem refused_of_toldVersion {settings : Settings} {toolbox : Toolbox} {tool : String}
    {fault : Fault} (failed : toldVersion settings toolbox tool = .error fault) :
    ∃ executable cause, executableOf settings tool toolbox = .ok executable ∧
      toolbox.respond ⟨executable, ["--version"], .version⟩ = .notStarted cause ∧
      cause.isFromSystem = false := by
  have kept : (some versionSeconds).any isEndless = false := by decide
  rw [toldVersion, askedVersion] at failed
  cases found : executableOf settings tool toolbox with
  | error e =>
      rw [found, Result.error_bind] at failed
      simp only [leavesVersionOpen_of_executableOf found, if_true] at failed
      cases failed
  | ok executable =>
      rw [found, Result.ok_bind] at failed
      cases said : toolbox.respond ⟨executable, ["--version"], .version⟩ with
      | notStarted cause =>
          refine ⟨executable, cause, rfl, said, Bool.eq_false_iff.mpr fun fromSystem => ?_⟩
          simp [answer, said, limited, leavesVersionOpen, fromSystem] at failed
      | finished stdout stderr code =>
          have time : ∀ n ∈ some versionSeconds, 0 ≤ n ∧ isEndless n = false := by
            intro n hn
            rw [← Option.some.inj hn]
            exact ⟨by decide, by decide⟩
          rw [answer_of_finished said time] at failed
          cases failed
      | overran => simp [answer, said, limited, kept, leavesVersionOpen] at failed

/-- What is noted about versions stays true, and the invariant stays true with it. -/
structure KeepsVersions (settings : Settings) (told : String → String → Prop)
    (inv : Machine → Prop) : Prop where
  lasting : Machine.Lasting settings inv
  asked : ∀ {m tool version}, inv m → toldVersion settings m.toolbox tool = .ok version →
    told tool version
  noted : ∀ {m kind tool version}, inv m → m.versions.lookup (kind, tool) = some version →
    told tool version
  notes : ∀ {m tool version}, inv m → told tool version → ∀ kind,
    inv { m with versions := ((kind, tool), version) :: m.versions }

variable {settings : Settings} {told : String → String → Prop} {inv : Machine → Prop}

/-- What is noted stays true when something true is noted. -/
theorem told_of_noted {versions : List ((AnalyzerKind × String) × String)}
    (noted : ∀ {kind tool version}, versions.lookup (kind, tool) = some version →
      told tool version)
    {tool version : String} (now : told tool version) (kind : AnalyzerKind) {kind' : AnalyzerKind}
    {tool' version' : String}
    (found : List.lookup (kind', tool') (((kind, tool), version) :: versions) = some version') :
    told tool' version' := by
  rw [List.lookup_cons] at found
  split at found
  · next same =>
    cases eq_of_beq same
    cases found
    exact now
  · exact noted found

theorem ensures_askVersion (lasting : Machine.Lasting settings inv) {m : Machine} (h : inv m)
    (tool : String) :
    (askVersion settings tool m).Ensures inv fun result m' =>
      inv m' ∧ result = askedVersion settings m.toolbox tool := by
  rw [askVersion, askedVersion, get_bind_apply, liftM_bind_apply]
  cases executableOf settings tool m.toolbox with
  | error fault => exact ⟨h, rfl⟩
  | ok executable =>
      have said := ensures_runCommand lasting h ⟨executable, ["--version"], .version⟩
        (some versionSeconds)
      refine ensures_bind said (fun output m' ⟨h', ended⟩ => ?_) fun fault m' ⟨h', ended⟩ => ?_
      · rw [Result.ok_bind, ← ended]
        exact ⟨h', rfl⟩
      · rw [Result.ok_bind, ← ended]
        exact ⟨h', rfl⟩

/-- The version that an analyzer is told, now or earlier. -/
theorem ensures_toolVersion (keeps : KeepsVersions settings told inv) {m : Machine} (h : inv m)
    (kind : AnalyzerKind) (tool : String) :
    (toolVersion settings kind tool m).Ensures inv fun result m' =>
      inv m' ∧
        match result with
        | .ok version => told tool version
        | .error fault => toldVersion settings m.toolbox tool = .error fault := by
  rw [toolVersion, get_bind_apply]
  cases noted : m.versions.lookup (kind, tool) with
  | some version => exact ⟨h, keeps.noted h noted⟩
  | none =>
      have answered : ((tryCatch (askVersion settings tool) fun e =>
          if leavesVersionOpen e then pure "unavailable" else throw e : Work String) m).Ensures inv
            fun result m' => inv m' ∧ result = toldVersion settings m.toolbox tool := by
        refine ensures_tryCatch (ensures_askVersion keeps.lasting h tool)
          (fun version m' ⟨h', ended⟩ => ⟨h', ?_⟩) fun fault m' ⟨h', ended⟩ => ?_
        · rw [toldVersion, ← ended]
        · rw [toldVersion, ← ended]
          by_cases isOpen : leavesVersionOpen fault
          · simp only [isOpen, if_true]
            exact ⟨h', rfl⟩
          · simp only [isOpen, Bool.false_eq_true, if_false]
            exact ⟨h', rfl⟩
      refine ensures_bind answered (fun version m' ⟨h', ended⟩ => ?_)
        fun fault m' ⟨h', ended⟩ => ⟨h', ended.symm⟩
      have now : told tool version := keeps.asked h ended.symm
      exact ⟨keeps.notes h' now kind, now⟩

end ScriptVet.Work
