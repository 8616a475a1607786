import ScriptVet.Proofs.Session.Analyze

/-!
# The stages of an analysis

An analysis that the cache has no part in is work on the machine and nothing else. One that may be
answered from the cache asks for the version of its analyzer, looks under the key for it and, if
nothing is found there, makes the result and keeps it. If a result is given then every stage on the
way was passed.
-/

namespace ScriptVet.Session

open Activity Analyzer ResultCache

variable {settings : Settings} {inv : Machine → Prop} {mem : List (String × AnalysisResult) → Prop}
  {s s' : Session} {script : Script} {kind : AnalyzerKind}

theorem run_onMachine {α : Type} (work : Work α) (s : Session) :
    (onMachine work).run s =
      ((work.run s.machine).1, { s with machine := (work.run s.machine).2 }) := by
  rw [onMachine, run_inPart]
  · exact fun _ _ _ => rfl
  · exact fun _ _ => rfl

theorem run_of_onMachine {α : Type} {work : Work α} {result : Result α}
    (ran : (onMachine work).run s = (result, s')) :
    work.run s.machine = (result, s'.machine) := by
  rw [run_onMachine] at ran
  obtain ⟨rfl, rfl⟩ := Prod.mk.inj ran
  rfl

theorem cache_of_onMachine {α : Type} {work : Work α} {result : Result α}
    (ran : (onMachine work).run s = (result, s')) : s'.cache = s.cache := by
  rw [run_onMachine] at ran
  obtain ⟨-, rfl⟩ := Prod.mk.inj ran
  rfl

/-- Looking for a result leaves the machine as it is. -/
theorem machine_of_lookUp {cache : ResultCache} {key : String}
    {result : Result (Option AnalysisResult)} (ran : (lookUp cache key).run s = (result, s')) :
    s'.machine = s.machine := by
  rw [Activity.run, lookUp_apply] at ran
  cases found : cache.get s.machine.disk key <;> rw [found] at ran <;> cases ran <;> rfl

theorem run_analyze_of_unused (h : s.Holds settings inv mem) {useCache : Bool}
    (unused : (s.cache.filter fun _ => useCache) = none) :
    (analyze kind script useCache).run s =
      (onMachine ((builtin settings kind).analyze script)).run s := by
  rw [Activity.run, analyze, analyzerOf_bind h, get_bind_apply, unused, Activity.run]

/-- The stages of an analysis that may be answered from the cache, and that has given a result. -/
theorem stages_of_run_analyze (h : s.Holds settings inv mem) {useCache : Bool} {cache : ResultCache}
    (used : (s.cache.filter fun _ => useCache) = some cache) {r : AnalysisResult}
    (ran : (analyze kind script useCache).run s = (.ok r, s')) :
    script.checkContent = .ok () ∧ ∃ version s1 key found s2,
      (onMachine ((builtin settings kind).fullVersion script)).run s = (.ok version, s1) ∧
      keyFor script (builtin settings kind) version = .ok key ∧
      s1.cache = some cache ∧ (lookUp cache key).run s1 = (.ok found, s2) ∧
        match found with
        | some r' => r' = r ∧ s' = s2
        | none => ∃ s3, (onMachine ((builtin settings kind).analyze script)).run s2 = (.ok r, s3) ∧
          (store key r).run s3 = (.ok (), s') := by
  change Course.finish (analyze kind script useCache s) = _ at ran
  rw [analyze, analyzerOf_bind h] at ran
  change Activity.run _ s = _ at ran
  obtain ⟨_, _, got, ran⟩ := run_bind_eq_ok.mp ran
  cases got
  rw [used] at ran
  obtain ⟨_, _, content, ran⟩ := run_bind_eq_ok.mp ran
  rw [run_liftM] at content
  obtain ⟨whole, rfl⟩ := Prod.mk.inj content
  obtain ⟨version, s1, versioned, ran⟩ := run_bind_eq_ok.mp ran
  obtain ⟨key, _, named, ran⟩ := run_bind_eq_ok.mp ran
  rw [run_liftM] at named
  obtain ⟨given, rfl⟩ := Prod.mk.inj named
  obtain ⟨_, _, got, ran⟩ := run_bind_eq_ok.mp ran
  cases got
  have there : s1.cache = some cache := by
    rw [cache_of_onMachine versioned]
    exact (Option.filter_eq_some_iff.mp used).1
  simp only [there] at ran
  obtain ⟨found, s2, looked, ran⟩ := run_bind_eq_ok.mp ran
  refine ⟨Result.mapError_eq_ok_iff.mp whole, version, s1, key, found, s2, versioned, given, there,
    looked, ?_⟩
  cases found with
  | some r' =>
      cases ran
      exact ⟨rfl, rfl⟩
  | none =>
      obtain ⟨r', s3, analyzed, ran⟩ := run_bind_eq_ok.mp ran
      obtain ⟨_, s4, stored, ran⟩ := run_bind_eq_ok.mp ran
      cases ran
      exact ⟨s3, analyzed, stored⟩

end ScriptVet.Session
