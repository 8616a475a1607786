import ScriptVet.Proofs.Analyzer.Begun
import ScriptVet.Proofs.Session.Stages
import ScriptVet.Proofs.Session.Transparency

/-!
# One analysis after others

A session that starts with an empty cache keeps exactly the results of earlier analyses that may be
answered from the cache and were not skipped. So an analysis is answered from the cache if its key
is among those of earlier ones with such a result, and it is made if it is not.
-/

namespace ScriptVet.Session

open Activity Analyzer ResultCache

/-- An analysis that a request asks for. -/
structure Inquiry where
  request : Request
  kind : AnalyzerKind

namespace Inquiry

def script (inquiry : Inquiry) : Script :=
  inquiry.request.script

/-- What is done to answer. -/
def work (inquiry : Inquiry) : SessionWork AnalysisResult :=
  analyze inquiry.kind inquiry.script inquiry.request.useCache

/-- The result of the analysis is kept under the key. -/
structure Leaves (settings : Settings) (first : Machine) (inquiry : Inquiry) (key : String)
    (r : AnalysisResult) : Prop where
  cached : inquiry.request.useCache
  has : HasKey settings first.toolbox inquiry.script inquiry.kind key
  comes : resultOn settings first inquiry.script inquiry.kind = some r
  made : r.status ≠ .skipped

end Inquiry

/-- The result of one of the analyses is kept under the key. -/
def KeptAfter (settings : Settings) (first : Machine) (before : List Inquiry) (key : String)
    (r : AnalysisResult) : Prop :=
  ∃ inquiry ∈ before, inquiry.Leaves settings first key r

/-- A session in which analyses were answered, and which keeps what is kept of them. -/
abbrev HoldsAfter (settings : Settings) (first : Machine) (before : List Inquiry) :
    Session → Prop :=
  Holds settings (Follows settings first (KeptAfter settings first before))
    (Remembers (KeptAfter settings first before) fun key =>
      ∃ r, KeptAfter settings first before key r)

/-- How an analysis is answered after others. -/
inductive IsAnswered (settings : Settings) (first : Machine) (before : List Inquiry)
    (inquiry : Inquiry) (r : AnalysisResult) (now next : Session) : Prop where
  | recalled {key} (cached : inquiry.request.useCache)
    (has : HasKey settings first.toolbox inquiry.script inquiry.kind key)
    (kept : KeptAfter settings first before key r)
    (begun : next.machine.analyses = now.machine.analyses)
  | made (comes : resultOn settings first inquiry.script inquiry.kind = some r)
    (unkept : inquiry.request.useCache →
      ∃ key, HasKey settings first.toolbox inquiry.script inquiry.kind key ∧
        ∀ r', ¬ KeptAfter settings first before key r')
    (begun : next.machine.analyses =
      now.machine.analyses ++ [(inquiry.kind, inquiry.script)])

section

/-! ## What is begun -/

variable {settings : Settings} {now next : Session}

theorem analyses_of_onMachine {α : Type} {work : Work α} {result : Result α} {n : Nat}
    (quiet : work.IsQuiet n) (ran : (onMachine work).run now = (result, next)) :
    next.machine.analyses = now.machine.analyses := by
  have same := (quiet.run now.machine).analyses
  rw [run_of_onMachine ran] at same
  exact same

theorem analyses_of_onMachine_analyze {kind : AnalyzerKind} {script : Script}
    {result : Result AnalysisResult}
    (ran : (onMachine ((builtin settings kind).analyze script)).run now = (result, next)) :
    next.machine.analyses = now.machine.analyses ++ [(kind, script)] := by
  have begun := analyses_run_analyze settings kind script now.machine
  rw [run_of_onMachine ran] at begun
  exact begun

/-- Keeping a result begins nothing. -/
theorem analyses_of_store {key : String} {r : AnalysisResult} {result : Result Unit}
    (stored : (store key r).run now = (result, next)) :
    next.machine.analyses = now.machine.analyses := by
  rw [Activity.run, store_apply] at stored
  cases there : now.cache with
  | none =>
      rw [there] at stored
      cases stored
      rfl
  | some cache =>
      rw [there] at stored
      rcases put : cache.put now.machine.disk key r with ⟨cache', _ | disk⟩
      all_goals
        simp only [put] at stored
        cases stored
        rfl

/-- What is kept is in memory. -/
theorem recalls_of_store {key : String} {r : AnalysisResult} (made : r.status ≠ .skipped)
    {cache : ResultCache} (there : now.cache = some cache) {result : Result Unit}
    (stored : (store key r).run now = (result, next)) : next.Recalls key := by
  have kept : (cache.remember key r).entries.lookup key ≠ none := by
    rw [ResultCache.remember, Keyed.lookup_put_self]
    exact Option.some_ne_none r
  rw [run_store_of_not_skipped made key there] at stored
  cases given : cache.folder with
  | none =>
      rw [given] at stored
      cases stored
      exact ⟨_, rfl, kept⟩
  | some folder =>
      rw [given] at stored
      cases written : writeEntry now.machine.disk (fileFor folder key) r
      all_goals
        simp only [written] at stored
        cases stored
        exact ⟨_, rfl, kept⟩

end

section

variable {settings : Settings} {s now next : Session} {first : Machine} {before : List Inquiry}
  {inquiry : Inquiry} {key : String} {r : AnalysisResult}

theorem KeptAfter.concat (h : KeptAfter settings first before key r) (inquiry : Inquiry) :
    KeptAfter settings first (before ++ [inquiry]) key r := by
  obtain ⟨earlier, he, leaves⟩ := h
  exact ⟨earlier, List.mem_append_left _ he, leaves⟩

theorem keptAfter_concat_iff :
    KeptAfter settings first (before ++ [inquiry]) key r ↔
      KeptAfter settings first before key r ∨ inquiry.Leaves settings first key r := by
  rw [KeptAfter, KeptAfter]
  simp only [List.mem_append, List.mem_singleton, or_and_right, exists_or, exists_eq_left]

/-- One more analysis has been answered, and what it has left is in memory. -/
theorem HoldsAfter.concat (h : HoldsAfter settings first before now)
    (kept : ∀ {key r}, inquiry.Leaves settings first key r →
      (∃ r', KeptAfter settings first before key r') ∨ now.Recalls key) :
    HoldsAfter settings first (before ++ [inquiry]) now := by
  refine Holds.relax h (fun kept => kept.concat inquiry) ?_
  rintro key ⟨r, keeps⟩
  rcases keptAfter_concat_iff.mp keeps with earlier | leaves
  · exact .inl ⟨r, earlier⟩
  · exact kept leaves

/-- An analysis past the cache is made. -/
theorem isAnswered_of_past (empty : s.StartsEmpty settings)
    (h : HoldsAfter settings s.machine before now) (past : inquiry.request.useCache = false)
    (ran : inquiry.work.run now = (.ok r, next)) :
    IsAnswered settings s.machine before inquiry r now next ∧
      HoldsAfter settings s.machine (before ++ [inquiry]) next := by
  rw [Inquiry.work, past] at ran
  have regime := empty.regime (KeptAfter settings s.machine before) fun key =>
    ∃ r, KeptAfter settings s.machine before key r
  have ends := ensures_run
    (ensures_analyze_uncached empty.ready regime h inquiry.script inquiry.kind)
  rw [ran] at ends
  have unused : (now.cache.filter fun _ => false) = none := by
    cases now.cache <;> rfl
  rw [run_analyze_of_unused h unused] at ran
  refine ⟨.made ends.2 (fun cached => ?_) (analyses_of_onMachine_analyze ran), ?_⟩
  · rw [past] at cached
    cases cached
  · refine HoldsAfter.concat ends.1 fun leaves => ?_
    have cached := leaves.cached
    rw [past] at cached
    cases cached

/-- An analysis that is made and whose result is then kept, if it was not skipped. -/
theorem holdsAfter_of_store (empty : s.StartsEmpty settings)
    (h : HoldsAfter settings s.machine before now) {version : String}
    (cached : inquiry.request.useCache) (content : inquiry.script.checkContent = .ok ())
    (has : HasVersion settings (Tells settings s.machine.toolbox) inquiry.script inquiry.kind
      version)
    (named : keyFor inquiry.script (builtin settings inquiry.kind) version = .ok key)
    (fresh : IsFresh settings (Follows settings s.machine (KeptAfter settings s.machine before))
      inquiry.script inquiry.kind r) {result : Result Unit}
    (stored : (store key r).run now = (result, next)) :
    HoldsAfter settings s.machine (before ++ [inquiry]) next := by
  have hasKey : HasKey settings s.machine.toolbox inquiry.script inquiry.kind key :=
    ⟨content, version, has, named⟩
  have comes := Continues.resultOn_of_isFresh empty.ready fresh
  by_cases skipped : r.status = .skipped
  · rw [run_store_of_skipped skipped] at stored
    cases stored
    refine h.concat fun leaves => ?_
    have same := leaves.comes
    rw [comes] at same
    cases same
    exact absurd skipped leaves.made
  · -- What is kept now is right for the longer list, while memory still has the earlier keys.
    have regime := empty.regime (KeptAfter settings s.machine (before ++ [inquiry])) fun key =>
      ∃ r, KeptAfter settings s.machine before key r
    have admits : Admits settings (Tells settings s.machine.toolbox)
        (Follows settings s.machine (KeptAfter settings s.machine (before ++ [inquiry])))
        (KeptAfter settings s.machine (before ++ [inquiry])) inquiry.script inquiry.kind :=
      empty.admits_of_right fun has comes made =>
        ⟨inquiry, List.mem_concat_self, cached, has, comes, made⟩
    have begins := Holds.relax h (fun kept => kept.concat inquiry) (fun kept => .inl kept)
    obtain ⟨m, follows, given⟩ := fresh
    have fresh' : IsFresh settings
        (Follows settings s.machine (KeptAfter settings s.machine (before ++ [inquiry])))
        inquiry.script inquiry.kind r := ⟨m, follows.mono fun kept => kept.concat inquiry, given⟩
    have holds := holds_store regime admits begins content has named fresh' skipped
    rw [stored] at holds
    obtain ⟨cache, there⟩ := Option.isSome_iff_exists.mp (h.caching.trans empty.caching)
    have recalls := recalls_of_store skipped there stored
    refine Holds.relax holds id ?_
    rintro other ⟨r', keeps⟩
    rcases keptAfter_concat_iff.mp keeps with earlier | leaves
    · exact .inl ⟨r', earlier⟩
    · rw [leaves.has.unique hasKey]
      exact .inr recalls

/-- An analysis that may be answered from the cache is made only if its key is not among those of
earlier ones. -/
theorem isAnswered_of_cached (empty : s.StartsEmpty settings)
    (h : HoldsAfter settings s.machine before now) (cached : inquiry.request.useCache)
    (ran : inquiry.work.run now = (.ok r, next)) :
    IsAnswered settings s.machine before inquiry r now next ∧
      HoldsAfter settings s.machine (before ++ [inquiry]) next := by
  have regime := empty.regime (KeptAfter settings s.machine before) fun key =>
    ∃ r, KeptAfter settings s.machine before key r
  rw [Inquiry.work, cached] at ran
  obtain ⟨cache, there⟩ := Option.isSome_iff_exists.mp (h.caching.trans empty.caching)
  have used : (now.cache.filter fun _ => true) = some cache := by
    rw [there]
    rfl
  obtain ⟨content, version, s1, key, found, s2, versioned, named, there, looked, rest⟩ :=
    stages_of_run_analyze h used ran
  have versions := ensures_run (ensures_onMachine h
    (ensures_fullVersion regime.versions h.machine inquiry.script inquiry.kind))
  rw [versioned] at versions
  have hasKey : HasKey settings s.machine.toolbox inquiry.script inquiry.kind key :=
    ⟨content, version, versions.2, named⟩
  have finds := ensures_run (ensures_lookUp regime versions.1 there hasKey.isKey)
  rw [looked] at finds
  have still : s2.machine.analyses = now.machine.analyses := by
    rw [machine_of_lookUp looked]
    exact analyses_of_onMachine (isQuiet_fullVersion _ _) versioned
  cases found with
  | some r' =>
      obtain ⟨rfl, rfl⟩ := rest
      obtain ⟨holds, kept⟩ := finds
      refine ⟨.recalled cached hasKey kept still, HoldsAfter.concat holds fun leaves => .inl ?_⟩
      rw [leaves.has.unique hasKey]
      exact ⟨r', kept⟩
  | none =>
      obtain ⟨s3, analyzed, stored⟩ := rest
      obtain ⟨holds, ⟨entries, memory, missed⟩, -⟩ := finds
      have ends := ensures_run (ensures_onMachine holds
        (Analyzer.ensures_analyze regime.versions.lasting holds.machine inquiry.kind
          inquiry.script))
      rw [analyzed] at ends
      have fresh : IsFresh settings
          (Follows settings s.machine (KeptAfter settings s.machine before)) inquiry.script
          inquiry.kind r := ⟨s2.machine, holds.machine, ends.2.symm⟩
      refine ⟨.made (Continues.resultOn_of_isFresh empty.ready fresh) (fun _ => ?_) ?_, ?_⟩
      · exact ⟨key, hasKey, fun r' kept => memory.stays ⟨r', kept⟩ missed⟩
      · rw [analyses_of_store stored, analyses_of_onMachine_analyze analyzed, still]
      · exact holdsAfter_of_store empty ends.1 cached content versions.2 named fresh stored

/-- What answering one analysis comes to after others. -/
theorem isAnswered_of_work (empty : s.StartsEmpty settings)
    (h : HoldsAfter settings s.machine before now)
    (ran : inquiry.work.run now = (.ok r, next)) :
    IsAnswered settings s.machine before inquiry r now next ∧
      HoldsAfter settings s.machine (before ++ [inquiry]) next := by
  cases cached : inquiry.request.useCache with
  | false => exact isAnswered_of_past empty h cached ran
  | true => exact isAnswered_of_cached empty h cached ran

end

end ScriptVet.Session
