import ScriptVet.Proofs.Session.Inquiries
import ScriptVet.Proofs.Session.Kinds
import ScriptVet.Proofs.Session.Reports
import ScriptVet.Proofs.Session.Skipping

/-!
# How often analyses are made

Requests that are all answered, one after another, ask for analyses of contents again and again. An
analysis that was made is made once for all requests that may be answered from the cache, and one
that was skipped is tried again for every request. A request past the cache has its analyses made
for itself alone.
-/

namespace ScriptVet.Session

open Activity Analyzer ResultCache

/-- How often an analysis of the kind was begun for scripts with the fingerprint. -/
def timesAnalyzed (s : Session) (fingerprint : String) (kind : AnalyzerKind) : Nat :=
  s.machine.analyses.countP fun begun => begun.1 == kind && begun.2.fingerprint == fingerprint

namespace Request

/-- The request asks for an analysis of the kind, and its script has the fingerprint. -/
def asksFor (fingerprint : String) (kind : AnalyzerKind) (request : Request) : Bool :=
  request.script.fingerprint == fingerprint && request.kinds.contains kind

/-- The analyses that are asked for. -/
def inquiries (request : Request) : List Inquiry :=
  request.kinds.map (Inquiry.mk request)

end Request

/-- What requests get for an answer, one after another. -/
def answers : List Request → Session → List (Option Report)
  | [], _ => []
  | request :: requests, s => request.answer s :: answers requests (request.after s)

/-- The analysis is one of the kind, for a script with the fingerprint. -/
def Inquiry.concerns (fingerprint : String) (kind : AnalyzerKind) (inquiry : Inquiry) : Bool :=
  inquiry.script.fingerprint == fingerprint && inquiry.kind == kind

/-- The requests that ask for the analyses of one kind for scripts with one fingerprint. -/
def asking (fingerprint : String) (kind : AnalyzerKind) (inquiries : List Inquiry) :
    List Request :=
  (inquiries.filter (·.concerns fingerprint kind)).map (·.request)

/-- How often an analysis is made for requests: every time if it lacks its tool, and otherwise once
for all that may be answered from the cache and once for each of the others. -/
def timesDue (lacks : Bool) (asked : List Request) : Nat :=
  if lacks then asked.length
  else asked.countP (!·.useCache) + if asked.any (·.useCache) then 1 else 0

theorem timesDue_concat_of_recalled {asked : List Request} {request : Request}
    (cached : request.useCache) (earlier : ∃ other ∈ asked, other.useCache) :
    timesDue false (asked ++ [request]) = timesDue false asked := by
  have some : asked.any (·.useCache) := List.any_eq_true.mpr earlier
  simp [timesDue, List.countP_append, some, cached]

theorem timesDue_concat_of_made {lacks : Bool} {asked : List Request} {request : Request}
    (new : lacks = false → request.useCache → ∀ other ∈ asked, ¬ other.useCache) :
    timesDue lacks (asked ++ [request]) = timesDue lacks asked + 1 := by
  cases lacks with
  | true => simp [timesDue]
  | false =>
      cases cached : request.useCache with
      | false =>
          simp [timesDue, List.countP_append, cached]
          omega
      | true =>
          have none : asked.any (·.useCache) = false := List.any_eq_false.mpr (new rfl cached)
          simp [timesDue, List.countP_append, cached, none]

/-- The stages of a request that is answered: its analyses one after another, and the report. -/
theorem stages_of_answer {request : Request} {now : Session} {found : Report}
    (given : request.answer now = some found) :
    request.script.checkContent = .ok () ∧ ∃ results,
      ((request.inquiries.map Inquiry.work).mapM id).run now = (.ok results, request.after now) ∧
        found = Report.aggregate request.script results := by
  rw [Request.answer, Request.after, run, run_settle] at *
  rcases ran : (runInOrder request.script request.selection request.useCache).run now with
    ⟨fault | found', next⟩
  · rw [ran] at given
    cases given
  · rw [ran] at given
    cases given
    obtain ⟨results, _, answered, reported⟩ := run_bind_eq_ok.mp ran
    rw [run_liftM] at reported
    obtain ⟨reports, rfl⟩ := Prod.mk.inj reported
    obtain ⟨whole, same⟩ := report_eq_ok_iff.mp reports
    refine ⟨Script.checkContent_eq_ok_iff.mpr whole, results, ?_, same⟩
    rw [Request.inquiries, List.map_map]
    exact answered

/-! ## Analyses that are told apart -/

/-- Analyses of scripts that have a fingerprint, where a fingerprint tells the language and a key
tells fingerprint and kind. -/
structure Apart (settings : Settings) (toolbox : Toolbox) (inquiries : List Inquiry) : Prop where
  whole : ∀ a ∈ inquiries, a.script.checkContent = .ok ()
  language : ∀ a ∈ inquiries, ∀ b ∈ inquiries, a.script.fingerprint = b.script.fingerprint →
    a.script.language = b.script.language
  keys : ∀ a ∈ inquiries, ∀ b ∈ inquiries, a.request.useCache → b.request.useCache → ∀ {key},
    HasKey settings toolbox a.script a.kind key → HasKey settings toolbox b.script b.kind key →
      a.script.fingerprint = b.script.fingerprint ∧ a.kind = b.kind

/-- Scripts that share language and fingerprint share their keys. -/
theorem HasKey.congr {settings : Settings} {toolbox : Toolbox} {a b : Script}
    {kind : AnalyzerKind} {key : String} (language : a.language = b.language)
    (fingerprint : a.fingerprint = b.fingerprint) (whole : b.checkContent = .ok ())
    (has : HasKey settings toolbox a kind key) : HasKey settings toolbox b kind key := by
  obtain ⟨-, version, has, named⟩ := has
  refine ⟨whole, version, ?_, ?_⟩
  · rw [HasVersion, toolOf?, language] at has
    exact has
  · rw [keyFor, fingerprint] at named
    exact named

theorem mem_inquiries_iff {requests : List Request} {inquiry : Inquiry} :
    inquiry ∈ requests.flatMap Request.inquiries ↔
      inquiry.request ∈ requests ∧ inquiry.kind ∈ inquiry.request.kinds := by
  obtain ⟨request, kind⟩ := inquiry
  simp only [List.mem_flatMap, Request.inquiries, List.mem_map]
  constructor
  · rintro ⟨request', asked, kind', applies, same⟩
    cases same
    exact ⟨asked, applies⟩
  · rintro ⟨asked, applies⟩
    exact ⟨request, asked, kind, applies, rfl⟩

/-- Without collisions the analyses for requests are told apart. -/
theorem apart_of_noCollision {settings : Settings} {m : Machine} {requests : List Request}
    (noCollision : NoCollision settings m.toolbox requests)
    (whole : ∀ request ∈ requests, request.script.checkContent = .ok ()) :
    Apart settings m.toolbox (requests.flatMap Request.inquiries) where
  whole a ha := whole _ (mem_inquiries_iff.mp ha).1
  language a ha b hb same := by
    obtain ⟨askedA, -⟩ := mem_inquiries_iff.mp ha
    obtain ⟨askedB, -⟩ := mem_inquiries_iff.mp hb
    have contents := noCollision _ _ (.content askedA (whole _ askedA))
      (.content askedB (whole _ askedB)) same
    exact (Script.content_eq_content_iff.mp contents).1
  keys a ha b hb cachedA cachedB key hasA hasB := by
    obtain ⟨askedA, appliesA⟩ := mem_inquiries_iff.mp ha
    obtain ⟨askedB, appliesB⟩ := mem_inquiries_iff.mp hb
    obtain ⟨contents, kinds⟩ :=
      HasKey.inj noCollision askedA askedB cachedA cachedB appliesA appliesB hasA hasB
    refine ⟨?_, kinds⟩
    rw [Script.fingerprint, Script.fingerprint]
    exact congrArg Sha256.hexDigest contents

/-! ## One pair of a fingerprint and a kind -/

/-- Whether a result was skipped depends on its kind and the language alone. -/
def SkippedFor (settings : Settings) (toolbox : Toolbox) (language : Language)
    (r : AnalysisResult) : Prop :=
  r.status = .skipped ↔ lacksTool settings toolbox language r.kind

/-- The session after some analyses, in which those of one pair are as many as they should be. -/
structure IsCounted (settings : Settings) (s : Session) (fingerprint : String)
    (kind : AnalyzerKind) (lacks : Bool) (before : List Inquiry) (now : Session) : Prop where
  holds : HoldsAfter settings s.machine before now
  kept : ∀ a ∈ before, a.request.useCache →
    lacksTool settings s.machine.toolbox a.script.language a.kind = false →
      ∃ key r, HasKey settings s.machine.toolbox a.script a.kind key ∧
        KeptAfter settings s.machine before key r
  times : now.timesAnalyzed fingerprint kind =
    s.timesAnalyzed fingerprint kind + timesDue lacks (asking fingerprint kind before)

section

variable {settings : Settings} {s now next : Session} {first : Machine}
  {all before : List Inquiry} {inquiry : Inquiry} {r : AnalysisResult} {fingerprint : String}
  {kind : AnalyzerKind} {lacks : Bool}

theorem kind_and_skippedFor_of_resultOn {script : Script}
    (comes : resultOn settings first script kind = some r) :
    r.kind = kind ∧ SkippedFor settings first.toolbox script.language r := by
  cases given : outcome settings (view settings first) script kind with
  | error fault =>
      rw [resultOn, given] at comes
      cases comes
  | ok r' =>
      rw [resultOn, given] at comes
      cases comes
      have same := (gives_of_outcome given).kind
      refine ⟨same, ?_⟩
      rw [SkippedFor, same]
      exact skipped_iff_lacksTool given

/-- A result that is kept under the key of an analysis is that of an earlier one of the same pair,
so this one does not lack its tool either. -/
theorem Apart.exists_earlier_of_kept (apart : Apart settings first.toolbox all)
    (among : before ⊆ all) (asked : inquiry ∈ all) (cached : inquiry.request.useCache)
    {key : String} (has : HasKey settings first.toolbox inquiry.script inquiry.kind key)
    (kept : KeptAfter settings first before key r) :
    (∃ a ∈ before, a.request.useCache ∧
      a.script.fingerprint = inquiry.script.fingerprint ∧ a.kind = inquiry.kind) ∧
    r.kind = inquiry.kind ∧ r.status ≠ .skipped ∧
      lacksTool settings first.toolbox inquiry.script.language inquiry.kind = false := by
  obtain ⟨a, ha, leaves⟩ := kept
  obtain ⟨fingerprint, kinds⟩ :=
    apart.keys a (among ha) inquiry asked leaves.cached cached leaves.has has
  have language := apart.language a (among ha) inquiry asked fingerprint
  obtain ⟨same, skipped⟩ := kind_and_skippedFor_of_resultOn leaves.comes
  rw [SkippedFor, same, language, kinds] at skipped
  refine ⟨⟨a, ha, leaves.cached, fingerprint, kinds⟩, same.trans kinds, leaves.made, ?_⟩
  exact Bool.eq_false_iff.mpr fun lacking => leaves.made (skipped.mpr lacking)

/-- Made or recalled, a result is of the kind, and it was skipped exactly if the tool is lacking. -/
theorem IsAnswered.kind_and_skippedFor (h : IsAnswered settings first before inquiry r now next)
    (apart : Apart settings first.toolbox all) (among : before ⊆ all) (asked : inquiry ∈ all) :
    r.kind = inquiry.kind ∧ SkippedFor settings first.toolbox inquiry.script.language r := by
  cases h with
  | recalled cached has kept =>
      obtain ⟨-, same, made, there⟩ := apart.exists_earlier_of_kept among asked cached has kept
      refine ⟨same, ?_⟩
      rw [SkippedFor, same, there]
      exact iff_of_false made Bool.false_ne_true
  | made comes => exact kind_and_skippedFor_of_resultOn comes

/-- What was made or recalled for the cache is kept. -/
theorem IsAnswered.exists_kept (h : IsAnswered settings first before inquiry r now next)
    (cached : inquiry.request.useCache)
    (there : lacksTool settings first.toolbox inquiry.script.language inquiry.kind = false) :
    ∃ key r, HasKey settings first.toolbox inquiry.script inquiry.kind key ∧
      KeptAfter settings first (before ++ [inquiry]) key r := by
  cases h with
  | @recalled key _ has kept => exact ⟨key, r, has, kept.concat inquiry⟩
  | made comes unkept =>
      obtain ⟨key, has, -⟩ := unkept cached
      obtain ⟨same, skipped⟩ := kind_and_skippedFor_of_resultOn comes
      rw [SkippedFor, same, there] at skipped
      exact ⟨key, r, has, inquiry, List.mem_concat_self, cached, has, comes,
        fun is => Bool.false_ne_true (skipped.mp is)⟩

theorem asking_concat_of_concerns (concerns : inquiry.concerns fingerprint kind) :
    asking fingerprint kind (before ++ [inquiry]) =
      asking fingerprint kind before ++ [inquiry.request] := by
  simp [asking, concerns]

theorem asking_concat_of_not_concerns (not : inquiry.concerns fingerprint kind = false) :
    asking fingerprint kind (before ++ [inquiry]) = asking fingerprint kind before := by
  simp [asking, not]

theorem timesAnalyzed_of_begun
    (begun : next.machine.analyses = now.machine.analyses ++ [(inquiry.kind, inquiry.script)]) :
    next.timesAnalyzed fingerprint kind = now.timesAnalyzed fingerprint kind +
      if inquiry.concerns fingerprint kind then 1 else 0 := by
  rw [timesAnalyzed, begun, List.countP_append, List.countP_singleton, Inquiry.concerns,
    Bool.and_comm]
  rfl

theorem mem_asking_iff {request : Request} :
    request ∈ asking fingerprint kind before ↔
      ∃ a ∈ before, a.script.fingerprint = fingerprint ∧ a.kind = kind ∧ a.request = request := by
  simp [asking, Inquiry.concerns, and_assoc]

theorem concerns_iff : inquiry.concerns fingerprint kind ↔
    inquiry.script.fingerprint = fingerprint ∧ inquiry.kind = kind := by
  simp [Inquiry.concerns]

/-- An analysis of the pair is begun exactly when one more of them is due. -/
theorem IsCounted.timesAnalyzed_of_concerns (apart : Apart settings s.machine.toolbox all)
    (among : before ⊆ all) (asked : inquiry ∈ all)
    (h : IsCounted settings s fingerprint kind lacks before now)
    (concerns : inquiry.concerns fingerprint kind)
    (lacking : lacksTool settings s.machine.toolbox inquiry.script.language inquiry.kind = lacks)
    (answered : IsAnswered settings s.machine before inquiry r now next) :
    next.timesAnalyzed fingerprint kind + timesDue lacks (asking fingerprint kind before) =
      now.timesAnalyzed fingerprint kind +
        timesDue lacks (asking fingerprint kind (before ++ [inquiry])) := by
  obtain ⟨rfl, rfl⟩ := concerns_iff.mp concerns
  rw [asking_concat_of_concerns concerns]
  cases answered with
  | recalled cached has kept begun =>
      -- Nothing is begun, and nothing is due: the earlier one stands for this one as well.
      obtain ⟨⟨a, ha, cachedA, sameA⟩, -, -, there⟩ :=
        apart.exists_earlier_of_kept among asked cached has kept
      have earlier : a.request ∈ asking inquiry.script.fingerprint inquiry.kind before :=
        mem_asking_iff.mpr ⟨a, ha, sameA.1, sameA.2, rfl⟩
      rw [← lacking, there, timesDue_concat_of_recalled cached ⟨a.request, earlier, cachedA⟩,
        timesAnalyzed, begun]
      rfl
  | made comes unkept begun =>
      -- An earlier one for the cache would have left its result under the same key.
      have new (there : lacks = false) (cached : inquiry.request.useCache) (other : Request)
          (earlier : other ∈ asking inquiry.script.fingerprint inquiry.kind before) :
          ¬ other.useCache := by
        intro cachedA
        obtain ⟨a, ha, fingerprint, kinds, rfl⟩ := mem_asking_iff.mp earlier
        have language := apart.language a (among ha) inquiry asked fingerprint
        have lackingA : lacksTool settings s.machine.toolbox a.script.language a.kind = false := by
          rw [language, kinds, lacking, there]
        obtain ⟨key, r', has, kept⟩ := h.kept a ha cachedA lackingA
        obtain ⟨key', has', nothing⟩ := unkept cached
        rw [kinds] at has
        have same := (has.congr language fingerprint (apart.whole inquiry asked)).unique has'
        exact nothing r' (same ▸ kept)
      rw [timesDue_concat_of_made new, timesAnalyzed_of_begun begun, if_pos concerns]
      omega

/-- The analyses of other pairs are not counted. -/
theorem timesAnalyzed_of_not_concerns (not : inquiry.concerns fingerprint kind = false)
    (answered : IsAnswered settings first before inquiry r now next) :
    next.timesAnalyzed fingerprint kind = now.timesAnalyzed fingerprint kind := by
  cases answered with
  | recalled _ _ _ begun => rw [timesAnalyzed, begun, timesAnalyzed]
  | made _ _ begun =>
      rw [timesAnalyzed_of_begun begun, not]
      rfl

/-- One more analysis, and the count is right again. -/
theorem IsCounted.concat (empty : s.StartsEmpty settings)
    (apart : Apart settings s.machine.toolbox all) (among : before ⊆ all) (asked : inquiry ∈ all)
    (lacking : inquiry.concerns fingerprint kind →
      lacksTool settings s.machine.toolbox inquiry.script.language inquiry.kind = lacks)
    (h : IsCounted settings s fingerprint kind lacks before now)
    (ran : inquiry.work.run now = (.ok r, next)) :
    IsCounted settings s fingerprint kind lacks (before ++ [inquiry]) next ∧
      r.kind = inquiry.kind ∧
        SkippedFor settings s.machine.toolbox inquiry.script.language r := by
  obtain ⟨answered, holds⟩ := isAnswered_of_work empty h.holds ran
  refine ⟨⟨holds, fun a ha cached there => ?_, ?_⟩,
    answered.kind_and_skippedFor apart among asked⟩
  · rcases List.mem_append.mp ha with earlier | last
    · obtain ⟨key, r', has, kept⟩ := h.kept a earlier cached there
      exact ⟨key, r', has, kept.concat inquiry⟩
    · obtain rfl := List.mem_singleton.mp last
      exact answered.exists_kept cached there
  · have times := h.times
    cases concerns : inquiry.concerns fingerprint kind with
    | false =>
        rw [timesAnalyzed_of_not_concerns concerns answered, times,
          asking_concat_of_not_concerns concerns]
    | true =>
        have counted := h.timesAnalyzed_of_concerns apart among asked concerns (lacking concerns)
          answered
        omega

end

/-! ## Whole requests -/

section

variable {settings : Settings} {s now next : Session} {all before : List Inquiry}
  {fingerprint : String} {kind : AnalyzerKind} {lacks : Bool}

/-- After the analyses for a request the count is right, and there is a result of every kind. -/
theorem IsCounted.request (empty : s.StartsEmpty settings)
    (apart : Apart settings s.machine.toolbox all)
    (lacking : ∀ a ∈ all, a.concerns fingerprint kind →
      lacksTool settings s.machine.toolbox a.script.language a.kind = lacks)
    {request : Request} {kinds : List AnalyzerKind}
    (among : before ++ kinds.map (Inquiry.mk request) ⊆ all)
    (h : IsCounted settings s fingerprint kind lacks before now) {results : List AnalysisResult}
    (ran : (((kinds.map (Inquiry.mk request)).map Inquiry.work).mapM id).run now =
      (.ok results, next)) :
    IsCounted settings s fingerprint kind lacks (before ++ kinds.map (Inquiry.mk request)) next ∧
      results.map (·.kind) = kinds ∧
        ∀ r ∈ results, SkippedFor settings s.machine.toolbox request.script.language r := by
  induction kinds generalizing before now results with
  | nil =>
      cases ran
      rw [List.map_nil, List.append_nil]
      exact ⟨h, rfl, nofun⟩
  | cons first kinds ih =>
      rw [List.map_cons, List.map_cons, List.mapM_cons] at ran
      obtain ⟨r, middle, made, ran⟩ := run_bind_eq_ok.mp ran
      obtain ⟨others, _, rest, ran⟩ := run_bind_eq_ok.mp ran
      cases ran
      rw [List.map_cons, List.append_cons] at among ⊢
      have earlier := List.append_subset.mp (List.append_subset.mp among).1
      have asked : ⟨request, first⟩ ∈ all := earlier.2 List.mem_cons_self
      obtain ⟨counted, same, skipped⟩ :=
        h.concat empty apart earlier.1 asked (lacking _ asked) made
      obtain ⟨counted, kinds, all⟩ := ih among counted rest
      refine ⟨counted, ?_, List.forall_mem_cons.mpr ⟨skipped, all⟩⟩
      rw [List.map_cons, same, kinds]

/-- In a report there is a result of every kind that was asked for. -/
theorem exists_resultFor {script : Script} {results : List AnalysisResult}
    {good : AnalysisResult → Prop} (applies : kind ∈ results.map (·.kind))
    (all : ∀ r ∈ results, good r) :
    ∃ r, (Report.aggregate script results).resultFor kind = some r ∧ r.kind = kind ∧ good r := by
  have members := Report.inOrder_perm results
  obtain ⟨r, hr, same⟩ := List.mem_map.mp applies
  cases found : (Report.aggregate script results).resultFor kind with
  | none =>
      have nothing := List.find?_eq_none.mp found r (members.mem_iff.mpr hr)
      exact absurd (beq_iff_eq.mpr same) nothing
  | some r' =>
      have listed := List.mem_of_find?_eq_some found
      have same := List.find?_some found
      exact ⟨r', rfl, beq_iff_eq.mp same, all r' (members.mem_iff.mp listed)⟩

/-- After requests that were all answered the count is right, and the reports have a result of every
kind that was asked for. -/
theorem IsCounted.afterAll (empty : s.StartsEmpty settings)
    (apart : Apart settings s.machine.toolbox all)
    (lacking : ∀ a ∈ all, a.concerns fingerprint kind →
      lacksTool settings s.machine.toolbox a.script.language a.kind = lacks)
    {requests : List Request} (among : before ++ requests.flatMap Request.inquiries ⊆ all)
    (h : IsCounted settings s fingerprint kind lacks before now)
    (answered : ∀ answer ∈ answers requests now, answer ≠ none) :
    IsCounted settings s fingerprint kind lacks (before ++ requests.flatMap Request.inquiries)
        (afterAll requests now) ∧
      ∀ request found, (request, some found) ∈ requests.zip (answers requests now) →
        ∀ kind ∈ request.kinds, ∃ r, found.resultFor kind = some r ∧ r.kind = kind ∧
          SkippedFor settings s.machine.toolbox request.script.language r := by
  induction requests generalizing before now with
  | nil =>
      rw [List.flatMap_nil, List.append_nil]
      exact ⟨h, nofun⟩
  | cons request requests ih =>
      rw [answers, List.forall_mem_cons] at answered
      obtain ⟨found, given⟩ := Option.ne_none_iff_exists'.mp answered.1
      obtain ⟨-, results, ran, rfl⟩ := stages_of_answer given
      rw [List.flatMap_cons, ← List.append_assoc] at among ⊢
      obtain ⟨counted, kinds, facts⟩ :=
        h.request empty apart lacking (List.append_subset.mp among).1 ran
      obtain ⟨counted, others⟩ := ih among counted answered.2
      refine ⟨counted, fun other found' paired kind applies => ?_⟩
      rw [answers, List.zip_cons_cons, given] at paired
      rcases List.mem_cons.mp paired with first | later
      · cases first
        exact exists_resultFor (kinds ▸ applies) facts
      · exact others other found' later kind applies

/-! ## All requests -/

theorem asksFor_iff {request : Request} : request.asksFor fingerprint kind ↔
    request.script.fingerprint = fingerprint ∧ kind ∈ request.kinds := by
  simp [Request.asksFor]

/-- A request asks for each kind once. -/
theorem asking_inquiries (request : Request) :
    asking fingerprint kind request.inquiries =
      if request.asksFor fingerprint kind then [request] else [] := by
  have once : request.kinds.filter (· == kind) = if kind ∈ request.kinds then [kind] else [] := by
    rw [Request.kinds, List.filter_beq, (Selection.nodup_kindsFor _ _).count]
    split <;> rfl
  rw [asking, Request.inquiries, List.filter_map, List.map_map, Request.asksFor]
  cases same : request.script.fingerprint == fingerprint with
  | false =>
      have nothing : (·.concerns fingerprint kind) ∘ Inquiry.mk request = fun _ => false := by
        funext other
        simp only [Function.comp_apply, Inquiry.concerns, Inquiry.script, same, Bool.false_and]
      rw [nothing, List.filter_false]
      rfl
  | true =>
      have kinds : (·.concerns fingerprint kind) ∘ Inquiry.mk request = (· == kind) := by
        funext other
        simp only [Function.comp_apply, Inquiry.concerns, Inquiry.script, same, Bool.true_and]
      rw [kinds, once]
      by_cases applies : kind ∈ request.kinds <;> simp [applies]

theorem asking_flatMap (requests : List Request) :
    asking fingerprint kind (requests.flatMap Request.inquiries) =
      requests.filter (·.asksFor fingerprint kind) := by
  induction requests with
  | nil => rfl
  | cons request requests ih =>
      rw [List.flatMap_cons, asking, List.filter_append, List.map_append, ← asking, ← asking, ih,
        asking_inquiries, List.filter_cons]
      split <;> rfl

theorem exists_answer_of_mem {requests : List Request} {request : Request}
    (answered : ∀ answer ∈ answers requests now, answer ≠ none) (asked : request ∈ requests) :
    ∃ middle found, request.answer middle = some found := by
  induction requests generalizing now with
  | nil => cases asked
  | cons first requests ih =>
      rw [answers, List.forall_mem_cons] at answered
      rcases List.mem_cons.mp asked with rfl | later
      · exact ⟨now, Option.ne_none_iff_exists'.mp answered.1⟩
      · exact ih answered.2 later

/-- A new session has nothing to count. -/
theorem StartsEmpty.isCounted (empty : s.StartsEmpty settings) :
    IsCounted settings s fingerprint kind lacks [] s where
  holds := by
    refine Holds.relax (empty.holds (KeptAfter settings s.machine [])) id ?_
    rintro key ⟨r, a, ha, -⟩
    cases ha
  kept := nofun
  times := by cases lacks <;> rfl

theorem apart_of_answers {requests : List Request}
    (noCollision : NoCollision settings s.machine.toolbox requests)
    (answered : ∀ answer ∈ answers requests now, answer ≠ none) :
    Apart settings s.machine.toolbox (requests.flatMap Request.inquiries) := by
  refine apart_of_noCollision noCollision fun request asked => ?_
  obtain ⟨middle, found, given⟩ := exists_answer_of_mem answered asked
  exact (stages_of_answer given).1

/-- Requests that ask for the same pair have or lack the tool alike. -/
theorem Apart.lacksTool_eq {requests : List Request} {toolbox : Toolbox}
    (apart : Apart settings toolbox (requests.flatMap Request.inquiries)) {a b : Request}
    (askedA : a ∈ requests) (askedB : b ∈ requests) (asksA : a.asksFor fingerprint kind)
    (asksB : b.asksFor fingerprint kind) :
    lacksTool settings toolbox a.script.language kind =
      lacksTool settings toolbox b.script.language kind := by
  obtain ⟨fingerprintA, appliesA⟩ := asksFor_iff.mp asksA
  obtain ⟨fingerprintB, appliesB⟩ := asksFor_iff.mp asksB
  have same : a.script.language = b.script.language :=
    apart.language ⟨a, kind⟩ (mem_inquiries_iff.mpr ⟨askedA, appliesA⟩) ⟨b, kind⟩
      (mem_inquiries_iff.mpr ⟨askedB, appliesB⟩) (fingerprintA.trans fingerprintB.symm)
  rw [same]

/-- After requests that were all answered there were as many analyses of a pair as are due. -/
theorem StartsEmpty.timesAnalyzed_afterAll (empty : s.StartsEmpty settings)
    {requests : List Request} (noCollision : NoCollision settings s.machine.toolbox requests)
    (answered : ∀ answer ∈ answers requests s, answer ≠ none)
    (lacking : ∀ request ∈ requests, request.asksFor fingerprint kind →
      lacksTool settings s.machine.toolbox request.script.language kind = lacks) :
    (afterAll requests s).timesAnalyzed fingerprint kind = s.timesAnalyzed fingerprint kind +
        timesDue lacks (requests.filter (·.asksFor fingerprint kind)) ∧
      ∀ request found, (request, some found) ∈ requests.zip (answers requests s) →
        request.asksFor fingerprint kind → ∃ r, found.resultFor kind = some r ∧
          (r.status = .skipped ↔ lacks) := by
  have apart := apart_of_answers noCollision answered
  have lacking' (a : Inquiry) (ha : a ∈ requests.flatMap Request.inquiries)
      (concerns : a.concerns fingerprint kind) :
      lacksTool settings s.machine.toolbox a.script.language a.kind = lacks := by
    obtain ⟨asked, applies⟩ := mem_inquiries_iff.mp ha
    obtain ⟨fingerprint, rfl⟩ := concerns_iff.mp concerns
    exact lacking a.request asked (asksFor_iff.mpr ⟨fingerprint, applies⟩)
  obtain ⟨counted, reports⟩ := empty.isCounted.afterAll empty apart lacking'
    (List.Subset.refl (requests.flatMap Request.inquiries)) answered
  refine ⟨by rw [counted.times, List.nil_append, asking_flatMap], ?_⟩
  intro request found paired asks
  obtain ⟨r, given, same, skipped⟩ := reports request found paired kind (asksFor_iff.mp asks).2
  refine ⟨r, given, skipped.trans ?_⟩
  rw [same, lacking request (List.of_mem_zip paired).1 asks]

end

/-- Requests to a session with an empty cache, all of which are answered, have the analysis of a
fingerprint and a kind made once for all that may be answered from the cache and once for each that
may not, unless it is skipped: then it is made for every request that asks for it. -/
theorem timesAnalyzed_exact {settings : Settings} {s : Session} (empty : s.StartsEmpty settings)
    (requests : List Request) (noCollision : NoCollision settings s.machine.toolbox requests)
    (answered : ∀ answer ∈ answers requests s, answer ≠ none) (fingerprint : String)
    (kind : AnalyzerKind) :
    let asked := requests.filter (·.asksFor fingerprint kind)
    let times := (afterAll requests s).timesAnalyzed fingerprint kind
    (asked = [] → times = s.timesAnalyzed fingerprint kind) ∧
    ∀ request found, (request, some found) ∈ requests.zip (answers requests s) →
      request.asksFor fingerprint kind → ∃ r, found.resultFor kind = some r ∧
        (r.status ≠ .skipped → times = s.timesAnalyzed fingerprint kind +
          asked.countP (!·.useCache) + if asked.any (·.useCache) then 1 else 0) ∧
        (r.status = .skipped → times = s.timesAnalyzed fingerprint kind + asked.length) := by
  intro asked times
  constructor
  · intro nothing
    have lacking (request : Request) (asked : request ∈ requests)
        (asks : request.asksFor fingerprint kind) :
        lacksTool settings s.machine.toolbox request.script.language kind = false :=
      absurd asks (List.filter_eq_nil_iff.mp nothing request asked)
    have counted := (empty.timesAnalyzed_afterAll noCollision answered lacking).1
    exact counted.trans (congrArg (_ + timesDue false ·) nothing)
  · intro request found paired asks
    have asked' : request ∈ requests := (List.of_mem_zip paired).1
    have apart := apart_of_answers noCollision answered
    obtain ⟨counted, reports⟩ := empty.timesAnalyzed_afterAll noCollision answered
      fun other asked asks' => apart.lacksTool_eq asked asked' asks' asks
    obtain ⟨r, given, skipped⟩ := reports request found paired asks
    refine ⟨r, given, fun made => ?_, fun is => ?_⟩
    · rw [Bool.eq_false_iff.mpr fun lacks => made (skipped.mpr lacks)] at counted
      rw [Nat.add_assoc]
      exact counted
    · rw [skipped.mp is] at counted
      exact counted

/-- Two scripts that differ in their names alone are analyzed once. -/
theorem timesAnalyzed_eq_one_of_two_names :
    let settings : Settings := { Settings.atRoot with persistCache := true }
    let toolbox : Toolbox := ⟨fun name => some ("/bin/" ++ name), fun _ => .finished [] [] 0⟩
    let s : Session :=
      ⟨settings, builtinAnalyzers settings, some ⟨some ⟨1, ["cache"]⟩, []⟩,
        { toolbox, disk := ⟨[], [(["cache"], .folder)]⟩, temporaryMark := "0" }⟩
    let first : Request := ⟨⟨"s", .python3, none, "pass\n", [], true⟩, .default .python3, true⟩
    let second : Request := { first with script := { first.script with name := "t" } }
    s.StartsEmpty settings ∧ NoCollision settings toolbox [first, second] ∧
      (∀ answer ∈ answers [first, second] s, answer ≠ none) ∧
      (afterAll [first, second] s).timesAnalyzed first.script.fingerprint .parses = 1 := by
  intro settings toolbox s first second
  have empty : s.StartsEmpty settings := startsEmpty_atRoot toolbox
  have kinds : first.kinds = [.parses] := by decide
  have noCollision : NoCollision settings toolbox [first, second] := by
    refine noCollision_of_one first.script.content
      (keyInput first.script.fingerprint .parses "syntax/1+python3:unknown")
      (fun other asked => ?_) (fun other asked kind applies version has _ => ?_)
      (by decide +kernel)
    · rcases List.mem_pair.mp asked with rfl | rfl <;> rfl
    · rcases List.mem_pair.mp asked with rfl | rfl
      all_goals
        obtain rfl := List.mem_singleton.mp (kinds ▸ applies)
        obtain ⟨v, tells, rfl⟩ := has
        cases tells
        rfl
  have told : (answers [first, second] s).all fun answer =>
      (answer.bind (·.resultFor .parses)).any (·.status == .pass) := by decide +kernel
  have passed := List.all_eq_true.mp told
  have answered : ∀ answer ∈ answers [first, second] s, answer ≠ none := by
    rintro _ listed rfl
    exact Bool.false_ne_true (passed none listed)
  have asks : first.asksFor first.script.fingerprint .parses ∧
      second.asksFor first.script.fingerprint .parses :=
    ⟨asksFor_iff.mpr ⟨rfl, by decide⟩, asksFor_iff.mpr ⟨rfl, by decide⟩⟩
  refine ⟨empty, noCollision, answered, ?_⟩
  obtain ⟨found, given⟩ := Option.ne_none_iff_exists'.mp (answered _ List.mem_cons_self)
  have counted := timesAnalyzed_exact empty [first, second] noCollision answered
    first.script.fingerprint .parses
  have paired : (first, some found) ∈ [first, second].zip (answers [first, second] s) := by
    rw [← given]
    exact List.mem_cons_self
  obtain ⟨r, shown, made, -⟩ := counted.2 first found paired asks.1
  have status := passed _ List.mem_cons_self
  rw [given, Option.bind_some, shown, Option.any_some, beq_iff_eq] at status
  rw [made (by rw [status]; exact nofun)]
  simp only [List.filter_cons, asks]
  rfl

end ScriptVet.Session
