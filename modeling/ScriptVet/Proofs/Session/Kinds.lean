import ScriptVet.Proofs.Session.Requests

/-!
# Every kind reports once

A report lists one result for every kind that is selected and applies to the script, in the order of
kinds. The parse check is the first of them if the selection was made from flags; one that was taken
from a value without flags selects nothing. Results that are found in a cache need not be of the
kind that is looked for: a key only tells a digest. But in a cache that was filled by earlier runs
there is under every key a result of a kind that the key was made for, so it is the right one unless
keys for two kinds have the same digest.
-/

namespace ScriptVet

namespace Selection

section

variable (selection : Selection) (language : Language)

theorem mem_kindsFor {kind : AnalyzerKind} :
    kind ∈ selection.kindsFor language ↔ selection.isEnabled kind ∧ kind.appliesTo language := by
  rw [kindsFor, List.mem_filter, Bool.and_eq_true]
  exact and_iff_right (AnalyzerKind.mem_all kind)

/-- The parse check applies to every script. -/
theorem parses_mem_kindsFor (on : selection.isEnabled .parses) :
    .parses ∈ selection.kindsFor language :=
  (selection.mem_kindsFor language).mpr ⟨on, rfl⟩

/-- The parse check comes first exactly if it is switched on. -/
theorem head?_kindsFor_eq_parses_iff :
    (selection.kindsFor language).head? = some .parses ↔ selection.isEnabled .parses := by
  constructor
  · intro first
    exact ((selection.mem_kindsFor language).mp (List.mem_of_mem_head? first)).1
  · intro on
    rw [kindsFor, AnalyzerKind.all, List.filter_cons_of_pos]
    · rfl
    · rw [on]
      rfl

theorem nodup_kindsFor : (selection.kindsFor language).Nodup :=
  (pairwise_rank_kindsFor selection language).imp fun {a b} below => by
    rintro rfl
    exact Nat.lt_irrefl _ below

end

/-- What a selection is made from. -/
inductive Origin where
  /-- The kinds that are asked for and those that are switched off, for a language. -/
  | wish (language : Language) (requested? : Option (List AnalyzerKind))
    (disabled : List AnalyzerKind)
  /-- A value that is taken as it is. -/
  | value (v : Json)

namespace Origin

/-- The selection that is made, unless a value is refused. -/
def selection : Origin → Checked Selection
  | .wish language requested? disabled => .ok (forLanguage language requested? disabled)
  | .value v => ofJson v

variable {origin : Origin} {selection : Selection}

end Origin

end Selection

namespace Report

end Report

namespace Session

open Analyzer ResultCache Disk

/-- A request, and the session that it was made in. -/
abbrev Event : Type := Session × Request

/-- A tool tells the version in the session, or it was noted there that it has told it. -/
def HasTold (s : Session) (tool version : String) : Prop :=
  Tells s.settings s.machine.toolbox tool version ∨
    ∃ kind, s.machine.versions.lookup (kind, tool) = some version

/-- What is digested for the keys of the analyses that were asked for. -/
inductive DigestsFor (events : List Event) : List UInt8 → Prop where
  | key {s request kind version} (asked : (s, request) ∈ events) (cached : request.useCache)
    (applies : kind ∈ request.kinds)
    (has : HasVersion s.settings s.HasTold request.script kind version) :
    DigestsFor events (keyInput request.script.fingerprint kind version)

/-- No two keys have the same digest. -/
def KeysApart (events : List Event) : Prop :=
  ∀ a b, DigestsFor events a → DigestsFor events b →
    Sha256.hexDigest a = Sha256.hexDigest b → a = b

/-- No key that the request looks under has the digest of one that was made for another kind. -/
def KindsApart (events : List Event) (s : Session) (request : Request) : Prop :=
  ∀ {s' request' kind' version' kind version}, (s', request') ∈ events → request'.useCache →
    kind' ∈ request'.kinds → HasVersion s'.settings s'.HasTold request'.script kind' version' →
    kind ∈ request.kinds → HasVersion s.settings s.HasTold request.script kind version →
    ResultCache.key request'.script.fingerprint kind' version' =
      ResultCache.key request.script.fingerprint kind version → kind' = kind

/-- The result is what an analysis for one of the requests came to that was not skipped, and the key
was made for it. -/
inductive SuitsKey (events : List Event) : String → AnalysisResult → Prop where
  | made {s request kind version m r} (asked : (s, request) ∈ events) (cached : request.useCache)
    (applies : kind ∈ request.kinds)
    (has : HasVersion s.settings s.HasTold request.script kind version)
    (toolbox : m.toolbox = s.machine.toolbox)
    (comes : outcome s.settings (view s.settings m) request.script kind = .ok r)
    (made : r.status ≠ .skipped) :
    SuitsKey events (ResultCache.key request.script.fingerprint kind version) r

/-- The result is found in the file for the key. -/
def KeptUnder (s : Session) (key : String) (r : AnalysisResult) : Prop :=
  ∃ cache ∈ s.cache, ∃ folder ∈ cache.folder, IsKey key ∧
    readEntry s.machine.disk (fileFor folder key) = .ok (some r)

/-- Sessions with the built-in analyzers in whose caches only the requests have put results. Between
them the machine may change, tools and files alike, and a later session finds under each key in its
files what an earlier one has left there, or nothing. -/
inductive ReachedBy : List Event → Session → Prop where
  | first {settings m s} (started : start settings (builtinAnalyzers settings) m = .ok s)
    (empty : ∀ key r, ¬ s.KeptUnder key r) : ReachedBy [] s
  | answered {events s} (h : ReachedBy events s) (request : Request) :
    ReachedBy (events ++ [(s, request)]) (request.after s)
  | meanwhile {events s} (h : ReachedBy events s) (m : Machine)
    (folder : ∀ cache ∈ s.cache, ∀ p ∈ cache.folder, m.disk.LeadsToFolder p)
    (kept : ∀ key r, KeptUnder { s with machine := m } key r → s.KeptUnder key r) :
    ReachedBy events { s with machine := m }
  | next {events s settings m s'} (h : ReachedBy events s)
    (started : start settings (builtinAnalyzers settings) m = .ok s')
    (kept : ∀ key r, s'.KeptUnder key r → s.KeptUnder key r) : ReachedBy events s'

section

variable {events : List Event} {settings : Settings} {s : Session} {request : Request}

theorem SuitsKey.mono {more : List Event} (subset : events ⊆ more) {key : String}
    {r : AnalysisResult} (h : SuitsKey events key r) : SuitsKey more key r := by
  obtain ⟨asked, cached, applies, has, toolbox, comes, made⟩ := h
  exact .made (subset asked) cached applies has toolbox comes made

theorem SuitsKey.not_skipped {key : String} {r : AnalysisResult} (h : SuitsKey events key r) :
    r.status ≠ .skipped := by
  obtain ⟨-, -, -, -, -, -, made⟩ := h
  exact made

/-- With keys apart a key tells the fingerprint, the kind and the version that it was made for. -/
theorem KeysApart.inj (apart : KeysApart events) {s' : Session} {request' : Request}
    (asked : (s, request) ∈ events) (asked' : (s', request') ∈ events) (cached : request.useCache)
    (cached' : request'.useCache) {kind kind' : AnalyzerKind} (applies : kind ∈ request.kinds)
    (applies' : kind' ∈ request'.kinds) {version version' : String}
    (has : HasVersion s.settings s.HasTold request.script kind version)
    (has' : HasVersion s'.settings s'.HasTold request'.script kind' version')
    (same : ResultCache.key request.script.fingerprint kind version =
      ResultCache.key request'.script.fingerprint kind' version') :
    request.script.fingerprint = request'.script.fingerprint ∧ kind = kind' ∧
      version = version' := by
  rw [key_eq, key_eq] at same
  have inputs :=
    apart _ _ (.key asked cached applies has) (.key asked' cached' applies' has') same
  exact keyInput_inj (Sha256.zero_notMem_hexDigest _) (Sha256.zero_notMem_hexDigest _) inputs

/-- With kinds apart a result is of the kind that is looked for. -/
theorem SuitsKey.kind_eq (apart : KindsApart events s request)
    {kind : AnalyzerKind} (applies : kind ∈ request.kinds) {version key : String}
    (has : HasVersion s.settings s.HasTold request.script kind version)
    (named : keyFor request.script (builtin s.settings kind) version = .ok key)
    {r : AnalysisResult} (h : SuitsKey events key r) : r.kind = kind := by
  have key_eq := keyFor_eq_ok named
  rw [kind_builtin] at key_eq
  obtain ⟨asked', cached', applies', has', -, comes, -⟩ := h
  rw [(gives_of_outcome comes).kind]
  exact apart asked' cached' applies' has' applies has key_eq

/-- What holds of the machine while requests are answered: the tools are those of the session,
versions are those that were told at first, and results in files suit their keys. -/
structure Suits (events : List Event) (s : Session) (m : Machine) : Prop where
  toolbox : m.toolbox = s.machine.toolbox
  noted : ∀ {kind tool version}, m.versions.lookup (kind, tool) = some version →
    s.HasTold tool version
  files : HoldsRight s.settings (SuitsKey events) m.disk

theorem regime_suits (events : List Event) (s : Session) :
    Regime s.settings s.HasTold (Suits events s) (Remembers (SuitsKey events) fun _ => False)
      (SuitsKey events) where
  kept h := h.right
  remembered h := h.put
  versions :=
    { lasting :=
        { called := fun h _ => ⟨h.toolbox, h.noted, h.files⟩
          noted := fun h _ => ⟨h.toolbox, h.noted, h.files⟩
          begun := fun h _ => ⟨h.toolbox, h.noted, h.files⟩
          made := fun h _ made => ⟨h.toolbox, h.noted, h.files.made made⟩ }
      asked := fun h tells => .inl (h.toolbox ▸ tells)
      noted := fun h noted => h.noted noted
      notes := fun h told kind => ⟨h.toolbox, Work.told_of_noted h.noted told kind, h.files⟩ }
  found h folder given _ _ isKey found := (h.files folder given).2 _ isKey _ found

/-- The results of a request suit the keys that they are kept under. -/
theorem admits_suits (asked : (s, request) ∈ events) (cached : request.useCache)
    {kind : AnalyzerKind} (applies : kind ∈ request.kinds) :
    Admits s.settings s.HasTold (Suits events s) (SuitsKey events) request.script kind := by
  have suits {version key : String} {r : AnalysisResult}
      (has : HasVersion s.settings s.HasTold request.script kind version)
      (named : keyFor request.script (builtin s.settings kind) version = .ok key)
      (fresh : IsFresh s.settings (Suits events s) request.script kind r)
      (made : r.status ≠ .skipped) : IsKey key ∧ r.IsPortable ∧ SuitsKey events key r := by
    obtain ⟨m, h, comes⟩ := fresh
    have key_eq := keyFor_eq_ok named
    rw [kind_builtin] at key_eq
    rw [key_eq]
    exact ⟨isKey_key _ _ _, (gives_of_outcome comes).portable,
      .made asked cached applies has h.toolbox comes made⟩
  refine ⟨fun _ has named fresh made => (suits has named fresh made).2.2, ?_⟩
  intro version key r m folder disk _ has named fresh made h given written
  obtain ⟨isKey, portable, suitsKey⟩ := suits has named fresh made
  exact ⟨h.toolbox, h.noted, h.files.written given isKey suitsKey portable written⟩

/-- What holds of a session whose cache was filled by the requests. -/
def FilledBy (events : List Event) (s : Session) : Prop :=
  s.Holds s.settings (fun m => HoldsRight s.settings (SuitsKey events) m.disk)
    (Remembers (SuitsKey events) fun _ => False)

theorem FilledBy.holds (h : FilledBy events s) {more : List Event} (subset : events ⊆ more) :
    s.Holds s.settings (Suits more s) (Remembers (SuitsKey more) fun _ => False) where
  under := rfl
  analyzers := h.analyzers
  machine := by
    refine ⟨rfl, fun {kind _ _} noted => .inr ⟨kind, noted⟩, fun folder given => ?_⟩
    obtain ⟨leads, suits⟩ := h.machine folder given
    exact ⟨leads, fun key isKey r found => (suits key isKey r found).mono subset⟩
  caching := h.caching
  folder := h.folder
  memory cache hc := ⟨fun found => ((h.memory cache hc).right found).mono subset, False.elim⟩

theorem FilledBy.suits_of_keptUnder (h : FilledBy events s) {key : String} {r : AnalysisResult}
    (kept : s.KeptUnder key r) : SuitsKey events key r := by
  obtain ⟨cache, hc, folder, hf, isKey, found⟩ := kept
  have given : folder ∈ keptIn s.settings := by
    rw [← h.folder cache hc]
    exact hf
  exact (h.machine folder given).2 key isKey r found

/-- What holds of a session after a request. -/
theorem FilledBy.holds_after (h : FilledBy events s) (request : Request) :
    (request.after s).Holds s.settings (Suits (events ++ [(s, request)]) s)
      (Remembers (SuitsKey (events ++ [(s, request)])) fun _ => False) := by
  have asked : (s, request) ∈ events ++ [(s, request)] :=
    List.mem_append_right _ (List.mem_singleton_self _)
  exact holds_run (regime_suits _ s)
    (fun cached kind applies => admits_suits asked cached applies)
    (h.holds (List.subset_append_left events [(s, request)]))

/-- A request fills the cache as it should. -/
theorem FilledBy.answered (h : FilledBy events s) (request : Request) :
    FilledBy (events ++ [(s, request)]) (request.after s) := by
  have holds := h.holds_after request
  rw [FilledBy, holds.under]
  exact ⟨holds.under, holds.analyzers, holds.machine.files, holds.caching, holds.folder,
    holds.memory⟩

/-- What is known of a session that can be reached. -/
theorem filledBy_of_reachedBy (h : ReachedBy events s) : FilledBy events s := by
  have fresh {events : List Event} {settings : Settings} {m : Machine} {s : Session}
      (started : start settings (builtinAnalyzers settings) m = .ok s)
      (suits : ∀ key r, s.KeptUnder key r → SuitsKey events key r) : FilledBy events s := by
    have under : s.settings = settings := by
      obtain ⟨disk, rfl, -⟩ := start_eq_ok started
      rfl
    rw [FilledBy, under]
    refine holds_of_start started (fun folder given => ?_) (remembers_nil _)
    refine ⟨leadsToFolder_of_start started given, fun key isKey r found => suits key r ?_⟩
    obtain ⟨cache, hc, hf⟩ := cache_of_start started given
    exact ⟨cache, hc, folder, hf, isKey, found⟩
  induction h with
  | first started empty => exact fresh started fun key r kept => absurd kept (empty key r)
  | answered h request ih => exact ih.answered request
  | @meanwhile events s h m leads kept ih =>
      refine ⟨rfl, ih.analyzers, fun folder given => ?_, ih.caching, ih.folder, ih.memory⟩
      obtain ⟨cache, hc, hf⟩ := ih.cache_of_keptIn given
      refine ⟨leads cache hc folder hf, fun key isKey r found => ?_⟩
      exact ih.suits_of_keptUnder (kept key r ⟨cache, hc, folder, hf, isKey, found⟩)
  | next h started kept ih =>
      exact fresh started fun key r found => ih.suits_of_keptUnder (kept key r found)

end

end Session

end ScriptVet
