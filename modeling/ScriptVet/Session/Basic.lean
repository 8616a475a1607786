import ScriptVet.Analyzer.Builtin
import ScriptVet.Report
import ScriptVet.ResultCache
import ScriptVet.Session.Turns

/-!
# Sessions

A session holds what one run of the program works with: the settings, the analyzers, the cache and
the machine. It analyzes a script with every analyzer that is selected and reports the results.

The analyses of a script are independent of each other and are made side by side. Analyses with keys
of their own that all give results in order give the same results when they take turns, however many
have their turns at once, so then they are described one after another, and what they leave behind
is recorded in that order. When one ends in a fault the turns decide which fault it is and how far
the others came.
-/

namespace ScriptVet

structure Session where
  settings : Settings
  analyzers : List Analyzer
  cache : Option ResultCache
  machine : Machine

/-- Work in a session that gives a value or ends in a fault. -/
abbrev SessionWork (α : Type) := Activity Session α

namespace Session

/-- The built-in analyzers, one for every kind. -/
def builtinAnalyzers (settings : Settings) : List Analyzer :=
  AnalyzerKind.all.map (Analyzer.builtin settings)

/-- Where the settings want results to be kept in files. -/
def cacheFolder (settings : Settings) : Option Path :=
  if settings.persistCache then some settings.cacheDir else none

/-- A new session with the cache that the settings ask for. -/
def start (settings : Settings) (analyzers : List Analyzer) (machine : Machine) :
    Result Session :=
  if settings.cacheResults then
    match ResultCache.start (cacheFolder settings) machine.disk with
    | .error e => .error (.disk e)
    | .ok (cache, disk) => .ok ⟨settings, analyzers, some cache, { machine with disk }⟩
  else .ok ⟨settings, analyzers, none, machine⟩

/-- Does work in a new session with the built-in analyzers. -/
def within {α : Type} (settings : Settings) (work : SessionWork α) : Work α := do
  match start settings (builtinAnalyzers settings) (← get) with
  | .error fault => throw fault
  | .ok session => do
    let (result, session) := work.run session
    set session.machine
    result

/-- Does work on the machine of the session. -/
def onMachine {α : Type} (work : Work α) : SessionWork α :=
  Activity.inPart Session.machine (fun machine s => { s with machine }) work

/-- The analyzer of a kind. -/
def analyzerOf (kind : AnalyzerKind) : SessionWork Analyzer := do
  match (← get).analyzers.find? (·.kind == kind) with
  | some analyzer => pure analyzer
  | none => throw (.missingAnalyzer kind.word)

/-- Looks a result up in a cache. -/
def lookUp (cache : ResultCache) (key : String) : SessionWork (Option AnalysisResult) := do
  let (found, cache) ← cache.get (← get).machine.disk key
  modify fun s => { s with cache := some cache }
  pure found

/-- Keeps a result in the cache of the session. -/
def store (key : String) (result : AnalysisResult) : SessionWork Unit := do
  let s ← get
  match s.cache with
  | none => pure ()
  | some cache =>
    let (cache, written) := cache.put s.machine.disk key result
    modify fun s => { s with cache := some cache }
    let disk ← written
    modify fun s => { s with machine := { s.machine with disk } }

/-- Forgets all results that are kept. -/
def clearCache : SessionWork Unit := do
  let s ← get
  match s.cache with
  | none => pure ()
  | some cache =>
    let (cache, cleared) := cache.clear s.machine.disk
    modify fun s => { s with cache := some cache }
    match cleared with
    | .ok disk => modify fun s => { s with machine := { s.machine with disk } }
    | .error e => throw (.disk e)

/-- The part of an analyzer's version that may hold half of a surrogate pair. What a tool tells is
read from octets and holds none. -/
def givenVersion (analyzer : Analyzer) (version : String) : String :=
  match analyzer.basis with
  | .tool _ => analyzer.ownVersion
  | .nothing | .vocabulary _ => version

/-- The key for a result, which only whole text has. -/
def keyFor (script : Script) (analyzer : Analyzer) (version : String) : Result String := do
  let given := Text.phrase
    [script.fingerprint, "\x00", analyzer.kind.word, "\x00", givenVersion analyzer version]
  (Json.checkText (.str given)).mapError .unwritable
  return ResultCache.key script.fingerprint analyzer.kind version

/-- One analysis of a script: from the cache, if the session has one and it may be used. -/
def analyze (kind : AnalyzerKind) (script : Script) (useCache : Bool) :
    SessionWork AnalysisResult := do
  let analyzer ← analyzerOf kind
  match (← get).cache.filter fun _ => useCache with
  | none => onMachine (analyzer.analyze script)
  | some _ => do
    script.checkContent.mapError Fault.unwritable
    let version ← onMachine (analyzer.fullVersion script)
    let key ← keyFor script analyzer version
    let found ←
      match (← get).cache with
      | none => pure none
      | some cache => lookUp cache key
    match found with
    | some result => pure result
    | none => do
      let result ← onMachine (analyzer.analyze script)
      store key result
      pure result

/-- The analyses of a script that are selected. -/
def analyses (script : Script) (selection : Selection) (useCache : Bool) :
    List (SessionWork AnalysisResult) :=
  (selection.kindsFor script.language).map fun kind => analyze kind script useCache

/-- The report on a script from its results. -/
def report (script : Script) (results : List AnalysisResult) : Result Report := do
  script.checkContent.mapError Fault.unwritable
  return Report.aggregate script results

/-- Analyzes a script with the selected analyzers one after another. -/
def runInOrder (script : Script) (selection : Selection) (useCache : Bool) :
    SessionWork Report := do
  let results ← (analyses script selection useCache).mapM id
  report script results

/-- Ends in the fault, and in the state, that jobs done side by side end in; `fault` is one that has
come up when they were done in order. -/
def failing {α : Type} (jobs : List (Job Session AnalysisResult)) (single : Bool) (fault : Fault) :
    SessionWork α := do
  let s ← get
  let (first?, s) := Turns.outcome jobs single s.settings.maxWorkers.val s
  set s
  throw (first?.getD fault)

/-- Does work in order where it stands for one job whose parts are done side by side. The turns are
played if there is a fault. -/
def settle {α : Type} (inOrder : SessionWork α) (job : Job Session AnalysisResult) :
    SessionWork α := do
  match inOrder.run (← get) with
  | (.ok value, s) => do
    set s
    pure value
  | (.error fault, _) => failing [job] true fault

/-- The job of analyzing a script. -/
def runJob (script : Script) (selection : Selection) (useCache : Bool) :
    Job Session AnalysisResult where
  split _ := .ok (analyses script selection useCache)
  finish results := do
    let _ ← report script results

/-- Analyzes a script with the selected analyzers and reports the results. -/
def run (script : Script) (selection : Selection) (useCache : Bool) : SessionWork Report :=
  settle (runInOrder script selection useCache) (runJob script selection useCache)

end Session

end ScriptVet
