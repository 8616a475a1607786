import ScriptVet.Activity

/-!
# Side by side

Jobs that are done side by side take turns on a common state. A job begins by splitting into parts
and is finished when all of them have ended; a part goes on until it pauses or ends. Whoever is to
go on lines up, and all who are in line when a round begins have one turn in it. Only so many parts
may be under way at once; the others wait for a place, first come, first served.

The first fault ends it all. It is passed from the part to its job and from the job to whoever waits
for all jobs, a round for each step, and one more round is played after that. Then everything is
given up, except that parts that have what they waited for are brought to their end.
-/

namespace ScriptVet

/-- Something to be done in parts. -/
structure Job (σ α : Type) where
  /-- The activities that are its parts. -/
  split : σ → Result (List (Activity σ α))
  /-- What is done with the values of all parts. -/
  finish : List α → Activity σ Unit

/-- How far a part has come. -/
inductive Standing (σ α : Type) where
  | fresh (activity : Activity σ α)
  | waits (activity : Activity σ α)
  /-- It waited and has been given a place. -/
  | called (activity : Activity σ α)
  | paused (pause : Pause) (rest : σ → Course σ α)
  | ended (result : Result α)

/-- A part of a job. -/
structure Part (σ α : Type) where
  job : Nat
  standing : Standing σ α

/-- The value that a part has ended with. -/
def Part.value? {σ α : Type} (part : Part σ α) : Option α :=
  match part.standing with
  | .ended (.ok a) => some a
  | _ => none

/-- How many of several things have yet to end, and whether it is decided how all of them end. -/
structure Tally where
  left : Nat
  decided : Bool := false
  fault : Option Fault := none
  deriving Repr, DecidableEq

/-- The tally after one thing has ended; the first fault and the last end decide. -/
def Tally.note (tally : Tally) (fault : Option Fault) : Tally :=
  if tally.decided then tally
  else if fault.isSome then { tally with decided := true, fault }
  else { tally with left := tally.left - 1, decided := tally.left ≤ 1 }

/-- What has been decided stays. -/
theorem Tally.note_of_decided {tally : Tally} (h : tally.decided) (fault : Option Fault) :
    tally.note fault = tally := by
  simp [Tally.note, h]

/-- A turn. Parts and jobs are given by their positions. -/
inductive Turn where
  | begin (job : Nat)
  | goOn (part : Nat)
  /-- The job hears that a part has ended. -/
  | hearPart (part : Nat)
  | finish (job : Nat)
  /-- Whoever waits for all jobs hears that one has ended. -/
  | hearJob (job : Nat)
  | finishAll
  deriving Repr, DecidableEq

/-- The state in between turns. -/
structure Turns (σ α : Type) where
  jobs : List (Job σ α)
  /-- There is one job, and nobody else waits for it. -/
  single : Bool
  state : σ
  /-- How many more parts may be under way. -/
  places : Nat
  parts : List (Part σ α) := []
  /-- The parts that wait for a place, and those that have been called and not yet gone on. -/
  waiting : List Nat := []
  /-- The tallies of the parts of each job. -/
  tallies : List Tally
  /-- The tally of the jobs. -/
  total : Tally
  /-- The faults that jobs have ended with. -/
  faults : List (Nat × Fault) := []
  /-- Who is in line for the next round. -/
  line : List Turn
  isOver : Bool := false

namespace Turns

variable {σ α : Type}

/-- Jobs about to begin on a state, with so many places. -/
def start (jobs : List (Job σ α)) (single : Bool) (places : Nat) (state : σ) : Turns σ α where
  jobs := jobs
  single := single
  state := state
  places := places
  tallies := jobs.map fun _ => ⟨0, false, none⟩
  total := ⟨jobs.length, false, none⟩
  line := (List.range jobs.length).map .begin

def lineUp (turn : Turn) (t : Turns σ α) : Turns σ α :=
  { t with line := t.line ++ [turn] }

def setStanding (part : Nat) (standing : Standing σ α) (t : Turns σ α) : Turns σ α :=
  { t with parts := t.parts.modify part fun p => { p with standing } }

/-- The activity that waits for a place, if the part does. -/
def waits? (t : Turns σ α) (part : Nat) : Option (Nat × Activity σ α) :=
  match t.parts[part]? with
  | some ⟨_, .waits activity⟩ => some (part, activity)
  | _ => none

/-- Gives a free place to the first part that waits for one. -/
def callNext (t : Turns σ α) : Turns σ α :=
  match t.waiting.findSome? t.waits? with
  | none => t
  | some (part, activity) =>
    { t with places := t.places - 1 }.setStanding part (.called activity) |>.lineUp (.goOn part)

/-- A part goes on to its next pause or to its end, where it frees its place. -/
def advance (part : Nat) (course : Course σ α) (t : Turns σ α) : Turns σ α :=
  match course with
  | .ended result state =>
    let t := { t with state, places := t.places + 1 }.setStanding part (.ended result)
    t.callNext.lineUp (.hearPart part)
  | .paused pause state rest =>
    { t with state }.setStanding part (.paused pause rest) |>.lineUp (.goOn part)

/-- The turn of a part. -/
def goOn (part : Nat) (t : Turns σ α) : Turns σ α :=
  match (t.parts[part]?).map Part.standing with
  | some (.fresh activity) =>
    if t.places = 0 || !t.waiting.isEmpty then
      { t with waiting := t.waiting ++ [part] }.setStanding part (.waits activity)
    else { t with places := t.places - 1 }.advance part (activity t.state)
  | some (.called activity) =>
    let t := { t with waiting := t.waiting.erase part }
    let t := if 0 < t.places then t.callNext else t
    t.advance part (activity t.state)
  | some (.paused _ rest) => t.advance part (rest t.state)
  | _ => t

/-- A job has ended. -/
def endJob (job : Nat) (fault : Option Fault) (t : Turns σ α) : Turns σ α :=
  let t := { t with faults := t.faults ++ (fault.map (job, ·)).toList }
  if t.single then { t with total := t.total.note fault, isOver := true }
  else t.lineUp (.hearJob job)

/-- The values that parts of a job have ended with. -/
def values (t : Turns σ α) (job : Nat) : List α :=
  (t.parts.filter (·.job == job)).filterMap Part.value?

/-- Finishes a job with the values of its parts. -/
def finishJob (job : Nat) (t : Turns σ α) : Turns σ α :=
  match (t.tallies[job]?).bind Tally.fault, t.jobs[job]? with
  | some fault, _ => t.endJob job (some fault)
  | none, none => t
  | none, some found =>
    match (found.finish (t.values job)).run t.state with
    | (.ok (), state) => { t with state }.endJob job none
    | (.error fault, state) => { t with state }.endJob job (some fault)

/-- A job gets its parts, and all of them line up. -/
def addParts (job : Nat) (activities : List (Activity σ α)) (t : Turns σ α) : Turns σ α :=
  let first := t.parts.length
  { t with
    parts := t.parts ++ activities.map fun activity => ⟨job, .fresh activity⟩
    tallies := t.tallies.set job ⟨activities.length, false, none⟩
    line := t.line ++ (List.range activities.length).map fun n => .goOn (first + n) }

/-- Begins a job. One without parts is finished at once. -/
def beginJob (job : Nat) (t : Turns σ α) : Turns σ α :=
  let split? : Option (Result (List (Activity σ α))) := (t.jobs[job]?).map (·.split t.state)
  match split? with
  | none => t
  | some (.error fault) => t.endJob job (some fault)
  | some (.ok []) => t.finishJob job
  | some (.ok activities) => t.addParts job activities

/-- The job of a part notes that the part has ended. -/
def hearPart (part : Nat) (t : Turns σ α) : Turns σ α :=
  match t.parts[part]? with
  | some ⟨job, .ended result⟩ =>
    let before := t.tallies.getD job ⟨0, true, none⟩
    let after := before.note (match result with | .ok _ => none | .error fault => some fault)
    let t := { t with tallies := t.tallies.set job after }
    if after.decided && !before.decided then t.lineUp (.finish job) else t
  | _ => t

/-- Whoever waits for all jobs notes that one has ended. -/
def hearJob (job : Nat) (t : Turns σ α) : Turns σ α :=
  let after := t.total.note (t.faults.lookup job)
  let noted := { t with total := after }
  if after.decided && !t.total.decided then noted.lineUp .finishAll else noted

/-- One turn. -/
def take (t : Turns σ α) : Turn → Turns σ α
  | .begin job => t.beginJob job
  | .goOn part => t.goOn part
  | .hearPart part => t.hearPart part
  | .finish job => t.finishJob job
  | .hearJob job => t.hearJob job
  | .finishAll => { t with isOver := true }

/-- One round. -/
def round (t : Turns σ α) : Turns σ α :=
  t.line.foldl take { t with line := [] }

/-- Rounds until one has been played after the end, but at most so many. -/
def play : Nat → Turns σ α → Turns σ α
  | 0, t => t
  | rounds + 1, t =>
    if t.line.isEmpty then t
    else if t.isOver then t.round
    else play rounds t.round

/-- Brings a part that has what it waited for to its end. -/
def bringToEnd (state : σ) (part : Part σ α) : σ :=
  match part.standing with
  | .paused .answered rest => (rest state).finish.2
  | _ => state

/-- The state when everything else has been given up. -/
def close (t : Turns σ α) : σ :=
  t.parts.foldl bringToEnd t.state

/-- The most rounds that are played for each job: a job has few parts, and a part few pauses. -/
def roundsPerJob : Nat := 64

/-- What jobs done side by side have come to when the last turn has been taken. -/
def played (jobs : List (Job σ α)) (single : Bool) (places : Nat) (state : σ) : Turns σ α :=
  play (roundsPerJob * (jobs.length + 1)) (start jobs single places state)

/-- Does jobs side by side. The fault that ended it all, if one did, and the state left behind. -/
def outcome (jobs : List (Job σ α)) (single : Bool) (places : Nat) (state : σ) :
    Option Fault × σ :=
  let t := played jobs single places state
  (t.total.fault, t.close)

end Turns

end ScriptVet
