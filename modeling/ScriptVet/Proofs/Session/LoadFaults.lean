import ScriptVet.Proofs.Session.BuildAll
import ScriptVet.Proofs.Session.Kinds

/-!
# Scripts that cannot be loaded

Scripts that are built together are all loaded when their jobs begin. The first of them that cannot
be loaded is heard of before anything else can end the build: its job ends in the first round, in
which no part has a turn, and whoever waits for all jobs hears of it in the second, in which only
parts have turns before. From then on it is decided with which fault the build ends.
-/

namespace ScriptVet

namespace Turns

variable {σ α : Type}

/-- What is noted about the jobs as a whole, beside how far their parts have come. -/
def ledger (t : Turns σ α) : Bool × Tally × List (Nat × Fault) × Bool :=
  (t.single, t.total, t.faults, t.isOver)

@[simp] theorem ledger_lineUp (turn : Turn) (t : Turns σ α) :
    (t.lineUp turn).ledger = t.ledger := rfl

@[simp] theorem ledger_setStanding (part : Nat) (standing : Standing σ α) (t : Turns σ α) :
    (t.setStanding part standing).ledger = t.ledger := rfl

@[simp] theorem ledger_callNext (t : Turns σ α) : t.callNext.ledger = t.ledger := by
  rw [callNext]
  split <;> rfl

@[simp] theorem ledger_advance (part : Nat) (course : Course σ α) (t : Turns σ α) :
    (t.advance part course).ledger = t.ledger := by
  cases course with
  | ended result s =>
      simp only [advance, ledger_lineUp, ledger_callNext, ledger_setStanding]
      rfl
  | paused pause s rest => rfl

/-- The turn of a part is no news about the jobs. -/
theorem ledger_goOn (part : Nat) (t : Turns σ α) : (t.goOn part).ledger = t.ledger := by
  rw [goOn]
  split
  · split
    · rfl
    · rw [ledger_advance]
      rfl
  · simp only [ledger_advance]
    split
    · rw [ledger_callNext]
      rfl
    · rfl
  · exact ledger_advance part _ t
  · rfl

/-- What a job hears of its parts is no news about the jobs either. -/
theorem ledger_hearPart (part : Nat) (t : Turns σ α) : (t.hearPart part).ledger = t.ledger := by
  rw [hearPart]
  split
  · next job result there =>
    cases result with
    | ok a =>
        simp only
        split <;> rfl
    | error fault =>
        simp only
        split <;> rfl
  · rfl

theorem ledger_foldl_goOn {line : List Turn} (parts : ∀ turn ∈ line, ∃ part, turn = .goOn part)
    (t : Turns σ α) : (line.foldl take t).ledger = t.ledger := by
  refine List.foldlRecOn (motive := fun now : Turns σ α => now.ledger = t.ledger) line take
    (rfl : t.ledger = t.ledger) fun now same turn hturn => ?_
  obtain ⟨part, rfl⟩ := parts turn hturn
  exact (ledger_goOn part now).trans same

/-! ## A fault that has been heard of -/

/-- Several jobs whose end is decided by a fault. -/
structure IsDecided (fault : Fault) (t : Turns σ α) : Prop where
  several : t.single = false
  decided : t.total.decided
  fault : t.total.fault = some fault

variable {fault : Fault} {t : Turns σ α}

theorem IsDecided.of_ledger_eq {t' : Turns σ α} (h : t.IsDecided fault)
    (same : t'.ledger = t.ledger) : t'.IsDecided fault := by
  obtain ⟨single, rest⟩ := Prod.mk.inj same
  obtain ⟨total, -⟩ := Prod.mk.inj rest
  exact ⟨single.trans h.several, total ▸ h.decided, total ▸ h.fault⟩

theorem IsDecided.endJob (h : t.IsDecided fault) (job : Nat) (ended : Option Fault) :
    (t.endJob job ended).IsDecided fault := by
  rw [Turns.endJob, if_neg (by simp [h.several])]
  exact ⟨h.several, h.decided, h.fault⟩

theorem IsDecided.finishJob (h : t.IsDecided fault) (job : Nat) :
    (t.finishJob job).IsDecided fault := by
  have later (s : σ) : IsDecided fault { t with state := s } := ⟨h.several, h.decided, h.fault⟩
  rw [Turns.finishJob]
  split
  · exact h.endJob job _
  · exact h
  · split
    · exact (later _).endJob job none
    · exact (later _).endJob job _

theorem IsDecided.beginJob (h : t.IsDecided fault) (job : Nat) :
    (t.beginJob job).IsDecided fault := by
  rw [Turns.beginJob]
  split
  · exact h
  · exact h.endJob job _
  · exact h.finishJob job
  · exact ⟨h.several, h.decided, h.fault⟩

/-- What is decided stays so, whoever has a turn. -/
theorem IsDecided.take (h : t.IsDecided fault) (turn : Turn) : (t.take turn).IsDecided fault := by
  cases turn with
  | begin job => exact h.beginJob job
  | goOn part => exact h.of_ledger_eq (ledger_goOn part t)
  | hearPart part => exact h.of_ledger_eq (ledger_hearPart part t)
  | finish job => exact h.finishJob job
  | hearJob job =>
      rw [Turns.take, Turns.hearJob, Tally.note_of_decided h.decided]
      split
      · exact ⟨h.several, h.decided, h.fault⟩
      · exact ⟨h.several, h.decided, h.fault⟩
  | finishAll => exact ⟨h.several, h.decided, h.fault⟩

theorem IsDecided.foldl (h : t.IsDecided fault) (line : List Turn) :
    (line.foldl Turns.take t).IsDecided fault :=
  List.foldlRecOn line Turns.take h fun _ h turn _ => h.take turn

theorem IsDecided.round (h : t.IsDecided fault) : t.round.IsDecided fault := by
  have cleared : IsDecided fault { t with line := [] } := ⟨h.several, h.decided, h.fault⟩
  exact cleared.foldl t.line

/-! ## The first two rounds -/

/-- Jobs have begun, and only parts are in line. -/
structure HasBegun (jobs : List (Job σ α)) (t : Turns σ α) : Prop where
  same : t.jobs = jobs
  ledger : t.ledger = (false, ⟨jobs.length, false, none⟩, [], false)
  line : ∀ turn ∈ t.line, ∃ part, turn = .goOn part

/-- A job has ended in a fault that is not yet heard of, and only parts are in line before those who
are to hear of it. -/
structure HasFailed (job : Nat) (fault : Fault) (t : Turns σ α) : Prop where
  several : t.single = false
  undecided : t.total.decided = false
  goesOn : t.isOver = false
  fault : t.faults.lookup job = some fault
  line : ∃ before after, t.line = before ++ .hearJob job :: after ∧
    ∀ turn ∈ before, ∃ part, turn = .goOn part

variable {jobs : List (Job σ α)} {n job : Nat}

/-- A job that has parts has begun when all of them are in line. -/
theorem HasBegun.beginJob (h : t.HasBegun jobs) {found : Job σ α} (there : jobs[n]? = some found)
    (parts : ∀ s, ∃ x xs, found.split s = .ok (x :: xs)) : (t.beginJob n).HasBegun jobs := by
  obtain ⟨x, xs, splits⟩ := parts t.state
  rw [Turns.beginJob]
  simp only [h.same, there, Option.map_some, splits]
  refine ⟨h.same, h.ledger, fun turn hturn => ?_⟩
  rcases List.mem_append.mp hturn with old | new
  · exact h.line turn old
  · obtain ⟨k, -, rfl⟩ := List.mem_map.mp new
    exact ⟨_, rfl⟩

/-- The end of another job is heard of later. -/
theorem HasFailed.endJob (h : t.HasFailed job fault) (other : Nat) (ended : Option Fault) :
    (t.endJob other ended).HasFailed job fault := by
  obtain ⟨before, after, line, parts⟩ := h.line
  rw [Turns.endJob, if_neg (by simp [h.several])]
  refine ⟨h.several, h.undecided, h.goesOn, ?_, before, after ++ [.hearJob other], ?_, parts⟩
  · simp [lineUp, List.lookup_append, h.fault]
  · simp [lineUp, line]

theorem HasFailed.finishJob (h : t.HasFailed job fault) (other : Nat) :
    (t.finishJob other).HasFailed job fault := by
  have later (s : σ) : HasFailed job fault { t with state := s } :=
    ⟨h.several, h.undecided, h.goesOn, h.fault, h.line⟩
  rw [Turns.finishJob]
  split
  · exact h.endJob other _
  · exact h
  · split
    · exact (later _).endJob other none
    · exact (later _).endJob other _

/-- The jobs after one that has failed may begin as they like. -/
theorem HasFailed.beginJob (h : t.HasFailed job fault) (other : Nat) :
    (t.beginJob other).HasFailed job fault := by
  rw [Turns.beginJob]
  split
  · exact h
  · exact h.endJob other _
  · exact h.finishJob other
  · next activities _ _ =>
    obtain ⟨before, after, line, parts⟩ := h.line
    let turns : List Turn := (List.range activities.length).map fun n => .goOn (t.parts.length + n)
    refine ⟨h.several, h.undecided, h.goesOn, h.fault, before, after ++ turns, ?_, parts⟩
    simp only [addParts, line, turns, List.append_assoc, List.cons_append]

/-- In the next round the fault decides. -/
theorem HasFailed.round (h : t.HasFailed job fault) : t.round.IsDecided fault := by
  obtain ⟨before, after, line, parts⟩ := h.line
  rw [Turns.round, line, List.foldl_append, List.foldl_cons]
  refine IsDecided.foldl ?_ after
  have same := ledger_foldl_goOn parts { t with line := [] }
  revert same
  generalize before.foldl Turns.take { t with line := [] } = heard
  intro same
  have several : heard.single = false := (congrArg Prod.fst same).trans h.several
  have undecided : heard.total.decided = false := (congrArg (·.2.1.decided) same).trans h.undecided
  have failed : heard.faults.lookup job = some fault :=
    (congrArg (·.2.2.1.lookup job) same).trans h.fault
  rw [Turns.take, Turns.hearJob]
  simp only [failed, Tally.note, undecided, Option.isSome_some]
  exact ⟨several, rfl, rfl⟩

end Turns

namespace Session

open Activity

/-- The fault in descriptors of scripts that are to be built together, or else the first one that
comes up when they are loaded. -/
def loadFault? (descriptors : List Descriptor) (disk : Disk) (base? : Option Path) :
    Option Fault :=
  match repeatedName? [] (descriptors.map (·.name)) with
  | some name => some (.duplicateName name)
  | none => descriptors.findSome? fun d => Result.fault? (d.toScript disk base?)

variable {descriptors : List Descriptor} {disk : Disk} {base? : Option Path} {fault : Fault}

/-- No fault comes up exactly if the names are different and all scripts can be loaded. -/
theorem loadFault?_eq_none_iff :
    loadFault? descriptors disk base? = none ↔ (descriptors.map (·.name)).Nodup ∧
      ∀ d ∈ descriptors, ∃ script, d.toScript disk base? = .ok script := by
  rw [loadFault?]
  cases repeated : repeatedName? [] (descriptors.map (·.name)) with
  | some name =>
      refine iff_of_false nofun fun ⟨distinct, _⟩ => ?_
      have none := repeatedName?_eq_none_iff.mpr ⟨distinct, fun _ _ => List.not_mem_nil⟩
      cases repeated.symm.trans none
  | none =>
      simp only [List.findSome?_eq_none_iff, Result.fault?_eq_none_iff]
      exact ⟨fun all => ⟨(repeatedName?_eq_none_iff.mp repeated).1, all⟩, And.right⟩

end Session

end ScriptVet
