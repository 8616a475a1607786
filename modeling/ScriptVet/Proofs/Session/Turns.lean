import ScriptVet.Proofs.Ensures
import ScriptVet.Session.Turns

/-!
# What taking turns keeps

If every part of every job keeps an invariant of the common state, and so does the work that
finishes a job, then all jobs together keep it, in whatever order the turns come and wherever the
first fault ends them.
-/

namespace ScriptVet

variable {σ α : Type} {inv : σ → Prop}

/-- The course keeps the invariant: at its pauses, and at its end. -/
def Course.Keeps (inv : σ → Prop) (course : Course σ α) : Prop :=
  course.Ensures inv fun _ s => inv s

/-- The activity keeps the invariant when it is begun and whenever it goes on. -/
def Activity.Keeps (inv : σ → Prop) (x : Activity σ α) : Prop :=
  ∀ s, inv s → (x s).Keeps inv

/-- All parts of the job keep the invariant, and so does the work that finishes it. -/
structure Job.Keeps (inv : σ → Prop) (job : Job σ α) : Prop where
  parts : ∀ s activities, job.split s = .ok activities → ∀ x ∈ activities, x.Keeps inv
  finish : ∀ values s, inv s → inv ((job.finish values).run s).2

/-- Whatever is left to do keeps the invariant. -/
def Standing.Keeps (inv : σ → Prop) : Standing σ α → Prop
  | .fresh x | .waits x | .called x => x.Keeps inv
  | .paused _ rest => ∀ s, inv s → (rest s).Keeps inv
  | .ended _ => True

namespace Turns

/-- The invariant holds, and whatever is left to do keeps it. -/
structure Keeps (inv : σ → Prop) (t : Turns σ α) : Prop where
  state : inv t.state
  jobs : ∀ job ∈ t.jobs, job.Keeps inv
  parts : ∀ part ∈ t.parts, part.standing.Keeps inv

theorem Keeps.lineUp {t : Turns σ α} (h : t.Keeps inv) (turn : Turn) :
    (t.lineUp turn).Keeps inv :=
  ⟨h.state, h.jobs, h.parts⟩

theorem Keeps.setStanding {t : Turns σ α} (h : t.Keeps inv) (part : Nat)
    {standing : Standing σ α} (keeps : standing.Keeps inv) :
    (t.setStanding part standing).Keeps inv := by
  refine ⟨h.state, h.jobs, fun p hp => ?_⟩
  obtain ⟨i, hi, rfl⟩ := List.getElem_of_mem hp
  have bound : i < t.parts.length := by simpa [Turns.setStanding] using hi
  have before := h.parts _ (List.getElem_mem bound)
  simp only [Turns.setStanding, List.getElem_modify]
  split
  · exact keeps
  · exact before

/-- A part that waits keeps the invariant once it is called. -/
theorem Keeps.of_waits {t : Turns σ α} (h : t.Keeps inv) {part n : Nat} {x : Activity σ α}
    (waits : t.waits? part = some (n, x)) : x.Keeps inv := by
  rw [waits?] at waits
  split at waits
  · next job activity there =>
    have keeps := h.parts _ (List.mem_of_getElem? there)
    cases waits
    exact keeps
  · cases waits

theorem Keeps.callNext {t : Turns σ α} (h : t.Keeps inv) : t.callNext.Keeps inv := by
  rw [Turns.callNext]
  split
  · exact h
  · next n x found =>
    obtain ⟨part, -, waits⟩ := List.exists_of_findSome?_eq_some found
    have fewer : Keeps inv { t with places := t.places - 1 } := ⟨h.state, h.jobs, h.parts⟩
    have called : Standing.Keeps inv (.called x) := h.of_waits waits
    exact (fewer.setStanding n called).lineUp _

theorem Keeps.advance {t : Turns σ α} (h : t.Keeps inv) (part : Nat) {course : Course σ α}
    (keeps : course.Keeps inv) : (t.advance part course).Keeps inv := by
  cases course with
  | ended result s =>
      have now : Keeps inv { t with state := s, places := t.places + 1 } :=
        ⟨keeps, h.jobs, h.parts⟩
      have ended : Standing.Keeps inv (.ended result : Standing σ α) := trivial
      exact (now.setStanding part ended).callNext.lineUp _
  | paused pause s rest =>
      have now : Keeps inv { t with state := s } := ⟨keeps.1, h.jobs, h.parts⟩
      have paused : Standing.Keeps inv (.paused pause rest) := keeps.2
      exact (now.setStanding part paused).lineUp _

theorem Keeps.goOn {t : Turns σ α} (h : t.Keeps inv) (part : Nat) : (t.goOn part).Keeps inv := by
  rw [Turns.goOn]
  cases there : t.parts[part]? with
  | none => exact h
  | some p =>
      have keeps := h.parts p (List.mem_of_getElem? there)
      obtain ⟨job, standing⟩ := p
      cases standing with
      | fresh x =>
          simp only [Option.map_some]
          split
          · have waiting : Keeps inv { t with waiting := t.waiting ++ [part] } :=
              ⟨h.state, h.jobs, h.parts⟩
            have waits : Standing.Keeps inv (.waits x) := keeps
            exact waiting.setStanding part waits
          · have fewer : Keeps inv { t with places := t.places - 1 } := ⟨h.state, h.jobs, h.parts⟩
            exact fewer.advance part (keeps _ h.state)
      | waits x => exact h
      | called x =>
          have erased : Keeps inv { t with waiting := t.waiting.erase part } :=
            ⟨h.state, h.jobs, h.parts⟩
          simp only [Option.map_some]
          split
          · have next := erased.callNext
            exact next.advance part (keeps _ next.state)
          · exact erased.advance part (keeps _ h.state)
      | paused pause rest => exact h.advance part (keeps _ h.state)
      | ended result => exact h

theorem Keeps.endJob {t : Turns σ α} (h : t.Keeps inv) (job : Nat) (fault : Option Fault) :
    (t.endJob job fault).Keeps inv := by
  rw [Turns.endJob]
  split <;> exact ⟨h.state, h.jobs, h.parts⟩

theorem Keeps.finishJob {t : Turns σ α} (h : t.Keeps inv) (job : Nat) :
    (t.finishJob job).Keeps inv := by
  rw [Turns.finishJob]
  split
  · exact h.endJob job _
  · exact h
  · next found _ there =>
    have kept := (h.jobs found (List.mem_of_getElem? there)).finish (t.values job) t.state h.state
    split
    · next s ends =>
      rw [ends] at kept
      have now : Keeps inv { t with state := s } := ⟨kept, h.jobs, h.parts⟩
      exact now.endJob job none
    · next fault s ends =>
      rw [ends] at kept
      have now : Keeps inv { t with state := s } := ⟨kept, h.jobs, h.parts⟩
      exact now.endJob job (some fault)

theorem Keeps.beginJob {t : Turns σ α} (h : t.Keeps inv) (job : Nat) :
    (t.beginJob job).Keeps inv := by
  rw [Turns.beginJob]
  split
  · exact h
  · exact h.endJob job _
  · exact h.finishJob job
  · next activities _ splits =>
    obtain ⟨found, there, splits⟩ := Option.map_eq_some_iff.mp splits
    have keeps := (h.jobs found (List.mem_of_getElem? there)).parts _ _ splits
    refine ⟨h.state, h.jobs, fun part hp => ?_⟩
    rcases List.mem_append.mp hp with old | new
    · exact h.parts part old
    · obtain ⟨x, hx, rfl⟩ := List.mem_map.mp new
      exact keeps x hx

theorem Keeps.hearPart {t : Turns σ α} (h : t.Keeps inv) (part : Nat) :
    (t.hearPart part).Keeps inv := by
  rw [Turns.hearPart]
  split
  · next job result there =>
    cases result with
    | ok a =>
        simp only
        split <;> exact ⟨h.state, h.jobs, h.parts⟩
    | error fault =>
        simp only
        split <;> exact ⟨h.state, h.jobs, h.parts⟩
  · exact h

theorem Keeps.hearJob {t : Turns σ α} (h : t.Keeps inv) (job : Nat) :
    (t.hearJob job).Keeps inv := by
  rw [Turns.hearJob]
  split <;> exact ⟨h.state, h.jobs, h.parts⟩

/-- One turn keeps the invariant. -/
theorem Keeps.take {t : Turns σ α} (h : t.Keeps inv) (turn : Turn) : (t.take turn).Keeps inv := by
  cases turn with
  | begin job => exact h.beginJob job
  | goOn part => exact h.goOn part
  | hearPart part => exact h.hearPart part
  | finish job => exact h.finishJob job
  | hearJob job => exact h.hearJob job
  | finishAll => exact ⟨h.state, h.jobs, h.parts⟩

theorem Keeps.round {t : Turns σ α} (h : t.Keeps inv) : t.round.Keeps inv := by
  have cleared : Keeps inv { t with line := [] } := ⟨h.state, h.jobs, h.parts⟩
  exact List.foldlRecOn t.line Turns.take cleared fun _ h turn _ => h.take turn

/-- What every round keeps, a run keeps, however many rounds are played. -/
theorem play_induction {P : Turns σ α → Prop} (round : ∀ t, P t → P t.round) {t : Turns σ α}
    (h : P t) (rounds : Nat) : P (play rounds t) := by
  induction rounds generalizing t with
  | zero => exact h
  | succ rounds ih =>
      rw [Turns.play]
      split
      · exact h
      · split
        · exact round t h
        · exact ih (round t h)

theorem Keeps.close {t : Turns σ α} (h : t.Keeps inv) : inv t.close := by
  refine List.foldlRecOn t.parts bringToEnd h.state fun s hs part hp => ?_
  have keeps := h.parts part hp
  rw [bringToEnd]
  split
  · next rest there =>
    rw [there] at keeps
    exact (keeps s hs).finish
  · exact hs

/-- Jobs that keep an invariant keep it side by side. -/
theorem inv_outcome {jobs : List (Job σ α)} (keeps : ∀ job ∈ jobs, job.Keeps inv) (single : Bool)
    (places : Nat) {s : σ} (h : inv s) : inv (outcome jobs single places s).2 := by
  have start : (start jobs single places s).Keeps inv := by
    refine ⟨h, keeps, fun part hp => ?_⟩
    cases hp
  exact (play_induction (fun _ h => Keeps.round h) start _).close

end Turns

end ScriptVet
