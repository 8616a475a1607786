import ScriptVet.Proofs.Session.Endings

/-!
# Jobs come to their end

A round takes as many turns as there are in line, and more than are left never have to be taken. So
jobs of which enough is known come to their end in the rounds that are played, whatever the number
of places: the values of all parts are as described, and only what is done to finish a job can end
in a fault.
-/

namespace ScriptVet.Plan

variable {σ α : Type}

variable {plan : Plan σ α} {places i job : Nat} {dues : List (Due α)}
  {queue queue' : List Turn} {t t' : Turns σ α}

/-! ## Whole runs -/

/-- Whoever has a turn when it is over does nothing. -/
theorem Rests.take {turn : Turn} (h : plan.Rests (turn :: queue) t) : t.take turn = t := by
  rcases h.idle turn List.mem_cons_self with ⟨i, rfl⟩ | rfl
  · rw [Turns.take, Turns.goOn_eq]
    cases there : t.standing? i with
    | none => rfl
    | some standing =>
        have ended := h.done.ended there
        cases standing with
        | ended result => rfl
        | _ => cases ended
  · have stopped := h.stopped
    rw [Turns.take, ← stopped]

/-- What one turn comes to. -/
theorem Stage.take {pending : List Turn} {m : Nat} {turn : Turn} (some : 0 < places)
    (h : plan.Stage places (m + 1) (turn :: (pending ++ t.line)) t) :
    plan.Stage places m (pending ++ (t.take turn).line) (t.take turn) := by
  cases h with
  | goes h =>
      cases turn with
      | begin job => exact h.beginJob
      | goOn i => exact .goes (h.goOn some)
      | hearPart i => exact .goes h.hearPart
      | finish job => exact h.finishJob (.inl rfl)
      | hearJob job => exact h.hearJob
      | finishAll => exact .rests h.finishAll
  | rests h =>
      rw [h.take]
      exact .rests ⟨h.stopped, fun turn hturn => h.idle turn (List.mem_cons_of_mem _ hturn), h.done,
        h.ends⟩
  | fails several h fails => exact .fails several (h.take turn) fails

/-- As long as the jobs are under way somebody is in line. -/
theorem Goes.ne_nil {m : Nat} (h : plan.Goes places m queue t) : queue ≠ [] := by
  rintro rfl
  obtain ⟨dues, lives, served, -⟩ := h
  have idle {i : Nat} {standing : Standing σ α} (there : t.standing? i = some standing) :
      standing.isReady = false := by
    by_contra ready
    exact List.not_mem_nil (lives.seats.ready there (by simpa using ready))
  have unseated : t.taken = 0 := by
    refine List.sum_eq_zero_iff_forall_eq_nat.mpr fun n hn => ?_
    obtain ⟨part, hpart, rfl⟩ := List.mem_map.mp hn
    obtain ⟨i, found⟩ := List.mem_iff_getElem?.mp hpart
    have idle : part.standing.isReady = false := idle (i := i) (by rw [Turns.standing?, found]; rfl)
    cases standing : part.standing <;> rw [standing] at idle <;> first | rfl | cases idle
  have ended {part : Part σ α} (hpart : part ∈ t.parts) : part.standing.isEnded := by
    obtain ⟨i, found⟩ := List.mem_iff_getElem?.mp hpart
    have there : t.standing? i = some part.standing := by rw [Turns.standing?, found]; rfl
    have ready := idle there
    by_contra runs
    have waits : part.standing.isWaiting := by simpa [Standing.isReady, runs] using ready
    have taken := served ⟨i, _, there, waits⟩
    omega
  have open' : t.total.left ≠ 0 := fun none => List.not_mem_nil (lives.ledger.last.mp none)
  have closed : (t.tallies.map Tally.open).sum = 0 := by
    refine List.sum_eq_zero_iff_forall_eq_nat.mpr fun n hn => ?_
    obtain ⟨tally, htally, rfl⟩ := List.mem_map.mp hn
    obtain ⟨job, there⟩ := List.mem_iff_getElem?.mp htally
    have left := lives.counts.left there
    have none : t.unended job = 0 := by
      refine List.sum_eq_zero_iff_forall_eq_nat.mpr fun n hn => ?_
      obtain ⟨part, hpart, rfl⟩ := List.mem_map.mp hn
      simp [Part.left, ended hpart]
    simp [none] at left
    simp [Tally.open, left]
  have left := lives.ledger.left
  simp [closed] at left
  exact open' left

theorem length_le_funds (dues : List (Due α)) (queue : List Turn) :
    queue.length ≤ funds dues queue := by
  have cost (turn : Turn) : 1 ≤ turn.cost := by
    cases turn with
    | begin job => exact Nat.le_trans (by decide) (Nat.le_add_right 3 _)
    | _ => simp [Turn.cost]
  have sum : queue.length ≤ (queue.map Turn.cost).sum := by
    induction queue with
    | nil => exact Nat.le_refl 0
    | cons turn queue ih =>
        have one := cost turn
        rw [List.length_cons, List.map_cons, List.sum_cons]
        omega
  rw [funds]
  omega

variable (plan) in
/-- It is over, or a fault has decided how it ends. -/
def Settles (t : Turns σ α) : Prop :=
  plan.Rests t.line t ∨ plan.single = false ∧ ∃ fault, t.IsDecided fault ∧ plan.Fails fault

/-- Several turns one after another. -/
theorem Stage.foldl {m : Nat} (some : 0 < places) (turns : List Turn)
    (h : plan.Stage places (m + turns.length) (turns ++ t.line) t) :
    plan.Stage places m (turns.foldl Turns.take t).line (turns.foldl Turns.take t) := by
  induction turns generalizing t with
  | nil => exact h
  | cons turn turns ih => exact ih (h.take some)

/-- A round takes as many turns as there are in line. -/
theorem Stage.round {m : Nat} (some : 0 < places)
    (h : plan.Stage places (m + t.line.length) t.line t) :
    plan.Stage places m t.round.line t.round := by
  refine Stage.foldl some t.line ?_
  rw [List.append_nil]
  cases h with
  | goes h =>
      obtain ⟨dues, lives, served, few⟩ := h
      refine .goes ⟨dues, lives.congr rfl rfl ?_ rfl rfl, served, few⟩
      exact lives.seats.congr rfl rfl rfl id
  | rests h => exact .rests ⟨h.stopped, h.idle, ⟨h.done.ended, h.done.values⟩, h.ends⟩
  | fails several h fails => exact .fails several ⟨h.several, h.decided, h.fault⟩ fails

/-- When no turn is left it is over. -/
theorem Stage.settles (h : plan.Stage places 0 t.line t) : plan.Settles t := by
  cases h with
  | goes h =>
      have some := List.length_pos_iff.mpr h.ne_nil
      obtain ⟨dues, -, -, few⟩ := h
      have most := length_le_funds dues t.line
      omega
  | rests h => exact .inl h
  | fails several h fails => exact .inr ⟨several, _, h, fails⟩

theorem Settles.round (some : 0 < places) (h : plan.Settles t) : plan.Settles t.round := by
  refine (Stage.round (m := 0) some ?_).settles
  rcases h with rests | ⟨several, fault, decided, fails⟩
  · exact .rests rests
  · exact .fails several decided fails

theorem Settles.play (some : 0 < places) (h : plan.Settles t) (rounds : Nat) :
    plan.Settles (Turns.play rounds t) :=
  Turns.play_induction (fun _ h => Settles.round some h) h rounds

/-- Whoever plays as many rounds as there are turns left comes to the end. -/
theorem Stage.play {m rounds : Nat} (some : 0 < places) (h : plan.Stage places m t.line t)
    (enough : m ≤ rounds) : plan.Settles (Turns.play rounds t) := by
  induction rounds generalizing m t with
  | zero =>
      obtain rfl := Nat.le_zero.mp enough
      exact h.settles
  | succ rounds ih =>
      cases h with
      | goes h =>
          obtain ⟨turn, line, first⟩ := List.exists_cons_of_ne_nil h.ne_nil
          obtain ⟨dues, lives, served, few⟩ := id h
          have most := length_le_funds dues t.line
          obtain ⟨left, rfl⟩ := Nat.exists_eq_add_of_le' (Nat.le_trans most few)
          rw [Turns.play, lives.goesOn]
          simp only [first, List.isEmpty_cons, Bool.false_eq_true, if_false]
          refine ih (Stage.round some (.goes h)) ?_
          rw [first, List.length_cons] at enough
          omega
      | rests h => exact Settles.play some (.inl h) _
      | fails several h fails => exact Settles.play some (.inr ⟨several, _, h, fails⟩) _

/-- How jobs start that are known. -/
theorem goes_start (jobs : plan.jobs ≠ []) {s : σ} (inv : plan.inv s) :
    plan.Goes places (Turns.roundsPerJob * (plan.jobs.length + 1))
      (Turns.start plan.jobs plan.single places s).line
      (Turns.start plan.jobs plan.single places s) := by
  let begins : List Turn := (List.range plan.jobs.length).map .begin
  have some : 0 < plan.jobs.length := List.length_pos_iff.mpr jobs
  have all {p : Turn → Bool} (begun : ∀ job, p (.begin job)) : begins.filter p = begins := by
    refine List.filter_eq_self.mpr fun turn hturn => ?_
    obtain ⟨job, -, rfl⟩ := List.mem_map.mp hturn
    exact begun job
  have counts : Turns.Counts plan.jobs.length begins _ :=
    Turns.counts_start plan.jobs plan.single places s
  have ledger : Turns.Ledger plan.jobs.length begins _ _ :=
    Turns.ledger_start some (Turns.start plan.jobs plan.single places s).tallies
      (by simp [Turns.start, List.map_const'])
  rw [← all (p := Turn.isOfParts) fun _ => rfl] at counts
  rw [← all (p := Turn.isOfJobs) fun _ => rfl] at ledger
  have cost : (begins.map Turn.cost).sum =
      plan.jobs.length * (3 + mostParts * (mostPauses + 6)) := by
    simp [begins, Function.comp_def, Turn.cost]
  refine ⟨[], ⟨rfl, rfl, rfl, fun alone => ⟨some, ?_⟩, inv, by simp [Turns.start], .nil, ?_, ?_,
    Turns.seats_start _ _ _ _ _, counts, ledger⟩, ?_, ?_⟩
  · intro job heard
    simp [Turns.start] at heard
  · intro job good given begun
    refine absurd (List.mem_map_of_mem (List.mem_range.mpr ?_)) begun
    rw [plan.parts.length_eq]
    exact (List.getElem?_eq_some_iff.mp given).1
  · intro job tally there _ begun
    refine absurd (List.mem_map_of_mem (List.mem_range.mpr ?_)) begun
    simpa [Turns.start] using (List.getElem?_eq_some_iff.mp there).1
  · rintro ⟨i, standing, there, -⟩
    cases there
  · change 0 + (begins.map Turn.cost).sum ≤ _
    rw [cost]
    simp only [mostParts, mostPauses, Turns.roundsPerJob]
    omega

/-- Jobs that are known come to their end. -/
theorem settles_played (some : 0 < places) (jobs : plan.jobs ≠ []) {s : σ} (inv : plan.inv s) :
    plan.Settles (Turns.played plan.jobs plan.single places s) :=
  Stage.play some (.goes (goes_start jobs inv)) (Nat.le_refl _)

/-! ## What jobs come to -/

theorem IsDone.close (h : plan.IsDone t) : t.close = t.state := by
  refine List.foldlRecOn (motive := fun s => s = t.state) t.parts Turns.bringToEnd rfl ?_
  rintro s rfl part hpart
  obtain ⟨i, found⟩ := List.mem_iff_getElem?.mp hpart
  have ended : part.standing.isEnded := h.ended (i := i) (by rw [Turns.standing?, found]; rfl)
  rw [Turns.bringToEnd]
  cases standing : part.standing <;> rw [standing] at ended
  all_goals first | rfl | cases ended

/-- Jobs come to their end, all with values as described and leaving behind what they are to, unless
one of them ends in a fault when it is finished. -/
theorem outcome_or_fails (free : 0 < places) {s : σ} (inv : plan.inv s) :
    (∃ s', Turns.outcome plan.jobs plan.single places s = (none, s') ∧ plan.inv s' ∧
      (∀ job < plan.jobs.length, plan.left job s') ∧
      ∀ {job good}, plan.goods[job]? = some good → List.Forall₂ (fun good a => good a) good
        ((Turns.played plan.jobs plan.single places s).values job)) ∨
    ∃ fault s', Turns.outcome plan.jobs plan.single places s = (some fault, s') ∧
      plan.Fails fault := by
  by_cases jobs : plan.jobs = []
  · have goods : plan.goods = [] := List.forall₂_nil_left_iff.mp (jobs ▸ plan.parts)
    rw [jobs]
    refine .inl ⟨s, rfl, inv, fun job among => absurd among (Nat.not_lt_zero job),
      fun {job good} given => ?_⟩
    rw [goods] at given
    cases given
  · rcases settles_played free jobs inv with rests | ⟨-, fault, decided, fails⟩
    · rcases rests.ends with ⟨unfaulted, inv', left⟩ | ⟨fault, ended, fails⟩
      · exact .inl ⟨_, by rw [Turns.outcome, rests.done.close, unfaulted], inv', left,
          rests.done.values⟩
      · exact .inr ⟨fault, _, by rw [Turns.outcome, ended], fails⟩
    · exact .inr ⟨fault, _, by rw [Turns.outcome, decided.fault], fails⟩

end ScriptVet.Plan
