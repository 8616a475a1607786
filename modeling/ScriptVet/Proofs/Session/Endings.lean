import ScriptVet.Proofs.Result
import ScriptVet.Proofs.Session.LoadFaults
import ScriptVet.Proofs.Session.Plans

/-!
# How jobs end

A job hears of the ends of its parts and is finished after the last, and whoever waits for all jobs
hears of the end of each. When it is over all parts have ended, and nobody who is still in line has
anything to do. Only what is done to finish a job can end in a fault.
-/

namespace ScriptVet.Plan

variable {σ α : Type}

variable {plan : Plan σ α} {places i job : Nat} {dues : List (Due α)}
  {queue queue' : List Turn} {t t' : Turns σ α}

/-! ## News -/

/-- The tally of one job is changed, which is to be finished if nothing is left of it. -/
theorem Finished.setTally (h : plan.Finished queue t) {after : Tally}
    (tallies : t'.tallies = t.tallies.set job after)
    (frame : (t'.state, t'.faults) = (t.state, t.faults))
    (others : ∀ turn ∈ queue, turn.isOfJobs → turn ∈ queue' ∨ turn = .begin job)
    (due : after.left = 0 → .finish job ∈ queue') : plan.Finished queue' t' := by
  obtain ⟨state, faults⟩ := Prod.mk.inj frame
  intro other tally there none begun unfinished
  rw [tallies] at there
  rw [state, faults]
  rcases of_getElem?_set there with ⟨rfl, rfl⟩ | ⟨apart, there⟩
  · exact absurd (due none) unfinished
  · have kept {turn : Turn} (hturn : turn ∈ queue) (isOfJobs : turn.isOfJobs)
        (notBegin : turn ≠ .begin job) : turn ∈ queue' :=
      (others turn hturn isOfJobs).resolve_right notBegin
    refine (h other tally there none (fun again => begun ?_) fun again =>
      unfinished ?_).imp_right fun ⟨unheard, failed⟩ => ⟨?_, failed⟩
    · exact kept again rfl (by simpa using Ne.symm apart)
    · exact kept again rfl (by simp)
    · exact kept unheard rfl (by simp)

theorem cost_next (tally : Tally) (turn : Turn) :
    ((tally.next turn).map Turn.cost).sum ≤ turn.cost := by
  cases decided : tally.decided <;> simp [Tally.next, decided]

/-- How a job hears of the end of a part that has a value. -/
theorem hearPart_eq {a : α} (found : t.parts[i]? = some ⟨job, .ended (.ok a)⟩) {before : Tally}
    (there : t.tallies[job]? = some before) (undecided : before.decided = false) :
    t.hearPart i = { t with
      tallies := t.tallies.set job (before.note none)
      line := t.line ++ (before.note none).next (.finish job) } := by
  rw [Turns.hearPart, found]
  simp only [List.getD, there, Option.getD_some, undecided, Bool.not_false, Bool.and_true]
  cases decided : (before.note none).decided <;> simp [Tally.next, decided, Turns.lineUp]

/-- The job of a part hears of its end, and is to be finished if nothing is left of it. -/
theorem Goes.hearPart {pending : List Turn} {m : Nat}
    (h : plan.Goes places (m + 1) (.hearPart i :: (pending ++ t.line)) t) :
    plan.Goes places m (pending ++ (t.hearPart i).line) (t.hearPart i) := by
  obtain ⟨dues, lives, served, few⟩ := h
  have counts := lives.counts
  have ledger := lives.ledger
  rw [List.filter_cons_of_pos rfl] at counts
  rw [List.filter_cons_of_neg Bool.false_ne_true] at ledger
  obtain ⟨standing, there, ended⟩ := counts.heard List.mem_cons_self
  obtain ⟨⟨job, standing⟩, found, rfl⟩ := Option.map_eq_some_iff.mp there
  cases standing with
  | ended result =>
      obtain ⟨good, n, a, rfl, -⟩ := lives.exists_delivers there
      have owner : t.owners[i]? = some job := by simp [Turns.owners, found]
      have among := counts.owners job (List.mem_of_getElem? owner)
      rw [← ledger.length] at among
      generalize tallied : t.tallies[job] = before
      have at' : t.tallies[job]? = some before := by rw [List.getElem?_eq_getElem among, tallied]
      have left := counts.left at'
      rw [List.countP_cons_of_pos (by simp [Turns.isUnheard, owner])] at left
      have undecided := ledger.undecided_of_left at' (by omega)
      have noted := Tally.note_none undecided
      have begun : .begin job ∉ (pending ++ t.line).filter Turn.isOfJobs := by
        intro again
        refine counts.begins (List.mem_cons_of_mem _ ?_) (List.mem_of_getElem? owner)
        exact List.mem_filter.mpr ⟨(List.mem_filter.mp again).1, rfl⟩
      have cost := cost_next (before.note none) (.finish job)
      rw [hearPart_eq found at' undecided]
      refine ⟨dues, lives.note ⟨by simp, by simp⟩ rfl rfl (fun single => ?_) ?_ ?_ ?_,
        served, ?_⟩
      · obtain ⟨some, unheard⟩ := lives.alone single
        refine ⟨some, fun {other} heard => @unheard other ?_⟩
        rw [List.filter_append, Tally.filter_next_of_pos rfl] at heard
        rw [List.filter_cons_of_neg Bool.false_ne_true]
        exact Tally.mem_of_next heard (by simp)
      · refine lives.finished.setTally rfl rfl (fun other hother isOfJobs => .inl ?_) fun none => ?_
        · refine List.mem_append_left _ ((List.mem_cons.mp hother).resolve_left ?_)
          rintro rfl
          cases isOfJobs
        · refine List.mem_append_right _ (Tally.mem_next.mpr ⟨?_, rfl⟩)
          rw [noted] at none ⊢
          exact decide_eq_true (Nat.sub_eq_zero_iff_le.mp none)
      · have fewer : before.left = (before.note none).left + 1 := by
          rw [noted]
          change before.left = before.left - 1 + 1
          omega
        rw [List.filter_append, Tally.filter_next_of_neg Bool.false_ne_true, List.append_nil]
        exact counts.hear owner at' fewer rfl rfl
      · rw [List.filter_append, Tally.filter_next_of_pos rfl]
        exact ledger.hearPart at' (by omega) begun
      · simp [funds, Turn.cost] at few cost ⊢
        omega
  | _ => cases ended

/-! ## The end -/

variable (plan) in
/-- All parts have ended with values as described. -/
structure IsDone (t : Turns σ α) : Prop where
  ended : ∀ {i standing}, t.standing? i = some standing → standing.isEnded
  values : ∀ {job good}, plan.goods[job]? = some good →
    List.Forall₂ (fun good a => good a) good (t.values job)

variable (plan) in
/-- What all has come to when it is over: the jobs are finished without a fault and have left behind
what they are to, or a job that is the only one has failed when it was finished. -/
def Ends (t : Turns σ α) : Prop :=
  (t.total.fault = none ∧ plan.inv t.state ∧ ∀ job < plan.jobs.length, plan.left job t.state) ∨
    ∃ fault, t.total.fault = some fault ∧ plan.Fails fault

variable (plan) in
/-- It is over, and nobody who is in line has anything to do. -/
structure Rests (queue : List Turn) (t : Turns σ α) : Prop where
  stopped : t.isOver
  idle : ∀ turn ∈ queue, (∃ i, turn = .goOn i) ∨ turn = .finishAll
  done : plan.IsDone t
  ends : plan.Ends t

variable (plan) in
/-- How far all jobs have come, and how many turns they have left. -/
inductive Stage (places : Nat) (m : Nat) (queue : List Turn) (t : Turns σ α) : Prop where
  | goes (h : plan.Goes places m queue t)
  | rests (h : plan.Rests queue t)
  | fails {fault : Fault} (several : plan.single = false) (h : t.IsDecided fault)
    (fails : plan.Fails fault)

/-- A job of which nothing is left has values as described. -/
theorem Lives.values (h : plan.Lives places dues queue t) {job : Nat} {good : List (α → Prop)}
    (listed : (dues.filter (·.job == job)).map Due.good = good) (none : t.unended job = 0) :
    List.Forall₂ (fun good a => good a) good (t.values job) := by
  have ended : ∀ part ∈ t.parts, part.job = job → part.standing.isEnded := by
    intro part hpart ours
    have left := List.sum_eq_zero_iff_forall_eq_nat.mp none _ (List.mem_map_of_mem hpart)
    by_contra runs
    simp [Part.left, ours, runs] at left
  rw [Turns.values, ← listed]
  have meets := h.meets
  clear h none listed
  revert ended
  generalize t.parts = parts at meets
  induction meets with
  | nil => exact fun _ => .nil
  | @cons part due parts dues meets rest ih =>
      intro ended
      rw [List.forall_mem_cons] at ended
      have later := ih ended.2
      by_cases ours : part.job = job
      · have due' : due.job = job := meets.job ▸ ours
        obtain ⟨job', standing⟩ := part
        have delivers := meets.delivers
        have last := ended.1 ours
        subst ours
        cases standing with
        | ended result =>
            obtain ⟨a, rfl, good⟩ := delivers
            have goods : ((due :: dues).filter (·.job == job')).map Due.good =
                due.good :: (dues.filter (·.job == job')).map Due.good := by
              rw [List.filter_cons_of_pos (by simpa using due'), List.map_cons]
            have values : ((⟨job', .ended (.ok a)⟩ :: parts).filter (·.job == job')).filterMap
                Part.value? = a :: (parts.filter (·.job == job')).filterMap Part.value? := by
              rw [List.filter_cons_of_pos (by simp)]
              rfl
            rw [goods, values]
            exact .cons good later
        | _ => cases last
      · have due' : ¬ due.job = job := meets.job ▸ ours
        simpa [List.filter_cons, ours, due'] using later

theorem Lives.exists_job (h : plan.Lives places dues queue t) {job : Nat}
    (among : job < plan.jobs.length) :
    ∃ found good tally, plan.jobs[job]? = some found ∧ plan.goods[job]? = some good ∧
      t.tallies[job]? = some tally := by
  have goods := plan.parts.length_eq
  have tallies := h.ledger.length
  exact ⟨_, _, _, List.getElem?_eq_getElem among, List.getElem?_eq_getElem (goods ▸ among),
    List.getElem?_eq_getElem (tallies ▸ among)⟩

theorem left_eq_zero_of_closed {tallies : List Tally} (closed : (tallies.map Tally.open).sum = 0)
    {tally : Tally} (there : tallies[job]? = some tally) : tally.left = 0 := by
  have open' := List.sum_eq_zero_iff_forall_eq_nat.mp closed _
    (List.mem_map_of_mem (List.mem_of_getElem? there))
  by_contra some
  simp [Tally.open, Nat.pos_of_ne_zero some] at open'

theorem notMem_of_isOwed {turn : Turn}
    (owed : (queue.filter Turn.isOfJobs).countP Turn.isOwed = 0) (isOwed : turn.isOwed)
    (isOfJobs : turn.isOfJobs) : turn ∉ queue := fun among =>
  List.countP_eq_zero.mp owed turn (List.mem_filter.mpr ⟨among, isOfJobs⟩) isOwed

/-- When nothing is owed to any job all of them have ended. -/
theorem Lives.isDone {turn : Turn} (h : plan.Lives places dues (turn :: queue) t)
    (owed : (queue.filter Turn.isOfJobs).countP Turn.isOwed = 0)
    (closed : (t.tallies.map Tally.open).sum = 0)
    (listed : ∀ {job good}, plan.goods[job]? = some good →
      (dues.filter (·.job == job)).map Due.good = good) :
    plan.IsDone t ∧ ∀ turn ∈ queue, (∃ i, turn = .goOn i) ∨ turn = .finishAll := by
  have none {job : Nat} (among : job < plan.jobs.length) : t.unended job = 0 ∧
      (((turn :: queue).filter Turn.isOfParts).countP (t.isUnheard job)) = 0 := by
    obtain ⟨-, -, tally, -, -, there⟩ := h.exists_job among
    have left := h.counts.left there
    have zero := left_eq_zero_of_closed closed there
    omega
  have owner {i : Nat} {standing : Standing σ α} (there : t.standing? i = some standing) :
      ∃ part ∈ t.parts, part.standing = standing ∧ part.job < plan.jobs.length ∧
        t.owners[i]? = some part.job := by
    obtain ⟨part, found, rfl⟩ := Option.map_eq_some_iff.mp there
    have owner : t.owners[i]? = some part.job := by simp [Turns.owners, found]
    exact ⟨part, List.mem_of_getElem? found, rfl,
      h.counts.owners _ (List.mem_of_getElem? owner), owner⟩
  refine ⟨⟨fun {i standing} there => ?_, fun {job good} given => ?_⟩, fun next hnext => ?_⟩
  · obtain ⟨part, hpart, rfl, among, -⟩ := owner there
    have left := List.sum_eq_zero_iff_forall_eq_nat.mp (none among).1 _
      (List.mem_map_of_mem hpart)
    by_contra runs
    simp [Part.left, runs] at left
  · have among : job < plan.jobs.length := by
      rw [plan.parts.length_eq]
      exact (List.getElem?_eq_some_iff.mp given).1
    exact h.values (listed given) (none among).1
  · have unowed (isOwed : next.isOwed) (isOfJobs : next.isOfJobs) : False :=
      notMem_of_isOwed owed isOwed isOfJobs hnext
    cases next with
    | goOn i => exact .inl ⟨i, rfl⟩
    | finishAll => exact .inr rfl
    | hearPart i =>
        have listed : .hearPart i ∈ (turn :: queue).filter Turn.isOfParts :=
          List.mem_filter.mpr ⟨List.mem_cons_of_mem _ hnext, rfl⟩
        obtain ⟨standing, there, -⟩ := h.counts.heard listed
        obtain ⟨part, -, -, among, owner⟩ := owner there
        exact absurd (beq_iff_eq.mpr owner) (List.countP_eq_zero.mp (none among).2 _ listed)
    | _ => exact (unowed rfl rfl).elim

theorem Lives.filter_dues (h : plan.Lives places dues queue t) {job : Nat} (new : job ∉ t.owners) :
    dues.filter (·.job == job) = [] := by
  have jobs : t.parts.map Part.job = dues.map Due.job := by
    rw [← List.forall₂_eq_eq_eq, List.forall₂_map_left_iff, List.forall₂_map_right_iff]
    exact h.meets.imp fun _ _ => Part.Meets.job
  refine List.filter_eq_nil_iff.mpr fun due hdue ours => new ?_
  rw [Turns.owners, jobs, ← beq_iff_eq.mp ours]
  exact List.mem_map_of_mem hdue

/-- Nothing is there of a job that is to begin. -/
theorem Lives.unbegun (h : plan.Lives places dues (.begin job :: queue) t) :
    job < plan.jobs.length ∧ job ∉ t.owners ∧ t.unended job = 0 ∧
      ∀ {tally : Tally}, t.tallies[job]? = some tally → tally.left = 0 := by
  obtain ⟨among, -⟩ := h.ledger.begins List.mem_cons_self
  have new := h.counts.begins List.mem_cons_self
  obtain ⟨unended, unheard⟩ :=
    Turns.left_eq_zero new ((.begin job :: queue).filter Turn.isOfParts)
  refine ⟨among, new, unended, fun there => ?_⟩
  have left := h.counts.left there
  omega

/-- What is known of a job that is to be finished, be it that its parts have all ended or that it
has none. -/
theorem Lives.finishes {turn : Turn} {job : Nat} (h : plan.Lives places dues (turn :: queue) t)
    (ends : turn = .finish job ∨ turn = .begin job ∧ plan.goods[job]? = some []) :
    ∃ found good tally, plan.jobs[job]? = some found ∧ plan.goods[job]? = some good ∧
      t.tallies[job]? = some tally ∧ tally.left = 0 ∧
      (dues.filter (·.job == job)).map Due.good = good ∧
      List.Forall₂ (fun good a => good a) good (t.values job) := by
  rcases ends with rfl | ⟨rfl, none⟩
  · obtain ⟨among, begun, zero⟩ := h.ledger.finishes List.mem_cons_self
    obtain ⟨found, good, tally, at', given, there⟩ := h.exists_job among
    have listed := h.begun given fun again =>
      begun (List.mem_filter.mpr ⟨again, rfl⟩)
    have left := h.counts.left there
    have zero := zero there
    exact ⟨found, good, tally, at', given, there, zero, listed, h.values listed (by omega)⟩
  · obtain ⟨among, new, unended, zero⟩ := h.unbegun
    obtain ⟨found, good, tally, at', given, there⟩ := h.exists_job among
    cases none.symm.trans given
    have listed : (dues.filter (·.job == job)).map Due.good = [] := by rw [h.filter_dues new]; rfl
    exact ⟨found, [], tally, at', given, there, zero there, listed, h.values listed unended⟩

/-- How a job ends that is finished. -/
theorem finishJob_eq {job : Nat} {found : Job σ α} {tally : Tally} (at' : t.jobs[job]? = some found)
    (there : t.tallies[job]? = some tally) (unfaulted : tally.fault = none) {result : Result Unit}
    {s : σ} (finished : (found.finish (t.values job)).run t.state = (result, s)) :
    t.finishJob job = { t with state := s }.endJob job (Result.fault? result) := by
  rw [Turns.finishJob, there, at']
  simp only [Option.bind_some, unfaulted, finished]
  cases result <;> rfl

/-- A job is finished that is the only one, and that is all. -/
theorem Lives.finishSingle {turn : Turn} (h : plan.Lives places dues (turn :: queue) t)
    (ends : turn = .finish job ∨ turn = .begin job ∧ plan.goods[job]? = some [])
    (single : plan.single) :
    plan.Rests queue (t.finishJob job) ∧ (t.finishJob job).line = t.line := by
  obtain ⟨found, good, tally, at', given, there, zero, listed, values⟩ := h.finishes ends
  generalize finished : (found.finish (t.values job)).run t.state = run
  obtain ⟨result, s⟩ := run
  have isOwed : turn.isOwed ∧ turn.isOfJobs := by
    rcases ends with rfl | ⟨rfl, -⟩ <;> exact ⟨rfl, rfl⟩
  have ledger := h.ledger
  rw [List.filter_cons_of_pos isOwed.2] at ledger
  have one := plan.alone single
  have some := (h.alone single).1
  have left := ledger.left
  have most := ledger.few
  rw [List.countP_cons_of_pos isOwed.1] at left
  have first {other : Nat} (inside : other < plan.jobs.length) : other = 0 := by omega
  obtain rfl := first (List.getElem?_eq_some_iff.mp at').1
  have undecided := ledger.total_undecided_of_left some
  have noted : (t.total.note (Result.fault? result)).fault = Result.fault? result := by
    cases result <;> simp [Tally.note, undecided, Result.fault?, ledger.unfaulted.1]
  obtain ⟨done, idle⟩ := h.isDone (by omega) (by omega) fun {other good'} given' => by
    have inside := (List.getElem?_eq_some_iff.mp given').1
    rw [← plan.parts.length_eq] at inside
    obtain rfl := first inside
    cases given.symm.trans given'
    exact listed
  have ended : t.finishJob 0 = { t with
      state := s
      faults := t.faults ++ ((Result.fault? result).map (0, ·)).toList
      total := t.total.note (Result.fault? result)
      isOver := true } := by
    rw [finishJob_eq (h.jobs ▸ at') there (h.ledger.undecided there).1 finished, Turns.endJob]
    exact if_pos (h.single.trans single)
  rw [ended]
  refine ⟨⟨rfl, idle, ⟨done.ended, done.values⟩, ?_⟩, rfl⟩
  cases result with
  | ok _ =>
      obtain ⟨inv, -, leaves⟩ := plan.finish at' (t.values 0) t.state h.state finished
      exact .inl ⟨noted, inv, fun job among => first among ▸ leaves rfl⟩
  | error fault =>
      have failed : ((found.finish (t.values 0)).run t.state).1 = .error fault := by rw [finished]
      exact .inr ⟨fault, noted, 0, found, good, _, _, at', given, values, h.state, failed⟩

/-- A job ends that has left behind what it is to, or with a fault that is yet to be heard of. -/
theorem Finished.endJob {turn : Turn} (h : plan.Finished (turn :: queue) t)
    (ends : turn = .finish job ∨ turn = .begin job)
    (kept : ∀ {other}, other ∈ turn :: queue → turn ≠ other → other ∈ queue')
    (tallies : t'.tallies = t.tallies) (faults : t.faults ⊆ t'.faults)
    (stays : ∀ other ≠ job, plan.left other t.state → plan.left other t'.state)
    (ended : plan.left job t'.state ∨
      .hearJob job ∈ queue' ∧ ∃ fault, (job, fault) ∈ t'.faults) : plan.Finished queue' t' := by
  intro other tally there none begun unfinished
  by_cases same : other = job
  · rw [same]
    exact ended
  · have apart : turn ≠ .begin other ∧ turn ≠ .finish other ∧ turn ≠ .hearJob other := by
      rcases ends with rfl | rfl <;> simp [Ne.symm same]
    refine (h other tally (tallies ▸ there) none (fun again => begun (kept again apart.1))
      fun again => unfinished (kept again apart.2.1)).imp (stays other same) ?_
    rintro ⟨unheard, fault, failed⟩
    exact ⟨kept unheard apart.2.2, fault, faults failed⟩

/-- One of several jobs is finished, and its end is news. -/
theorem Goes.finishSeveral {pending : List Turn} {m : Nat} {turn : Turn}
    (h : plan.Goes places (m + 1) (turn :: (pending ++ t.line)) t)
    (ends : turn = .finish job ∨ turn = .begin job ∧ plan.goods[job]? = some [])
    (several : ¬ plan.single) :
    plan.Goes places m (pending ++ (t.finishJob job).line) (t.finishJob job) := by
  obtain ⟨dues, lives, served, few⟩ := h
  obtain ⟨found, good, tally, at', given, there, zero, listed, values⟩ := lives.finishes ends
  rcases finished : (found.finish (t.values job)).run t.state with ⟨result, s⟩
  obtain ⟨inv, stays, leaves⟩ := plan.finish at' (t.values job) t.state lives.state finished
  have queue : pending ++ (t.line ++ [.hearJob job]) = pending ++ t.line ++ [.hearJob job] :=
    (List.append_assoc _ _ _).symm
  have kept {other : Turn} (hother : other ∈ turn :: (pending ++ t.line)) (apart : turn ≠ other) :
      other ∈ pending ++ (t.line ++ [.hearJob job]) := by
    rw [queue]
    exact List.mem_append_left _ ((List.mem_cons.mp hother).resolve_left apart.symm)
  have ended : t.finishJob job = { t with
      state := s
      faults := t.faults ++ ((Result.fault? result).map (job, ·)).toList
      line := t.line ++ [.hearJob job] } := by
    rw [finishJob_eq (lives.jobs ▸ at') there (lives.ledger.undecided there).1 finished,
      Turns.endJob]
    exact if_neg (lives.single ▸ several)
  rw [ended]
  refine ⟨dues, ⟨lives.jobs, lives.single, lives.goesOn, fun alone => absurd alone several, inv, ?_,
    lives.meets, ?_, ?_, ?_, ?_, ?_⟩, served, ?_⟩
  · intro pair hpair
    rcases List.mem_append.mp hpair with earlier | now
    · exact lives.faults pair earlier
    · obtain ⟨fault, same, rfl⟩ := Option.map_eq_some_iff.mp (Option.mem_toList.mp now)
      refine ⟨job, found, good, t.values job, t.state, at', given, values, lives.state, ?_⟩
      rw [finished]
      exact Result.fault?_eq_some_iff.mp same
  · intro other good' given' begun
    by_cases same : other = job
    · subst same
      cases given.symm.trans given'
      exact listed
    · refine lives.begun given' fun again => begun (kept again ?_)
      rcases ends with rfl | ⟨rfl, -⟩ <;> simp [Ne.symm same]
  · refine lives.finished.endJob (ends.imp_right And.left) kept rfl (List.subset_append_left _ _)
      stays ?_
    cases result with
    | ok _ => exact .inl (leaves rfl)
    | error fault =>
        refine .inr ⟨?_, fault, List.mem_append_right _ (List.mem_singleton_self _)⟩
        rw [queue]
        exact List.mem_append_right _ (List.mem_singleton_self _)
  · refine lives.seats.congr rfl rfl rfl fun {k} hk => kept hk ?_
    rcases ends with rfl | ⟨rfl, -⟩ <;> simp
  · have counts : t.Counts plan.jobs.length ((pending ++ t.line).filter Turn.isOfParts) := by
      have counts := lives.counts
      rcases ends with rfl | ⟨rfl, -⟩
      · rwa [List.filter_cons_of_neg Bool.false_ne_true] at counts
      · rw [List.filter_cons_of_pos rfl] at counts
        exact counts.begun
    have none : [Turn.hearJob job].filter Turn.isOfParts = [] := rfl
    rw [queue, List.filter_append, none, List.append_nil]
    exact counts.congr rfl rfl
  · have isOfJobs : turn.isOfJobs := by rcases ends with rfl | ⟨rfl, -⟩ <;> rfl
    have ledger := lives.ledger
    rw [List.filter_cons_of_pos isOfJobs] at ledger
    rw [queue, List.filter_append]
    exact ledger.endJob (ends.symm.imp_left And.left)
  · have cost : 3 ≤ turn.cost := by rcases ends with rfl | ⟨rfl, -⟩ <;> simp [Turn.cost]
    rw [queue]
    simp [funds] at few ⊢
    have news : (Turn.hearJob job).cost = 2 := rfl
    omega

/-- A job is finished. -/
theorem Goes.finishJob {pending : List Turn} {m : Nat} {turn : Turn}
    (h : plan.Goes places (m + 1) (turn :: (pending ++ t.line)) t)
    (ends : turn = .finish job ∨ turn = .begin job ∧ plan.goods[job]? = some []) :
    plan.Stage places m (pending ++ (t.finishJob job).line) (t.finishJob job) := by
  by_cases single : plan.single
  · obtain ⟨dues, lives, -, -⟩ := h
    obtain ⟨rests, line⟩ := lives.finishSingle ends single
    rw [line]
    exact .rests rests
  · exact .goes (h.finishSeveral ends single)

/-- What is expected of the parts of a job. -/
def duesOf (job : Nat) (good : List (α → Prop)) : List (Due α) :=
  good.map fun good => ⟨job, good, mostPauses + 5⟩

/-- The values that are expected of the parts of a job, after it has got its parts. -/
theorem goods_append_duesOf {good : List (α → Prop)}
    (new : dues.filter (·.job == job) = []) (other : Nat) :
    ((dues ++ duesOf job good).filter (·.job == other)).map Due.good =
      if other = job then good else (dues.filter (·.job == other)).map Due.good := by
  rw [List.filter_append, List.map_append, duesOf, List.filter_map]
  by_cases same : other = job
  · subst same
    simp [new, Function.comp_def]
  · simp [same, Ne.symm same, Function.comp_def]

/-- A job gets its parts, and all of them are in line. -/
theorem Goes.addParts {pending : List Turn} {m : Nat}
    (h : plan.Goes places (m + 1) (.begin job :: (pending ++ t.line)) t)
    {good : List (α → Prop)} (given : plan.goods[job]? = some good)
    {activities : List (Activity σ α)}
    (delivers : List.Forall₂ (fun good x => Activity.Delivers plan.toRules good mostPauses x) good
      activities) (some : activities ≠ []) :
    plan.Goes places m (pending ++ (t.addParts job activities).line)
      (t.addParts job activities) := by
  obtain ⟨dues, lives, served, few⟩ := h
  have ledger := lives.ledger
  rw [List.filter_cons_of_pos rfl] at ledger
  have counts := lives.counts
  rw [List.filter_cons_of_pos rfl] at counts
  obtain ⟨among, new, -, zero⟩ := lives.unbegun
  obtain ⟨-, -, tally, -, -, there⟩ := lives.exists_job among
  have zero := zero there
  have unbegun := lives.filter_dues new
  have long := delivers.length_eq
  have most := plan.few good (List.mem_of_getElem? given)
  have parts : (t.addParts job activities).parts =
      t.parts ++ activities.map fun activity => ⟨job, .fresh activity⟩ := rfl
  let goOns : List Turn := ((List.range activities.length).map (t.parts.length + ·)).map .goOn
  have queue : pending ++ (t.addParts job activities).line = pending ++ t.line ++ goOns := by
    simp [goOns, Turns.addParts, Function.comp_def]
  have goOns_parts : goOns.filter Turn.isOfParts = [] := filter_map_goOn (fun _ => rfl) _
  have goOns_jobs : goOns.filter Turn.isOfJobs = [] := filter_map_goOn (fun _ => rfl) _
  have cost : (goOns.map Turn.cost).sum = activities.length := by
    simp [goOns, Function.comp_def, Turn.cost]
  have turns : ((duesOf job good).map Due.turns).sum = activities.length * (mostPauses + 5) := by
    simp [duesOf, Function.comp_def, long]
  refine ⟨dues ++ duesOf job good, ⟨lives.jobs, lives.single, lives.goesOn, fun alone => ?_,
    lives.state, lives.faults, ?_, ?_, ?_, ?_, ?_, ?_⟩, served.append parts, ?_⟩
  · obtain ⟨open', unheard⟩ := lives.alone alone
    refine ⟨open', fun {other} heard => @unheard other ?_⟩
    rw [queue, List.filter_append, goOns_jobs, List.append_nil] at heard
    rw [List.filter_cons_of_pos rfl]
    exact List.mem_cons_of_mem _ heard
  · refine List.rel_append lives.meets ?_
    rw [duesOf, List.forall₂_map_left_iff, List.forall₂_map_right_iff]
    exact delivers.flip.imp fun x good delivers => ⟨rfl, mostPauses, rfl, delivers⟩
  · intro other good' given' begun
    rw [goods_append_duesOf unbegun]
    split
    · next same =>
      subst same
      exact Option.some.inj (given.symm.trans given')
    · next apart =>
      refine lives.begun given' fun again => begun ?_
      rw [queue]
      exact List.mem_append_left _ (by simpa [apart] using again)
  · refine lives.finished.setTally rfl rfl (fun other hother isOfJobs => ?_) fun none => ?_
    · rw [queue]
      exact (List.mem_cons.mp hother).symm.imp_left (List.mem_append_left _)
    · exact absurd (List.length_eq_zero_iff.mp none) some
  · refine lives.seats.append parts rfl rfl (fun {k} hk => ?_) fun n hn => ?_
    · rw [queue]
      exact List.mem_append_left _ (by simpa using hk)
    · rw [queue]
      exact List.mem_append_right _ (List.mem_map_of_mem (List.mem_map_of_mem (by simpa using hn)))
  · rw [queue, List.filter_append, goOns_parts, List.append_nil]
    refine counts.begin among (fun again => ledger.begin_notMem ?_) activities rfl rfl
    exact List.mem_filter.mpr ⟨(List.mem_filter.mp again).1, rfl⟩
  · rw [queue, List.filter_append, goOns_jobs, List.append_nil]
    obtain ⟨n, long'⟩ := Nat.exists_eq_succ_of_ne_zero (mt List.length_eq_zero_iff.mp some)
    have begun := ledger.begin there zero n
    rw [← Nat.succ_eq_add_one, ← long'] at begun
    exact begun
  · rw [queue]
    simp [funds, turns, cost] at few ⊢
    have begins : (Turn.begin job).cost = 3 + mostParts * (mostPauses + 6) := rfl
    simp only [mostParts, mostPauses] at begins most ⊢
    omega

/-- A job begins. -/
theorem Goes.beginJob {pending : List Turn} {m : Nat}
    (h : plan.Goes places (m + 1) (.begin job :: (pending ++ t.line)) t) :
    plan.Stage places m (pending ++ (t.beginJob job).line) (t.beginJob job) := by
  obtain ⟨dues, lives, -, -⟩ := id h
  obtain ⟨among, -⟩ := lives.ledger.begins List.mem_cons_self
  obtain ⟨found, good, tally, at', given, there⟩ := lives.exists_job among
  obtain ⟨activities, splits, delivers⟩ : ∃ activities, found.split t.state = .ok activities ∧
      List.Forall₂ (fun good x => Activity.Delivers plan.toRules good mostPauses x) good
        activities := by
    obtain ⟨inside, rfl⟩ := List.getElem?_eq_some_iff.mp at'
    obtain ⟨inside', rfl⟩ := List.getElem?_eq_some_iff.mp given
    exact (List.forall₂_iff_get.mp plan.parts).2 job inside inside' t.state lives.state
  have split? : (t.jobs[job]?).map (·.split t.state) = some (.ok activities) := by
    rw [lives.jobs, at', Option.map_some, splits]
  rw [Turns.beginJob]
  simp only [split?]
  split
  · next refused => cases refused
  · next refused => cases refused
  · next same =>
    cases same
    rw [List.forall₂_nil_right_iff.mp delivers] at given
    exact h.finishJob (.inr ⟨rfl, given⟩)
  · next activities' some same =>
    cases same
    exact .goes (h.addParts given delivers some)

/-- How the end of a job is heard of that had no fault. -/
theorem hearJob_eq (succeeded : t.faults.lookup job = none)
    (undecided : t.total.decided = false) :
    t.hearJob job = { t with
      total := t.total.note none
      line := t.line ++ (t.total.note none).next .finishAll } := by
  rw [Turns.hearJob]
  simp only [succeeded, undecided, Bool.not_false, Bool.and_true]
  cases decided : (t.total.note none).decided <;> simp [Tally.next, decided, Turns.lineUp]

/-- The first fault that is heard of decides how it ends. -/
theorem isDecided_hearJob {fault : Fault} (several : t.single = false)
    (failed : t.faults.lookup job = some fault) (undecided : t.total.decided = false) :
    (t.hearJob job).IsDecided fault := by
  have noted : t.total.note (some fault) = { t.total with decided := true, fault } := by
    simp [Tally.note, undecided]
  rw [Turns.hearJob]
  simp only [failed, noted, undecided, Bool.not_false, Bool.and_self, if_true]
  exact ⟨several, rfl, rfl⟩

/-- Whoever waits for all jobs hears of the end of one. -/
theorem Goes.hearJob {pending : List Turn} {m : Nat}
    (h : plan.Goes places (m + 1) (.hearJob job :: (pending ++ t.line)) t) :
    plan.Stage places m (pending ++ (t.hearJob job).line) (t.hearJob job) := by
  obtain ⟨dues, lives, served, few⟩ := h
  have ledger := lives.ledger
  rw [List.filter_cons_of_pos rfl] at ledger
  have several : ¬ plan.single := fun alone =>
    (lives.alone alone).2 (List.mem_filter.mpr ⟨List.mem_cons_self, rfl⟩)
  have left := ledger.left
  rw [List.countP_cons_of_pos rfl] at left
  have undecided := ledger.total_undecided_of_left (by omega)
  cases failed : t.faults.lookup job with
  | some fault =>
      obtain ⟨before, after, among, -⟩ := List.lookup_eq_some_iff.mp failed
      have fails : plan.Fails fault := lives.faults (job, fault) (by simp [among])
      have several := Bool.eq_false_iff.mpr several
      exact .fails several (isDecided_hearJob (lives.single.trans several) failed undecided) fails
  | none =>
      have counts := lives.counts
      rw [List.filter_cons_of_neg Bool.false_ne_true] at counts
      have cost := cost_next (t.total.note none) .finishAll
      rw [hearJob_eq failed undecided]
      refine .goes ⟨dues, lives.note ⟨by simp, by simp⟩ rfl rfl (fun alone => absurd alone several)
        ?_ ?_ ?_, served, ?_⟩
      · intro other tally there none begun unfinished
        refine (lives.finished other tally there none (fun again => begun ?_) fun again =>
          unfinished ?_).imp_right ?_
        · exact List.mem_append_left _ (by simpa using again)
        · exact List.mem_append_left _ (by simpa using again)
        · rintro ⟨unheard, fault, among⟩
          refine ⟨List.mem_append_left _ ((List.mem_cons.mp unheard).resolve_left ?_), fault, among⟩
          rintro same
          cases same
          simpa using List.lookup_eq_none_iff.mp failed (job, fault) among
      · rw [List.filter_append, Tally.filter_next_of_neg Bool.false_ne_true, List.append_nil]
        exact counts.congr rfl rfl
      · rw [List.filter_append, Tally.filter_next_of_pos rfl]
        exact ledger.hearJob
      · simp [funds, Turn.cost] at few cost ⊢
        omega

/-- When all jobs have been heard of it is over. -/
theorem Goes.finishAll {m : Nat} (h : plan.Goes places m (.finishAll :: queue) t) :
    plan.Rests queue { t with isOver := true } := by
  obtain ⟨dues, lives, -, -⟩ := h
  have ledger := lives.ledger
  rw [List.filter_cons_of_pos rfl] at ledger
  have none := ledger.last.mpr List.mem_cons_self
  have left := ledger.left
  rw [List.countP_cons_of_neg Bool.false_ne_true] at left
  have several : ¬ plan.single := fun alone => by
    have some := (lives.alone alone).1
    omega
  have owed : (queue.filter Turn.isOfJobs).countP Turn.isOwed = 0 := by omega
  have closed : (t.tallies.map Tally.open).sum = 0 := by omega
  have unowed {turn : Turn} (isOwed : turn.isOwed) (isOfJobs : turn.isOfJobs) :
      turn ∉ .finishAll :: queue := by
    rw [List.mem_cons, not_or]
    refine ⟨?_, notMem_of_isOwed owed isOwed isOfJobs⟩
    rintro rfl
    cases isOwed
  obtain ⟨done, idle⟩ := lives.isDone owed closed fun given => lives.begun given (unowed rfl rfl)
  refine ⟨rfl, idle, ⟨done.ended, done.values⟩, ?_⟩
  refine .inl ⟨ledger.unfaulted.1, lives.state, fun job among => ?_⟩
  obtain ⟨-, -, tally, -, -, there⟩ := lives.exists_job among
  have none := left_eq_zero_of_closed closed there
  refine (lives.finished job tally there none ?_ ?_).resolve_right fun unheard => ?_
  · exact unowed rfl rfl
  · exact unowed rfl rfl
  · exact unowed rfl rfl unheard.1

end ScriptVet.Plan
