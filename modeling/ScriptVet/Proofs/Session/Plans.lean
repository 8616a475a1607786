import ScriptVet.Proofs.Session.Accounts

/-!
# Jobs under way

A plan says what is known of jobs before they are begun: an invariant of the common state that all
their work keeps, what the value of each part is like, whenever the part has its turns, and what
each job leaves behind. Everybody pays for the turns that are to come of it in advance, so the turns
that are left get fewer with each turn that is taken.
-/

namespace ScriptVet

variable {σ α : Type}

/-- What all work on a common state keeps to. -/
structure Rules (σ : Type) where
  /-- What holds whenever somebody has a turn. -/
  inv : σ → Prop
  /-- What parts may do to the state from one pause to the next. -/
  allowed : σ → σ → Prop

/-- The course keeps to the rules, pauses at most so often and ends with a value as described. -/
def Course.Delivers (rules : Rules σ) (good : α → Prop) (most : Nat) (course : Course σ α) (s : σ) :
    Prop :=
  course.Ensures rules.inv (fun result s => rules.inv s ∧ ∃ a, result = .ok a ∧ good a) ∧
    course.Strides rules.allowed s most

/-- Whenever the activity is begun, its course delivers. -/
def Activity.Delivers (rules : Rules σ) (good : α → Prop) (most : Nat) (x : Activity σ α) : Prop :=
  ∀ s, rules.inv s → (x s).Delivers rules good most s

/-- What is left to do delivers, and pays for so many turns: one for each pause, one to be called,
and those that come of the end. -/
def Standing.Delivers (rules : Rules σ) (good : α → Prop) : Standing σ α → Nat → Prop
  | .fresh x, n | .waits x, n => ∃ most, n = most + 5 ∧ x.Delivers rules good most
  | .called x, n => ∃ most, n = most + 4 ∧ x.Delivers rules good most
  | .paused _ rest, n => ∃ most, n = most + 4 ∧ Activity.Delivers rules good most rest
  | .ended result, _ => ∃ a, result = .ok a ∧ good a

/-- What a part does that goes on delivers, and the rest is paid for. -/
theorem Standing.Delivers.goOn {rules : Rules σ} {good : α → Prop} {standing : Standing σ α}
    {n : Nat} (h : standing.Delivers rules good n) {x : Activity σ α} {s : σ}
    (next : standing = .fresh x ∨ standing = .called x ∨ ∃ pause, standing = .paused pause x)
    (inv : rules.inv s) : ∃ most, most + 4 ≤ n ∧ (x s).Delivers rules good most s := by
  rcases next with rfl | rfl | ⟨pause, rfl⟩
  · obtain ⟨most, rfl, delivers⟩ := h
    exact ⟨most, Nat.le_succ _, delivers s inv⟩
  · obtain ⟨most, rfl, delivers⟩ := h
    exact ⟨most, Nat.le_refl _, delivers s inv⟩
  · obtain ⟨most, rfl, delivers⟩ := h
    exact ⟨most, Nat.le_refl _, delivers s inv⟩

/-- What is expected of a part: its job, its value and how many turns it pays for. -/
structure Due (α : Type) where
  job : Nat
  good : α → Prop
  turns : Nat

/-- The part belongs to the job, and what is left to do delivers the value. -/
structure Part.Meets (rules : Rules σ) (part : Part σ α) (due : Due α) : Prop where
  job : part.job = due.job
  delivers : part.standing.Delivers rules due.good due.turns

/-- How many parts a job has at most. -/
def mostParts : Nat := 5

/-- How often a part pauses at most. -/
def mostPauses : Nat := 6

/-- Jobs with what is known of them: rules that all their work keeps to, what the values of their
parts are like, and what they leave behind. -/
structure Plan (σ α : Type) extends Rules σ where
  jobs : List (Job σ α)
  /-- There is one job, and nobody else waits for it. -/
  single : Bool
  alone : single → jobs.length = 1
  goods : List (List (α → Prop))
  parts : List.Forall₂ (fun job good => ∀ s, inv s → ∃ activities,
    job.split s = .ok activities ∧
      List.Forall₂ (fun good x => Activity.Delivers toRules good mostPauses x) good activities)
    jobs goods
  few : ∀ good ∈ goods, good.length ≤ mostParts
  /-- What holds once a job has been finished. -/
  left : Nat → σ → Prop
  stays : ∀ {job s s'}, inv s → allowed s s' → left job s → left job s'
  finish : ∀ {job found}, jobs[job]? = some found → ∀ values s, inv s → ∀ {result s'},
    (found.finish values).run s = (result, s') →
      inv s' ∧ (∀ other ≠ job, left other s → left other s') ∧ (result = .ok () → left job s')

/-- What a turn pays for: itself, and those that may come of it. -/
def Turn.cost : Turn → Nat
  | .begin _ => 3 + mostParts * (mostPauses + 6)
  | .goOn _ => 1
  | .hearPart _ => 4
  | .finish _ => 3
  | .hearJob _ => 2
  | .finishAll => 1

/-- All turns that are paid for. -/
def funds (dues : List (Due α)) (queue : List Turn) : Nat :=
  (dues.map Due.turns).sum + (queue.map Turn.cost).sum

/-- When one part comes to another standing, so much of what it pays for is used up. -/
theorem exists_dues {rules : Rules σ} {parts : List (Part σ α)} {dues : List (Due α)}
    (h : List.Forall₂ (Part.Meets rules) parts dues) {i : Nat} {part : Part σ α}
    (there : parts[i]? = some part) {new : Standing σ α} (paid : Nat)
    (delivers : ∀ {good n}, part.standing.Delivers rules good n →
      ∃ m, new.Delivers rules good m ∧ m + paid ≤ n) :
    ∃ dues' : List (Due α),
      List.Forall₂ (Part.Meets rules) (parts.modify i fun part => { part with standing := new })
        dues' ∧
      (dues'.map fun due => (due.job, due.good)) = (dues.map fun due => (due.job, due.good)) ∧
      (dues'.map Due.turns).sum + paid ≤ (dues.map Due.turns).sum := by
  induction h generalizing i with
  | nil => cases there
  | @cons first due parts dues meets rest ih =>
      cases i with
      | zero =>
          obtain rfl := Option.some.inj there
          obtain ⟨m, now, fewer⟩ := delivers meets.delivers
          refine ⟨{ due with turns := m } :: dues, .cons ⟨meets.job, now⟩ rest, rfl, ?_⟩
          simp only [List.map_cons, List.sum_cons]
          omega
      | succ i =>
          obtain ⟨dues', meets', same, fewer⟩ := ih there
          refine ⟨due :: dues', .cons meets meets', ?_, ?_⟩
          · rw [List.map_cons, List.map_cons, same]
          · simp only [List.map_cons, List.sum_cons]
            omega

/-- Which parts there are of a job is told by the jobs and values of all parts. -/
theorem goods_congr {dues dues' : List (Due α)}
    (same : (dues'.map fun due => (due.job, due.good)) = dues.map fun due => (due.job, due.good))
    (job : Nat) :
    (dues'.filter (·.job == job)).map Due.good = (dues.filter (·.job == job)).map Due.good := by
  have goods (dues : List (Due α)) : (dues.filter (·.job == job)).map Due.good =
      ((dues.map fun due => (due.job, due.good)).filter (·.1 == job)).map Prod.snd := by
    rw [List.filter_map, List.map_map]
    rfl
  rw [goods, goods, same]

theorem mem_iff_of_filter_eq {p : Turn → Bool} {queue queue' : List Turn}
    (same : queue'.filter p = queue.filter p) {turn : Turn} (h : p turn) :
    turn ∈ queue' ↔ turn ∈ queue := by
  have listed (turns : List Turn) : turn ∈ turns ↔ turn ∈ turns.filter p := by
    rw [List.mem_filter, and_iff_left h]
  rw [listed, same, ← listed]

theorem filter_map_goOn {p : Turn → Bool} (idle : ∀ k, p (.goOn k) = false) (ks : List Nat) :
    (ks.map Turn.goOn).filter p = [] :=
  List.filter_eq_nil_iff.mpr (by simp [idle])

namespace Plan

variable (plan : Plan σ α)

/-- The fault comes up when a job is finished with values as described. -/
def Fails (fault : Fault) : Prop :=
  ∃ (job : Nat) (found : Job σ α) (good : List (α → Prop)) (values : List α) (s : σ),
    plan.jobs[job]? = some found ∧ plan.goods[job]? = some good ∧
      List.Forall₂ (fun good a => good a) good values ∧ plan.inv s ∧
        ((found.finish values).run s).1 = .error fault

/-- Jobs of which nothing is left to do have left behind what they are to, unless it is yet to be
heard that they ended in a fault. -/
def Finished (queue : List Turn) (t : Turns σ α) : Prop :=
  ∀ job tally, t.tallies[job]? = some tally → tally.left = 0 → .begin job ∉ queue →
    .finish job ∉ queue →
      plan.left job t.state ∨ .hearJob job ∈ queue ∧ ∃ fault, (job, fault) ∈ t.faults

/-- The jobs are under way: whatever is left to do delivers, and everybody is in line who has to
be. -/
structure Lives (places : Nat) (dues : List (Due α)) (queue : List Turn) (t : Turns σ α) : Prop
    where
  jobs : t.jobs = plan.jobs
  single : t.single = plan.single
  goesOn : t.isOver = false
  alone : plan.single → 0 < t.total.left ∧ ∀ {job}, .hearJob job ∉ queue.filter Turn.isOfJobs
  state : plan.inv t.state
  faults : ∀ pair ∈ t.faults, plan.Fails pair.2
  meets : List.Forall₂ (Part.Meets plan.toRules) t.parts dues
  begun : ∀ {job good}, plan.goods[job]? = some good → .begin job ∉ queue →
    (dues.filter (·.job == job)).map Due.good = good
  finished : plan.Finished queue t
  seats : t.Seats places queue
  counts : t.Counts plan.jobs.length (queue.filter Turn.isOfParts)
  ledger : Turns.Ledger plan.jobs.length (queue.filter Turn.isOfJobs) t.tallies t.total

variable {plan} {places i job : Nat} {dues : List (Due α)} {queue queue' : List Turn}
  {t t' : Turns σ α}

theorem Finished.congr (h : plan.Finished queue t)
    (frame : (t'.faults, t'.tallies) = (t.faults, t.tallies))
    (stays : ∀ {job}, plan.left job t.state → plan.left job t'.state)
    (owed : queue'.filter Turn.isOfJobs = queue.filter Turn.isOfJobs) :
    plan.Finished queue' t' := by
  obtain ⟨faults, tallies⟩ := Prod.mk.inj frame
  intro job tally there none begun finished
  rw [mem_iff_of_filter_eq owed rfl] at begun finished ⊢
  rw [faults]
  exact (h job tally (tallies ▸ there) none begun finished).imp_left stays

/-- A part that has not ended comes to another standing. -/
theorem Lives.move (h : plan.Lives places dues queue t) {old : Standing σ α}
    (new : Standing σ α) (there : t.standing? i = some old) (runs : old.isEnded = false)
    (parts : t'.parts = (t.setStanding i new).parts)
    (frame : (t'.jobs, t'.single, t'.isOver, t'.faults, t'.tallies, t'.total) =
      (t.jobs, t.single, t.isOver, t.faults, t.tallies, t.total))
    (state : plan.inv t'.state)
    (stays : ∀ {job}, plan.left job t.state → plan.left job t'.state) (paid : Nat)
    (delivers : ∀ {good n}, old.Delivers plan.toRules good n →
      ∃ m, new.Delivers plan.toRules good m ∧ m + paid ≤ n)
    (seats : t'.Seats places queue')
    (owed : queue'.filter Turn.isOfJobs = queue.filter Turn.isOfJobs)
    (news : queue'.filter Turn.isOfParts =
      queue.filter Turn.isOfParts ++ if new.isEnded then [.hearPart i] else []) :
    ∃ dues', plan.Lives places dues' queue' t' ∧
      (dues'.map Due.turns).sum + paid ≤ (dues.map Due.turns).sum := by
  simp only [Prod.mk.injEq] at frame
  obtain ⟨jobs, single, goesOn, faults, tallies, total⟩ := frame
  obtain ⟨part, found, rfl⟩ := Option.map_eq_some_iff.mp there
  obtain ⟨dues', meets, same, fewer⟩ := exists_dues h.meets found paid delivers
  refine ⟨dues', ⟨jobs.trans h.jobs, single.trans h.single, goesOn.trans h.goesOn, ?_, state,
    faults ▸ h.faults, ?_, ?_, h.finished.congr (by rw [faults, tallies]) stays owed, seats, ?_,
    ?_⟩, fewer⟩
  · rw [total, owed]
    exact h.alone
  · rw [parts]
    exact meets
  · intro job good given begun
    rw [goods_congr same]
    exact h.begun given fun again => begun ((mem_iff_of_filter_eq owed rfl).mpr again)
  · rw [news]
    exact h.counts.move there runs parts tallies
  · rw [owed, tallies, total]
    exact h.ledger

/-- Nothing but the line and the places has changed, and who is in line to go on. -/
theorem Lives.congr (h : plan.Lives places dues queue t) (parts : t'.parts = t.parts)
    (frame : (t'.jobs, t'.single, t'.state, t'.isOver, t'.faults, t'.tallies, t'.total) =
      (t.jobs, t.single, t.state, t.isOver, t.faults, t.tallies, t.total))
    (seats : t'.Seats places queue')
    (owed : queue'.filter Turn.isOfJobs = queue.filter Turn.isOfJobs)
    (news : queue'.filter Turn.isOfParts = queue.filter Turn.isOfParts) :
    plan.Lives places dues queue' t' := by
  simp only [Prod.mk.injEq] at frame
  obtain ⟨jobs, single, state, goesOn, faults, tallies, total⟩ := frame
  refine ⟨jobs.trans h.jobs, single.trans h.single, goesOn.trans h.goesOn, ?_, state ▸ h.state,
    faults ▸ h.faults, parts ▸ h.meets, fun {job good} given begun => ?_,
    h.finished.congr (by rw [faults, tallies]) (by rw [state]; exact id) owed, seats, ?_, ?_⟩
  · rw [total, owed]
    exact h.alone
  · exact h.begun given fun again => begun ((mem_iff_of_filter_eq owed rfl).mpr again)
  · rw [news]
    exact h.counts.congr parts tallies
  · rw [owed, tallies, total]
    exact h.ledger

/-- News have been heard, and others are heard of in their place. Only the tallies have changed. -/
theorem Lives.note {turn : Turn} {pending news : List Turn}
    (h : plan.Lives places dues (turn :: (pending ++ t.line)) t)
    (isNews : (∀ k, turn ≠ .begin k) ∧ ∀ k, turn ≠ .goOn k)
    (frame : (t'.jobs, t'.single, t'.state, t'.places, t'.parts, t'.waiting, t'.faults, t'.isOver) =
      (t.jobs, t.single, t.state, t.places, t.parts, t.waiting, t.faults, t.isOver))
    (line : t'.line = t.line ++ news)
    (alone : plan.single → 0 < t'.total.left ∧
      ∀ {job}, .hearJob job ∉ (pending ++ t.line ++ news).filter Turn.isOfJobs)
    (finished : plan.Finished (pending ++ t.line ++ news) t')
    (counts : t'.Counts plan.jobs.length ((pending ++ t.line ++ news).filter Turn.isOfParts))
    (ledger : Turns.Ledger plan.jobs.length ((pending ++ t.line ++ news).filter Turn.isOfJobs)
      t'.tallies t'.total) : plan.Lives places dues (pending ++ t'.line) t' := by
  simp only [Prod.mk.injEq] at frame
  obtain ⟨jobs, single, state, places, parts, waiting, faults, goesOn⟩ := frame
  have kept {other : Turn} (hother : other ∈ turn :: (pending ++ t.line)) (apart : other ≠ turn) :
      other ∈ pending ++ t.line ++ news :=
    List.mem_append_left _ ((List.mem_cons.mp hother).resolve_left apart)
  rw [line, ← List.append_assoc]
  refine ⟨jobs.trans h.jobs, single.trans h.single, goesOn.trans h.goesOn, alone, state ▸ h.state,
    faults ▸ h.faults, parts ▸ h.meets, fun {job good} given begun => ?_, finished, ?_, counts,
    ledger⟩
  · exact h.begun given fun again => begun (kept again (isNews.1 job).symm)
  · exact h.seats.congr parts places waiting fun {k} hk => kept hk (isNews.2 k).symm

/-- The jobs are under way, nobody waits in vain, and so many turns are paid for. -/
def Goes (plan : Plan σ α) (places m : Nat) (queue : List Turn) (t : Turns σ α) : Prop :=
  ∃ dues, plan.Lives places dues queue t ∧ t.IsServed ∧ funds dues queue ≤ m

/-- Whoever has nothing to do lets the turn pass. -/
theorem Lives.pass (h : plan.Lives places dues (.goOn i :: queue) t)
    (idle : ∀ {standing}, t.standing? i = some standing → standing.isReady = false) :
    plan.Lives places dues queue t := by
  refine h.congr rfl rfl ⟨h.seats.all, fun {k standing} there ready => ?_, h.seats.listed,
    h.seats.waiting, h.seats.once⟩ rfl rfl
  refine (List.mem_cons.mp (h.seats.ready there ready)).resolve_left ?_
  rintro same
  cases same
  rw [idle there] at ready
  cases ready

theorem Lives.exists_delivers (h : plan.Lives places dues queue t) {standing : Standing σ α}
    (there : t.standing? i = some standing) : ∃ good n, standing.Delivers plan.toRules good n := by
  obtain ⟨part, found, rfl⟩ := Option.map_eq_some_iff.mp there
  obtain ⟨long, each⟩ := List.forall₂_iff_get.mp h.meets
  obtain ⟨inside, rfl⟩ := List.getElem?_eq_some_iff.mp found
  exact ⟨_, _, (each i inside (long ▸ inside)).delivers⟩

/-- A place that is free goes to the first part that waits. -/
theorem Lives.callNext (h : plan.Lives places dues queue t) (free : 0 < t.places) :
    ∃ (dues' : List (Due α)) (called : List Nat),
      t.callNext.line = t.line ++ called.map .goOn ∧
      plan.Lives places dues' (queue ++ called.map .goOn) t.callNext ∧ t.callNext.IsServed ∧
      funds dues' (queue ++ called.map .goOn) ≤ funds dues queue := by
  rcases Turns.callNext_cases h.seats with ⟨same, nobody⟩ | ⟨k, x, there, called⟩
  · rw [same]
    refine ⟨dues, [], by simp, by simpa using h, fun ⟨k, standing, there, waits⟩ => ?_, by simp⟩
    rw [nobody there] at waits
    cases waits
  · have parts : t.callNext.parts = (t.setStanding k (.called x)).parts := by rw [called]; rfl
    have seats : t.callNext.Seats places (queue ++ [.goOn k]) := by
      refine h.seats.call there parts (by rw [called]; rfl) ?_
      rw [called]
      exact Nat.sub_add_cancel free
    obtain ⟨dues', lives, fewer⟩ := h.move (.called x) there rfl parts (by rw [called]; rfl)
      (by rw [called]; exact h.state) (by rw [called]; exact id) 1
      (fun ⟨most, paid, x⟩ => ⟨most + 4, ⟨most, rfl, x⟩, by omega⟩) seats
      (by simp [Turn.isOfJobs]) (by simp [Turn.isOfParts, Standing.isEnded])
    have here := Turns.standing?_of_parts there parts
    refine ⟨dues', [k], by rw [called]; rfl, lives,
      fun _ => Turns.taken_pos here Nat.zero_lt_one, ?_⟩
    simp [funds, Turn.cost]
    omega

/-- A part goes on from a standing in which it has a place or is given one. -/
theorem Lives.advance {pending : List Turn} {m : Nat}
    (h : plan.Lives places dues (.goOn i :: (pending ++ t.line)) t)
    (few : funds dues (.goOn i :: (pending ++ t.line)) ≤ m + 1) {old : Standing σ α}
    (there : t.standing? i = some old) (ready : old.isReady) (apart : i ∉ t.waiting)
    {seats : Nat} (given : seats + 1 = t.places + old.seats) {course : Course σ α}
    (delivers : ∀ {good n}, old.Delivers plan.toRules good n →
      ∃ most, most + 4 ≤ n ∧ course.Delivers plan.toRules good most t.state) :
    plan.Goes places m (pending ++ ({ t with places := seats }.advance i course).line)
      ({ t with places := seats }.advance i course) := by
  obtain ⟨good, n, promised⟩ := h.exists_delivers there
  obtain ⟨most, -, known⟩ := delivers promised
  have runs : old.isEnded = false := by
    cases old <;> first | rfl | cases ready
  cases course with
  | paused pause s rest =>
      let later : Turns σ α := { t with places := seats }.advance i (.paused pause s rest)
      have line : later.line = t.line ++ [.goOn i] := rfl
      have parts : later.parts = (t.setStanding i (.paused pause rest)).parts := rfl
      have seated : later.Seats places (pending ++ t.line ++ [.goOn i]) :=
        h.seats.pause there apart parts rfl given
      obtain ⟨dues', lives, fewer⟩ := h.move (.paused pause rest) there runs parts rfl known.1.1
        (plan.stays h.state known.2.1) 1
        (fun promised => by
          obtain ⟨most, few, known⟩ := delivers promised
          obtain ⟨-, m, rfl, later⟩ := known.2
          exact ⟨m + 4, ⟨m, rfl, fun s hs => ⟨known.1.2 s hs, later s⟩⟩, by omega⟩)
        seated (by simp [Turn.isOfJobs]) (by simp [Turn.isOfParts, Standing.isEnded])
      have here := Turns.standing?_of_parts there parts
      change plan.Goes places m (pending ++ later.line) later
      rw [line, ← List.append_assoc]
      refine ⟨dues', lives, fun _ => Turns.taken_pos here Nat.zero_lt_one, ?_⟩
      simp [funds, Turn.cost] at few ⊢
      omega
  | ended result s =>
      let gone : Turns σ α :=
        { t with state := s, places := seats + 1 }.setStanding i (.ended result)
      have parts : gone.parts = (t.setStanding i (.ended result)).parts := rfl
      have seated : gone.Seats places (pending ++ t.line ++ [.hearPart i]) :=
        h.seats.end there apart parts rfl given _
      obtain ⟨inv, -⟩ := known.1
      obtain ⟨dues₁, lives, fewer⟩ := h.move (.ended result) there runs parts rfl inv
        (plan.stays h.state known.2) 4
        (fun promised => by
          obtain ⟨most, few, known⟩ := delivers promised
          exact ⟨0, known.1.2, by omega⟩)
        seated (by simp [Turn.isOfJobs]) (by simp [Turn.isOfParts, Standing.isEnded])
      obtain ⟨dues', called, line, lives', served, fewer'⟩ := lives.callNext (Nat.succ_pos seats)
      let later := gone.callNext.lineUp (.hearPart i)
      have line : later.line = t.line ++ called.map .goOn ++ [.hearPart i] :=
        congrArg (· ++ [Turn.hearPart i]) line
      change plan.Goes places m (pending ++ later.line) later
      rw [line]
      -- the news come after the call, which makes no difference to the accounts
      refine ⟨dues', lives'.congr rfl rfl ?_ ?_ ?_, served, ?_⟩
      · exact lives'.seats.congr rfl rfl rfl fun {k} hk => by
          simp only [List.mem_append] at hk ⊢
          tauto
      · simp [Turn.isOfJobs]
      · have none := filter_map_goOn (p := Turn.isOfParts) (fun _ => rfl) called
        simp [none, List.filter_cons, Turn.isOfParts]
      · simp [funds, Turn.cost] at few fewer' ⊢
        omega

/-- After the turn of a part the jobs are still under way. -/
theorem Goes.goOn {pending : List Turn} {m : Nat} (some : 0 < places)
    (h : plan.Goes places (m + 1) (.goOn i :: (pending ++ t.line)) t) :
    plan.Goes places m (pending ++ (t.goOn i).line) (t.goOn i) := by
  obtain ⟨dues, lives, served, few⟩ := h
  have pass (idle : ∀ {standing}, t.standing? i = .some standing → standing.isReady = false) :
      plan.Goes places m (pending ++ t.line) t := by
    refine ⟨dues, lives.pass idle, served, ?_⟩
    simp [funds, Turn.cost] at few ⊢
    omega
  rw [Turns.goOn_eq]
  cases there : t.standing? i with
  | none => exact pass fun here => by cases there.symm.trans here
  | some standing =>
      cases standing with
      | fresh x =>
          simp only
          split
          · next blocked =>
            let later : Turns σ α := { t with waiting := t.waiting ++ [i] }.setStanding i (.waits x)
            have parts : later.parts = (t.setStanding i (.waits x)).parts := rfl
            have seated : later.Seats places (pending ++ t.line) := lives.seats.wait there
            obtain ⟨dues', lives', fewer⟩ := lives.move (.waits x) there rfl parts rfl lives.state
              id 0 (fun promised => ⟨_, promised, Nat.le_refl _⟩) seated
              (by simp [Turn.isOfJobs]) (by simp [Turn.isOfParts, Standing.isEnded])
            refine ⟨dues', lives', served.wait lives.seats some there blocked, ?_⟩
            change funds dues' (pending ++ t.line) ≤ m
            simp [funds, Turn.cost] at few ⊢
            omega
          · next free =>
            obtain ⟨free, -⟩ := not_or.mp free
            have apart := lives.seats.notMem_waiting there rfl rfl
            exact lives.advance few there rfl apart (Nat.sub_add_cancel (Nat.pos_of_ne_zero free))
              fun promised => promised.goOn (.inl rfl) lives.state
      | waits x => exact pass fun here => by cases there.symm.trans here; rfl
      | called x =>
          let erased : Turns σ α := { t with waiting := t.waiting.erase i }
          have lives₁ : plan.Lives places dues (.goOn i :: (pending ++ t.line)) erased :=
            lives.congr rfl rfl (lives.seats.erase there rfl) rfl rfl
          have apart : i ∉ erased.waiting := lives.seats.once.not_mem_erase
          simp only
          split
          · next free =>
            obtain ⟨dues', called, line, lives', -, fewer⟩ := lives₁.callNext free
            obtain ⟨there', waiting, state⟩ :=
              Turns.standing?_callNext lives₁.seats (i := i) there rfl
            rw [← waiting] at apart
            have queue : .goOn i :: (pending ++ t.line) ++ called.map .goOn =
                .goOn i :: (pending ++ erased.callNext.line) := by
              rw [line, List.cons_append, List.append_assoc]
            rw [queue] at lives' fewer
            exact lives'.advance (Nat.le_trans fewer few) there' rfl apart rfl
              fun promised => promised.goOn (.inr (.inl rfl)) lives'.state
          · exact Lives.advance (t := erased) lives₁ few there rfl apart rfl
              fun promised => promised.goOn (.inr (.inl rfl)) lives.state
      | paused pause rest =>
          have apart := lives.seats.notMem_waiting there rfl rfl
          exact lives.advance few there rfl apart rfl
            fun promised => promised.goOn (.inr (.inr ⟨pause, rfl⟩)) lives.state
      | ended result => exact pass fun here => by cases there.symm.trans here; rfl

end Plan

end ScriptVet
