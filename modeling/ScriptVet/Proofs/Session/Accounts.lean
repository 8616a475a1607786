import ScriptVet.Proofs.Session.Seats

/-!
# Accounts

Jobs that are done side by side are tallied: each job knows how many of its parts it has not heard
of, and whoever waits for all jobs knows how many of those are left. What is left is what has not
ended and the news that are still in line, so nothing is counted twice and nothing is forgotten.
-/

namespace ScriptVet

variable {σ α : Type}

/-- In the turn a job gets its parts or hears of one. -/
def Turn.isOfParts : Turn → Bool
  | .begin _ | .hearPart _ => true
  | _ => false

/-- It is not the turn of a part, nor one in which a job hears of a part. -/
def Turn.isOfJobs : Turn → Bool
  | .goOn _ | .hearPart _ => false
  | _ => true

/-- The turn is owed to a job that is not finished, or of whose end has not been heard. -/
def Turn.isOwed : Turn → Bool
  | .begin _ | .finish _ | .hearJob _ => true
  | _ => false

/-- One for a job that waits for parts. -/
def Tally.open (tally : Tally) : Nat :=
  if 0 < tally.left then 1 else 0

/-- What comes of a tally that has just been changed: the turn, if now it is decided. -/
def Tally.next (tally : Tally) (turn : Turn) : List Turn :=
  if tally.decided then [turn] else []

/-- One for a part of the job that has not ended. -/
def Part.left (job : Nat) (part : Part σ α) : Nat :=
  if part.job = job ∧ part.standing.isEnded = false then 1 else 0

namespace Tally

variable {tally : Tally} {turn other : Turn} {agenda : List Turn}

theorem note_none (undecided : tally.decided = false) :
    tally.note none = ⟨tally.left - 1, decide (tally.left ≤ 1), tally.fault⟩ := by
  simp [note, undecided]

theorem mem_next : other ∈ tally.next turn ↔ tally.decided ∧ other = turn := by
  cases decided : tally.decided <;> simp [next, decided]

theorem filter_next_of_pos {p : Turn → Bool} (given : p turn) :
    (tally.next turn).filter p = tally.next turn := by
  cases decided : tally.decided <;> simp [next, decided, given]

theorem filter_next_of_neg {p : Turn → Bool} (given : ¬ p turn) :
    (tally.next turn).filter p = [] := by
  cases decided : tally.decided <;> simp [next, decided, given]

theorem mem_of_next (h : other ∈ agenda ++ tally.next turn) (apart : other ≠ turn) :
    other ∈ agenda :=
  (List.mem_append.mp h).resolve_right fun now => apart (mem_next.mp now).2

theorem count_append_next (apart : other ≠ turn) :
    (agenda ++ tally.next turn).count other = agenda.count other := by
  have none : (tally.next turn).count other = 0 :=
    List.count_eq_zero.mpr fun now => apart (mem_next.mp now).2
  rw [List.count_append, none, Nat.add_zero]

end Tally

/-- What is in a list after one place has been set. -/
theorem of_getElem?_set {β : Type} {l : List β} {i k : Nat} {a b : β}
    (h : (l.set i a)[k]? = some b) : i = k ∧ a = b ∨ i ≠ k ∧ l[k]? = some b := by
  rw [List.getElem?_set] at h
  by_cases same : i = k
  · rw [if_pos same] at h
    split at h
    · exact .inl ⟨same, Option.some.inj h⟩
    · cases h
  · rw [if_neg same] at h
    exact .inr ⟨same, h⟩

namespace Turns

variable {jobs i job : Nat} {t t' : Turns σ α}

/-- The jobs that the parts belong to. -/
def owners (t : Turns σ α) : List Nat :=
  t.parts.map Part.job

/-- How many parts of a job have not ended. -/
def unended (t : Turns σ α) (job : Nat) : Nat :=
  (t.parts.map (Part.left job)).sum

/-- The job is yet to hear of the end of a part. -/
def isUnheard (t : Turns σ α) (job : Nat) : Turn → Bool
  | .hearPart i => t.owners[i]? == some job
  | _ => false

/-- What is left of a job has not ended or is news, only of what has ended there are news, and
nothing is there of a job that is to begin. -/
structure Counts (jobs : Nat) (news : List Turn) (t : Turns σ α) : Prop where
  owners : ∀ job ∈ t.owners, job < jobs
  left : ∀ {job : Nat} {tally : Tally}, t.tallies[job]? = some tally →
    tally.left = t.unended job + news.countP (t.isUnheard job)
  heard : ∀ {i}, .hearPart i ∈ news → ∃ standing, t.standing? i = some standing ∧ standing.isEnded
  begins : ∀ {job}, .begin job ∈ news → job ∉ t.owners

/-- The tallies of the jobs fit to the turns that are owed to jobs. Each job is begun once, and it
is finished when nothing is left of it. -/
structure Ledger (jobs : Nat) (agenda : List Turn) (tallies : List Tally) (total : Tally) :
    Prop where
  length : tallies.length = jobs
  undecided : ∀ {job : Nat} {tally : Tally}, tallies[job]? = some tally →
    tally.fault = none ∧ (tally.decided → tally.left = 0)
  begins : ∀ {job}, .begin job ∈ agenda → job < jobs ∧ agenda.count (.begin job) = 1
  finishes : ∀ {job}, .finish job ∈ agenda → job < jobs ∧ .begin job ∉ agenda ∧
    ∀ {tally : Tally}, tallies[job]? = some tally → tally.left = 0
  left : total.left = agenda.countP Turn.isOwed + (tallies.map Tally.open).sum
  few : total.left ≤ jobs
  last : total.left = 0 ↔ .finishAll ∈ agenda
  unfaulted : total.fault = none ∧ (total.decided → total.left = 0)

theorem owners_setStanding (t : Turns σ α) (i : Nat) (new : Standing σ α) :
    (t.setStanding i new).owners = t.owners := by
  refine List.ext_getElem? fun k => ?_
  simp only [owners, setStanding, List.getElem?_map, List.getElem?_modify]
  cases t.parts[k]? with
  | none => rfl
  | some part => by_cases same : i = k <;> simp [same]

theorem isUnheard_congr (same : t'.owners = t.owners) (job : Nat) :
    t'.isUnheard job = t.isUnheard job := by
  funext turn
  cases turn <;> simp only [isUnheard, same]

theorem counts_start (jobs : List (Job σ α)) (single : Bool) (places : Nat) (s : σ) :
    (start jobs single places s).Counts jobs.length ((List.range jobs.length).map .begin) where
  owners := nofun
  left {job tally} there := by
    obtain ⟨-, -, rfl⟩ := List.mem_map.mp (List.mem_of_getElem? there)
    have none : ((List.range jobs.length).map Turn.begin).countP
        ((start jobs single places s).isUnheard job) = 0 := by
      simp [List.countP_map, Function.comp_def, isUnheard]
    rw [none]
    rfl
  heard h := by simp at h
  begins _ := List.not_mem_nil

theorem Counts.congr {news : List Turn} (h : t.Counts jobs news) (parts : t'.parts = t.parts)
    (tallies : t'.tallies = t.tallies) : t'.Counts jobs news := by
  have owners : t'.owners = t.owners := by rw [Turns.owners, Turns.owners, parts]
  refine ⟨owners ▸ h.owners, fun {job tally} hj => ?_, fun {k} hk => ?_, owners ▸ h.begins⟩
  · rw [isUnheard_congr owners, unended, parts]
    exact h.left (tallies ▸ hj)
  · rw [standing?, parts]
    exact h.heard hk

/-- A part that has not ended comes to another standing. If that is an end there is news of it. -/
theorem Counts.move {news : List Turn} (h : t.Counts jobs news) {old new : Standing σ α}
    (there : t.standing? i = some old) (runs : old.isEnded = false)
    (parts : t'.parts = (t.setStanding i new).parts) (tallies : t'.tallies = t.tallies) :
    t'.Counts jobs (news ++ if new.isEnded then [.hearPart i] else []) := by
  have owners : t'.owners = t.owners := by
    rw [← owners_setStanding t i new, Turns.owners, Turns.owners, parts]
  have moved (k : Nat) : t'.standing? k =
      if i = k then (t.standing? k).map fun _ => new else t.standing? k := by
    rw [← standing?_setStanding, standing?, standing?, parts]
  obtain ⟨part, found, same⟩ := Option.map_eq_some_iff.mp there
  have owner : t.owners[i]? = some part.job := by simp [Turns.owners, found]
  have left (job : Nat) : t'.unended job +
      (if new.isEnded ∧ part.job = job then 1 else 0) = t.unended job := by
    have sum := sum_map_modify (Part.left job)
      (fun p : Part σ α => { p with standing := new }) found
    rw [unended, unended, parts, setStanding]
    simp only [Part.left, same, runs] at sum ⊢
    by_cases ours : part.job = job <;> cases ended : new.isEnded <;> simp [ours, ended] at sum ⊢ <;>
      omega
  refine ⟨owners ▸ h.owners, fun {job tally} hj => ?_, fun {k} hk => ?_, fun {job} hj => ?_⟩
  · have before := h.left (tallies ▸ hj)
    have now := left job
    rw [isUnheard_congr owners, List.countP_append]
    cases ended : new.isEnded with
    | false => simp [ended] at now ⊢; omega
    | true =>
        by_cases ours : part.job = job <;> simp [ended, ours, isUnheard, owner] at now ⊢ <;> omega
  · rcases List.mem_append.mp hk with earlier | now
    · obtain ⟨standing, at', ended⟩ := h.heard earlier
      have apart : i ≠ k := by
        rintro rfl
        cases there.symm.trans at'
        rw [runs] at ended
        cases ended
      exact ⟨standing, by rw [moved, if_neg apart, at'], ended⟩
    · split at now
      · next ended =>
        cases List.mem_singleton.mp now
        exact ⟨new, by simp [moved, there], ended⟩
      · cases now
  · rw [owners]
    refine h.begins ((List.mem_append.mp hj).resolve_right fun now => ?_)
    split at now
    · cases List.mem_singleton.mp now
    · cases now

/-- A job hears of the end of a part. -/
theorem Counts.hear {news : List Turn} (h : t.Counts jobs (.hearPart i :: news))
    (owner : t.owners[i]? = some job) {before after : Tally} (there : t.tallies[job]? = some before)
    (fewer : before.left = after.left + 1) (parts : t'.parts = t.parts)
    (tallies : t'.tallies = t.tallies.set job after) : t'.Counts jobs news := by
  have owners : t'.owners = t.owners := by rw [Turns.owners, Turns.owners, parts]
  refine ⟨owners ▸ h.owners, fun {other tally} hj => ?_, fun {k} hk => ?_, fun {other} hj => ?_⟩
  · have same : t'.unended other = t.unended other := by rw [unended, unended, parts]
    rw [tallies, List.getElem?_set] at hj
    rw [isUnheard_congr owners, same]
    by_cases ours : job = other
    · subst ours
      have left := h.left there
      rw [if_pos rfl] at hj
      split at hj
      · cases hj
        simp [isUnheard, owner] at left
        omega
      · cases hj
    · rw [if_neg ours] at hj
      have left := h.left hj
      simp [isUnheard, owner, ours] at left
      exact left
  · rw [standing?, parts]
    exact h.heard (List.mem_cons_of_mem _ hk)
  · rw [owners]
    exact h.begins (List.mem_cons_of_mem _ hj)

/-- A job without parts has begun. -/
theorem Counts.begun {news : List Turn} (h : t.Counts jobs (.begin job :: news)) :
    t.Counts jobs news := by
  refine ⟨h.owners, fun {other tally} hj => ?_, fun hk => h.heard (List.mem_cons_of_mem _ hk),
    fun hj => h.begins (List.mem_cons_of_mem _ hj)⟩
  have left := h.left hj
  rw [List.countP_cons_of_neg (by simp [isUnheard])] at left
  exact left

/-- Nothing is left of a job that has no parts. -/
theorem left_eq_zero (new : job ∉ t.owners) (turns : List Turn) :
    t.unended job = 0 ∧ turns.countP (t.isUnheard job) = 0 := by
  constructor
  · refine List.sum_eq_zero_iff_forall_eq_nat.mpr fun n hn => ?_
    obtain ⟨part, hpart, rfl⟩ := List.mem_map.mp hn
    refine if_neg fun ours => new ?_
    exact ours.1 ▸ List.mem_map_of_mem hpart
  · refine List.countP_eq_zero.mpr fun turn _ unheard => ?_
    cases turn with
    | hearPart k => exact new (List.mem_of_getElem? (beq_iff_eq.mp unheard))
    | _ => cases unheard

/-- A job is split into parts that are yet to begin. -/
theorem Counts.begin {news : List Turn} (h : t.Counts jobs (.begin job :: news))
    (among : job < jobs) (once : .begin job ∉ news) (activities : List (Activity σ α))
    (parts : t'.parts = t.parts ++ activities.map fun activity => ⟨job, .fresh activity⟩)
    (tallies : t'.tallies = t.tallies.set job ⟨activities.length, false, none⟩) :
    t'.Counts jobs news := by
  have new : job ∉ t.owners := h.begins List.mem_cons_self
  have owners : t'.owners = t.owners ++ activities.map fun _ => job := by
    simp [Turns.owners, parts, Function.comp_def]
  have unheard (other : Nat) :
      news.countP (t'.isUnheard other) = news.countP (t.isUnheard other) := by
    refine List.countP_congr fun turn hturn => ?_
    cases turn with
    | hearPart k =>
        obtain ⟨standing, there, -⟩ := h.heard (List.mem_cons_of_mem _ hturn)
        obtain ⟨part, found, -⟩ := Option.map_eq_some_iff.mp there
        have inside : k < t.owners.length := by
          rw [Turns.owners, List.length_map]
          exact (List.getElem?_eq_some_iff.mp found).1
        rw [isUnheard, isUnheard, owners, List.getElem?_append_left inside]
    | _ => rfl
  have unended (other : Nat) :
      t'.unended other = t.unended other + if job = other then activities.length else 0 := by
    rw [Turns.unended, Turns.unended, parts, List.map_append, List.sum_append, List.map_map]
    by_cases ours : job = other
    · simp [Function.comp_def, Part.left, Standing.isEnded, ours]
    · simp [Function.comp_def, Part.left, ours]
  refine ⟨fun k hk => ?_, fun {other tally} hj => ?_, fun {k} hk => ?_, fun {k} hk => ?_⟩
  · rw [owners, List.mem_append] at hk
    rcases hk with old | ours
    · exact h.owners k old
    · obtain ⟨-, -, rfl⟩ := List.mem_map.mp ours
      exact among
  · rw [unheard, unended]
    rw [tallies] at hj
    rcases of_getElem?_set hj with ⟨rfl, rfl⟩ | ⟨ours, hj⟩
    · simp [left_eq_zero new news]
    · have left := h.left hj
      simp [isUnheard, ours] at left ⊢
      exact left
  · obtain ⟨standing, there, ended⟩ := h.heard (List.mem_cons_of_mem _ hk)
    exact ⟨standing, standing?_of_append parts there, ended⟩
  · have apart : k ≠ job := by
      rintro rfl
      exact once hk
    rw [owners, List.mem_append]
    rintro (old | ours)
    · exact h.begins (List.mem_cons_of_mem _ hk) old
    · obtain ⟨-, -, rfl⟩ := List.mem_map.mp ours
      exact apart rfl

/-! ## The ledger -/

variable {agenda : List Turn} {tallies : List Tally} {total : Tally}

theorem ledger_start {jobs : Nat} (some : 0 < jobs) (tallies : List Tally)
    (new : tallies = List.replicate jobs ⟨0, false, none⟩) :
    Ledger jobs ((List.range jobs).map .begin) tallies ⟨jobs, false, none⟩ := by
  subst new
  refine ⟨List.length_replicate, fun {job tally} there => ?_, fun {job} hj => ?_, fun hj => ?_, ?_,
    Nat.le_refl _, ?_, rfl, nofun⟩
  · rw [List.eq_of_mem_replicate (List.mem_of_getElem? there)]
    exact ⟨rfl, nofun⟩
  · obtain ⟨k, hk, same⟩ := List.mem_map.mp hj
    cases same
    have once : ((List.range jobs).map Turn.begin).Nodup :=
      List.pairwise_map.mpr (List.nodup_range.imp fun apart same => apart (Turn.begin.inj same))
    exact ⟨List.mem_range.mp hk, by rw [once.count, if_pos hj]⟩
  · simp at hj
  · simp [List.countP_map, Function.comp_def, Turn.isOwed, Tally.open]
  · simp
    omega

/-- A tally is changed, and with it perhaps the number of those that are open. -/
theorem sum_open_set {before : Tally} (there : tallies[job]? = some before) (after : Tally) :
    ((tallies.set job after).map Tally.open).sum + before.open =
      (tallies.map Tally.open).sum + after.open := by
  rw [List.set_eq_modify]
  exact sum_map_modify Tally.open (fun _ => after) there

theorem Ledger.begin_notMem (h : Ledger jobs (.begin job :: agenda) tallies total) :
    .begin job ∉ agenda := by
  have once := (h.begins List.mem_cons_self).2
  rw [List.count_cons_self] at once
  exact List.count_eq_zero.mp (by omega)

/-- A job is split into parts. -/
theorem Ledger.begin (h : Ledger jobs (.begin job :: agenda) tallies total) {before : Tally}
    (there : tallies[job]? = some before) (new : before.left = 0) (n : Nat) :
    Ledger jobs agenda (tallies.set job ⟨n + 1, false, none⟩) total := by
  have once := h.begin_notMem
  refine ⟨by simpa using h.length, fun {k tally} hk => ?_, fun {k} hk => ?_, fun {k} hk => ?_, ?_,
    h.few, ?_, h.unfaulted⟩
  · rcases of_getElem?_set hk with ⟨-, rfl⟩ | ⟨-, hk⟩
    · exact ⟨rfl, nofun⟩
    · exact h.undecided hk
  · obtain ⟨among, single⟩ := h.begins (List.mem_cons_of_mem _ hk)
    have apart : job ≠ k := by
      rintro rfl
      exact once hk
    rw [List.count_cons_of_ne (by simpa using apart)] at single
    exact ⟨among, single⟩
  · obtain ⟨among, begun, none⟩ := h.finishes (List.mem_cons_of_mem _ hk)
    refine ⟨among, fun again => begun (List.mem_cons_of_mem _ again), fun {tally} hk' => ?_⟩
    rcases of_getElem?_set hk' with ⟨rfl, -⟩ | ⟨-, hk'⟩
    · exact absurd List.mem_cons_self begun
    · exact none hk'
  · have left := h.left
    have sum := sum_open_set there ⟨n + 1, false, none⟩
    simp [Tally.open, new, List.countP_cons, Turn.isOwed] at left sum ⊢
    omega
  · rw [h.last]
    simp

/-- A job that has been finished, or has nothing to do, ends. -/
theorem Ledger.endJob {turn : Turn} (h : Ledger jobs (turn :: agenda) tallies total)
    (ends : turn = .begin job ∨ turn = .finish job) :
    Ledger jobs (agenda ++ [.hearJob job]) tallies total := by
  refine ⟨h.length, h.undecided, fun {k} hk => ?_, fun {k} hk => ?_, ?_, h.few, ?_, h.unfaulted⟩
  · have earlier : .begin k ∈ agenda := by simpa using hk
    obtain ⟨among, single⟩ := h.begins (List.mem_cons_of_mem _ earlier)
    have some := List.count_pos_iff.mpr earlier
    rw [List.count_cons] at single
    refine ⟨among, ?_⟩
    simp
    omega
  · have earlier : .finish k ∈ agenda := by simpa using hk
    obtain ⟨among, begun, none⟩ := h.finishes (List.mem_cons_of_mem _ earlier)
    refine ⟨among, fun again => begun (List.mem_cons_of_mem _ ?_), none⟩
    simpa using again
  · have left := h.left
    rcases ends with rfl | rfl <;> simp [List.countP_cons, Turn.isOwed] at left ⊢ <;> omega
  · rw [h.last]
    rcases ends with rfl | rfl <;> simp

/-- A job of which something is left has not been decided. -/
theorem Ledger.undecided_of_left (h : Ledger jobs agenda tallies total) {tally : Tally}
    (there : tallies[job]? = some tally) (some : 0 < tally.left) : tally.decided = false := by
  by_contra decided
  have none := (h.undecided there).2 (by simpa using decided)
  omega

theorem Ledger.total_undecided_of_left (h : Ledger jobs agenda tallies total)
    (some : 0 < total.left) : total.decided = false := by
  by_contra decided
  have none := h.unfaulted.2 (by simpa using decided)
  omega

/-- A job hears of the end of a part, and is to be finished if it was the last one. -/
theorem Ledger.hearPart (h : Ledger jobs agenda tallies total) {before : Tally}
    (there : tallies[job]? = some before) (some : 0 < before.left) (begun : .begin job ∉ agenda) :
    Ledger jobs (agenda ++ (before.note none).next (.finish job))
      (tallies.set job (before.note none)) total := by
  have noted := Tally.note_none (h.undecided_of_left there some)
  have inside := (List.getElem?_eq_some_iff.mp there).1
  have decided (now : (before.note none).decided) : (before.note none).left = 0 := by
    rw [noted] at now ⊢
    exact Nat.sub_eq_zero_of_le (of_decide_eq_true now)
  have unbegun {k : Nat} (again : .begin k ∈ agenda ++ (before.note none).next (.finish job)) :
      .begin k ∈ agenda := Tally.mem_of_next again (by simp)
  refine ⟨by simpa using h.length, fun {k tally} hk => ?_, fun {k} hk => ?_, fun {k} hk => ?_, ?_,
    h.few, ?_, h.unfaulted⟩
  · rcases of_getElem?_set hk with ⟨-, rfl⟩ | ⟨-, other⟩
    · exact ⟨noted ▸ (h.undecided there).1, decided⟩
    · exact h.undecided other
  · obtain ⟨among, single⟩ := h.begins (unbegun hk)
    exact ⟨among, (Tally.count_append_next (by simp)).trans single⟩
  · rcases List.mem_append.mp hk with earlier | now
    · obtain ⟨among, begun', none⟩ := h.finishes earlier
      refine ⟨among, fun again => begun' (unbegun again), fun {tally} hk' => ?_⟩
      rcases of_getElem?_set hk' with ⟨rfl, -⟩ | ⟨-, other⟩
      · have none := none there
        omega
      · exact none other
    · obtain ⟨last, same⟩ := Tally.mem_next.mp now
      cases same
      refine ⟨h.length ▸ inside, fun again => begun (unbegun again), fun {tally} hk' => ?_⟩
      rcases of_getElem?_set hk' with ⟨-, rfl⟩ | ⟨other, -⟩
      · exact decided last
      · exact absurd rfl other
  · have left := h.left
    have sum := sum_open_set there (before.note none)
    rw [List.countP_append, Tally.next]
    rw [noted] at sum ⊢
    by_cases last : before.left ≤ 1
    · have zero : before.left - 1 = 0 := by omega
      simp [Tally.open, last, zero, some, Turn.isOwed] at sum ⊢
      omega
    · have more : 0 < before.left - 1 := by omega
      simp [Tally.open, last, more, some] at sum ⊢
      omega
  · rw [h.last]
    exact ⟨List.mem_append_left _, fun now => Tally.mem_of_next now (by simp)⟩

/-- Whoever waits for all jobs hears of the end of one. -/
theorem Ledger.hearJob (h : Ledger jobs (.hearJob job :: agenda) tallies total) :
    Ledger jobs (agenda ++ (total.note none).next .finishAll) tallies (total.note none) := by
  have left := h.left
  simp [List.countP_cons, Turn.isOwed] at left
  have noted := Tally.note_none (h.total_undecided_of_left (by omega))
  have going : .finishAll ∉ agenda := by
    intro last
    have none := h.last.mpr (List.mem_cons_of_mem _ last)
    omega
  have earlier {turn : Turn} (ha : turn ≠ .finishAll)
      (now : turn ∈ agenda ++ (total.note none).next .finishAll) :
      turn ∈ .hearJob job :: agenda := List.mem_cons_of_mem _ (Tally.mem_of_next now ha)
  refine ⟨h.length, h.undecided, fun {k} hk => ?_, fun {k} hk => ?_, ?_, ?_, ?_, ?_⟩
  · obtain ⟨among, single⟩ := h.begins (earlier (by simp) hk)
    rw [List.count_cons_of_ne (by simp)] at single
    exact ⟨among, (Tally.count_append_next (by simp)).trans single⟩
  · obtain ⟨among, begun, none⟩ := h.finishes (earlier (by simp) hk)
    refine ⟨among, fun again => begun (earlier (by simp) again), none⟩
  · have owed : ((total.note none).next .finishAll).countP Turn.isOwed = 0 :=
      List.countP_eq_zero.mpr fun turn now => by simp [(Tally.mem_next.mp now).2, Turn.isOwed]
    rw [List.countP_append, owed, noted]
    change total.left - 1 = _
    omega
  · rw [noted]
    exact Nat.le_trans (Nat.sub_le _ _) h.few
  · rw [List.mem_append, Tally.mem_next, noted]
    by_cases last : total.left ≤ 1
    · simp [last]
    · simp [last, going]
      omega
  · rw [noted]
    exact ⟨h.unfaulted.1, fun now => Nat.sub_eq_zero_of_le (of_decide_eq_true now)⟩

end Turns

end ScriptVet
