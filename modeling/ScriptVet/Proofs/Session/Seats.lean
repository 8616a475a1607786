import Mathlib.Algebra.GroupWithZero.Nat
import ScriptVet.Proofs.Session.Turns

/-!
# Places

Parts of jobs that are done side by side wait for a place until they are called. Nobody waits in
vain: while a part waits there is another one that has a place and is still in line, and when that
one ends, its place goes to the first that waits.
-/

namespace ScriptVet

variable {σ α : Type}

/-- A sum over a list of which one element is changed. -/
theorem sum_map_modify (f : α → Nat) (g : α → α) {l : List α} {i : Nat} {a : α}
    (there : l[i]? = some a) :
    ((l.modify i g).map f).sum + f a = (l.map f).sum + f (g a) := by
  induction l generalizing i with
  | nil => cases there
  | cons b l ih =>
      cases i with
      | zero =>
          obtain rfl := Option.some.inj there
          simp only [List.modify_zero_cons, List.map_cons, List.sum_cons]
          omega
      | succ i =>
          have rest := ih there
          simp only [List.modify_succ_cons, List.map_cons, List.sum_cons]
          omega

namespace Standing

def isWaiting : Standing σ α → Bool
  | .waits _ => true
  | _ => false

def isCalled : Standing σ α → Bool
  | .called _ => true
  | _ => false

def isEnded : Standing σ α → Bool
  | .ended _ => true
  | _ => false

/-- The part goes on when its turn comes. -/
def isReady (standing : Standing σ α) : Bool :=
  !standing.isWaiting && !standing.isEnded

/-- How many places the part has. -/
def seats : Standing σ α → Nat
  | .called _ | .paused .. => 1
  | _ => 0

end Standing

namespace Turns

variable {places i : Nat} {queue queue' : List Turn} {t t' : Turns σ α}

/-- How far a part has come, if there is one in the position. -/
def standing? (t : Turns σ α) (i : Nat) : Option (Standing σ α) :=
  (t.parts[i]?).map Part.standing

theorem standing?_setStanding (t : Turns σ α) (i : Nat) (new : Standing σ α) (k : Nat) :
    (t.setStanding i new).standing? k =
      if i = k then (t.standing? k).map fun _ => new else t.standing? k := by
  simp only [standing?, setStanding, List.getElem?_modify]
  cases t.parts[k]? with
  | none => simp
  | some part => by_cases same : i = k <;> simp [same]

/-- A part of which another standing is noted has that standing. -/
theorem standing?_of_parts {old new : Standing σ α} (there : t.standing? i = some old)
    (parts : t'.parts = (t.setStanding i new).parts) : t'.standing? i = some new := by
  have moved := standing?_setStanding t i new i
  rw [if_pos rfl, there] at moved
  rw [standing?, parts]
  exact moved

/-- How many places the parts have. -/
def taken (t : Turns σ α) : Nat :=
  (t.parts.map (·.standing.seats)).sum

theorem taken_setStanding {i : Nat} {old : Standing σ α} (there : t.standing? i = some old)
    (new : Standing σ α) : (t.setStanding i new).taken + old.seats = t.taken + new.seats := by
  obtain ⟨part, found, rfl⟩ := Option.map_eq_some_iff.mp there
  exact sum_map_modify (fun part => part.standing.seats)
    (fun p : Part σ α => { p with standing := new }) found

/-- A place that a part has is taken. -/
theorem taken_pos {standing : Standing σ α} (there : t.standing? i = some standing)
    (seated : 0 < standing.seats) : 0 < t.taken := by
  obtain ⟨part, found, rfl⟩ := Option.map_eq_some_iff.mp there
  refine Nat.pos_of_ne_zero fun free => Nat.ne_of_gt seated ?_
  exact List.sum_eq_zero_iff_forall_eq_nat.mp free _
    (List.mem_map.mpr ⟨part, List.mem_of_getElem? found, rfl⟩)

/-- All places are free or taken, whoever is ready is in line, and whoever waits is listed, once. -/
structure Seats (places : Nat) (queue : List Turn) (t : Turns σ α) : Prop where
  all : t.places + t.taken = places
  ready : ∀ {i standing}, t.standing? i = some standing → standing.isReady → .goOn i ∈ queue
  listed : ∀ {i standing}, t.standing? i = some standing → standing.isWaiting → i ∈ t.waiting
  waiting : ∀ i ∈ t.waiting, ∃ standing, t.standing? i = some standing ∧
    (standing.isWaiting ∨ standing.isCalled)
  once : t.waiting.Nodup

/-- While a part waits another one has a place. -/
def IsServed (t : Turns σ α) : Prop :=
  (∃ i standing, t.standing? i = some standing ∧ standing.isWaiting) → 0 < t.taken

/-- At the start there are no parts, and all places are free. -/
theorem seats_start (jobs : List (Job σ α)) (single : Bool) (places : Nat) (s : σ)
    (queue : List Turn) : (start jobs single places s).Seats places queue :=
  ⟨rfl, nofun, nofun, nofun, .nil⟩

/-- The order of the line is of no importance. -/
theorem Seats.congr (h : t.Seats places queue) (parts : t'.parts = t.parts)
    (seats : t'.places = t.places) (waiting : t'.waiting = t.waiting)
    (line : ∀ {k}, .goOn k ∈ queue → .goOn k ∈ queue') : t'.Seats places queue' := by
  have standing (k : Nat) : t'.standing? k = t.standing? k := by rw [standing?, standing?, parts]
  refine ⟨?_, fun {k _} there ready => line (h.ready (standing k ▸ there) ready),
    fun {k _} there waits => waiting ▸ h.listed (standing k ▸ there) waits, fun k hk => ?_,
    waiting ▸ h.once⟩
  · rw [seats, taken, parts]
    exact h.all
  · rw [standing]
    exact h.waiting k (waiting ▸ hk)

/-- One part comes from one standing to another. -/
theorem Seats.move (h : t.Seats places queue) {i : Nat} {old : Standing σ α}
    (new : Standing σ α) (there : t.standing? i = some old)
    (parts : t'.parts = (t.setStanding i new).parts)
    (seats : t'.places + new.seats = t.places + old.seats)
    (ready : new.isReady → .goOn i ∈ queue')
    (others : ∀ {k}, k ≠ i → .goOn k ∈ queue → .goOn k ∈ queue')
    (listed : ∀ {k}, k ≠ i → (k ∈ t'.waiting ↔ k ∈ t.waiting))
    (joins : new.isWaiting → i ∈ t'.waiting)
    (stays : i ∈ t'.waiting → new.isWaiting ∨ new.isCalled)
    (once : t'.waiting.Nodup) : t'.Seats places queue' := by
  have moved (k : Nat) : t'.standing? k =
      if i = k then (t.standing? k).map fun _ => new else t.standing? k := by
    rw [← standing?_setStanding, standing?, standing?, parts]
  have here : t'.standing? i = some new := by simp [moved, there]
  have other {k : Nat} (apart : k ≠ i) : t'.standing? k = t.standing? k := by
    rw [moved, if_neg (Ne.symm apart)]
  refine ⟨?_, ?_, ?_, ?_, once⟩
  · have all := h.all
    have taken := taken_setStanding there new
    have same : t'.taken = (t.setStanding i new).taken := by rw [Turns.taken, Turns.taken, parts]
    omega
  · intro k standing now isReady
    by_cases apart : k = i
    · subst apart
      cases here.symm.trans now
      exact ready isReady
    · exact others apart (h.ready (other apart ▸ now) isReady)
  · intro k standing now isWaiting
    by_cases apart : k = i
    · subst apart
      cases here.symm.trans now
      exact joins isWaiting
    · exact (listed apart).mpr (h.listed (other apart ▸ now) isWaiting)
  · intro k hk
    by_cases apart : k = i
    · subst apart
      exact ⟨new, here, stays hk⟩
    · rw [other apart]
      exact h.waiting k ((listed apart).mp hk)

/-- Whoever neither waits nor has been called is not listed. -/
theorem Seats.notMem_waiting (h : t.Seats places queue) {i : Nat} {standing : Standing σ α}
    (there : t.standing? i = some standing) (apart : standing.isWaiting = false)
    (uncalled : standing.isCalled = false) : i ∉ t.waiting := by
  intro hi
  obtain ⟨standing', there', listed⟩ := h.waiting i hi
  cases there.symm.trans there'
  simp [apart, uncalled] at listed

/-- A part that finds no free place, or others before it, begins to wait. -/
theorem Seats.wait (h : t.Seats places (.goOn i :: queue)) {x : Activity σ α}
    (there : t.standing? i = some (.fresh x)) :
    ({ t with waiting := t.waiting ++ [i] }.setStanding i (.waits x)).Seats places queue := by
  have apart := h.notMem_waiting there rfl rfl
  refine h.move (.waits x) there rfl rfl nofun (fun other hk => ?_) (fun other => ?_) ?_
    (fun _ => .inl rfl) ?_
  · exact (List.mem_cons.mp hk).resolve_left (by simpa using other)
  · simp [setStanding, other]
  · simp [setStanding]
  · refine List.nodup_append.mpr ⟨h.once, by simp, fun k hk l hl same => apart ?_⟩
    rwa [← List.mem_singleton.mp hl, ← same]

theorem IsServed.wait (h : t.Seats places queue) (somePlace : 0 < places) (served : t.IsServed)
    {x : Activity σ α} (there : t.standing? i = some (.fresh x))
    (blocked : t.places = 0 ∨ t.waiting ≠ []) :
    ({ t with waiting := t.waiting ++ [i] }.setStanding i (.waits x)).IsServed := by
  have before : 0 < t.taken := by
    rcases blocked with full | others
    · have all := h.all
      omega
    · obtain ⟨k, hk⟩ := List.exists_mem_of_ne_nil _ others
      obtain ⟨standing, there, waits | called⟩ := h.waiting k hk
      · exact served ⟨k, standing, there, waits⟩
      · refine taken_pos there ?_
        cases standing with
        | called x => exact Nat.zero_lt_one
        | _ => cases called
  have same : (t.setStanding i (.waits x)).taken + 0 = t.taken + 0 := taken_setStanding there _
  exact fun _ => Nat.lt_of_lt_of_eq before same.symm

/-- A part that has been called is no longer listed once it goes on. -/
theorem Seats.erase (h : t.Seats places queue) {standing : Standing σ α}
    (there : t.standing? i = some standing) (called : standing.isWaiting = false) :
    Seats places queue { t with waiting := t.waiting.erase i } where
  all := h.all
  ready := h.ready
  listed {k standing'} there' waits := by
    have apart : k ≠ i := by
      rintro rfl
      cases there.symm.trans there'
      rw [called] at waits
      cases waits
    exact (List.mem_erase_of_ne apart).mpr (h.listed there' waits)
  waiting k hk := h.waiting k (List.mem_of_mem_erase hk)
  once := h.once.erase i

/-- What becomes of the others when a place is free: the first that waits is called, if one does. -/
theorem callNext_cases (h : t.Seats places queue) :
    (t.callNext = t ∧ ∀ {k standing}, t.standing? k = some standing →
      standing.isWaiting = false) ∨
    ∃ k x, t.standing? k = some (.waits x) ∧
      t.callNext =
        ({ t with places := t.places - 1 }.setStanding k (.called x)).lineUp (.goOn k) := by
  rw [callNext]
  split
  · next none =>
    refine .inl ⟨rfl, fun {k standing} there => Bool.eq_false_iff.mpr fun waits => ?_⟩
    have nobody := List.findSome?_eq_none_iff.mp none k (h.listed there waits)
    obtain ⟨⟨job, standing⟩, found, rfl⟩ := Option.map_eq_some_iff.mp there
    rw [waits?, found] at nobody
    cases standing with
    | waits x => cases nobody
    | _ => cases waits
  · next n x first =>
    obtain ⟨n, -, waits⟩ := List.exists_of_findSome?_eq_some first
    rw [waits?] at waits
    split at waits
    · next job activity found =>
      cases waits
      exact .inr ⟨n, x, by rw [standing?, found]; rfl, rfl⟩
    · cases waits

/-- A call leaves alone whoever does not wait. -/
theorem standing?_callNext (h : t.Seats places queue) {standing : Standing σ α}
    (there : t.standing? i = some standing) (apart : standing.isWaiting = false) :
    t.callNext.standing? i = some standing ∧ t.callNext.waiting = t.waiting ∧
      t.callNext.state = t.state := by
  rcases callNext_cases h with ⟨same, -⟩ | ⟨k, x, waits, called⟩
  · rw [same]
    exact ⟨there, rfl, rfl⟩
  · have other : k ≠ i := by
      rintro rfl
      cases there.symm.trans waits
      cases apart
    have moved := standing?_setStanding t k (.called x) i
    rw [if_neg other, there] at moved
    rw [called]
    exact ⟨moved, rfl, rfl⟩

/-- A part that is called has the place. -/
theorem Seats.call (h : t.Seats places queue) {x : Activity σ α}
    (there : t.standing? i = some (.waits x))
    (parts : t'.parts = (t.setStanding i (.called x)).parts) (waiting : t'.waiting = t.waiting)
    (seats : t'.places + 1 = t.places) : t'.Seats places (queue ++ [.goOn i]) :=
  h.move (.called x) there parts seats (fun _ => by simp) (fun _ hk => by simp [hk])
    (fun _ => by rw [waiting]) nofun (fun _ => .inr rfl) (waiting ▸ h.once)

/-- A part that pauses keeps its place and is in line again. -/
theorem Seats.pause (h : t.Seats places (.goOn i :: queue)) {old : Standing σ α}
    (there : t.standing? i = some old) (apart : i ∉ t.waiting) {pause : Pause}
    {rest : σ → Course σ α} (parts : t'.parts = (t.setStanding i (.paused pause rest)).parts)
    (waiting : t'.waiting = t.waiting) (seats : t'.places + 1 = t.places + old.seats) :
    t'.Seats places (queue ++ [.goOn i]) := by
  refine h.move (.paused pause rest) there parts seats (fun _ => by simp) (fun other hk => ?_)
    (fun _ => by rw [waiting]) nofun (fun hi => absurd (waiting ▸ hi) apart) (waiting ▸ h.once)
  exact List.mem_append_left _ ((List.mem_cons.mp hk).resolve_left (by simpa using other))

/-- A part that ends gives up its place. -/
theorem Seats.end (h : t.Seats places (.goOn i :: queue)) {old : Standing σ α}
    (there : t.standing? i = some old) (apart : i ∉ t.waiting) {result : Result α}
    (parts : t'.parts = (t.setStanding i (.ended result)).parts) (waiting : t'.waiting = t.waiting)
    (seats : t'.places = t.places + old.seats) (heard : List Turn) :
    t'.Seats places (queue ++ heard) := by
  refine h.move (.ended result) there parts seats nofun (fun other hk => ?_)
    (fun _ => by rw [waiting]) nofun (fun hi => absurd (waiting ▸ hi) apart) (waiting ▸ h.once)
  exact List.mem_append_left _ ((List.mem_cons.mp hk).resolve_left (by simpa using other))

section

variable {job : Nat} {activities : List (Activity σ α)}
  (parts : t'.parts = t.parts ++ activities.map fun activity => ⟨job, .fresh activity⟩)

include parts

theorem standing?_of_append {standing : Standing σ α} (there : t.standing? i = some standing) :
    t'.standing? i = some standing := by
  obtain ⟨part, found, rfl⟩ := Option.map_eq_some_iff.mp there
  have inside := (List.getElem?_eq_some_iff.mp found).1
  rw [standing?, parts, List.getElem?_append_left inside, found]
  rfl

theorem standing?_append_cases {standing : Standing σ α} (there : t'.standing? i = some standing) :
    t.standing? i = some standing ∨
      ∃ n < activities.length, i = t.parts.length + n ∧ ∃ x, standing = .fresh x := by
  obtain ⟨part, found, rfl⟩ := Option.map_eq_some_iff.mp there
  by_cases old : i < t.parts.length
  · rw [parts, List.getElem?_append_left old] at found
    exact .inl (by rw [standing?, found]; rfl)
  · rw [parts, List.getElem?_append_right (by omega), List.getElem?_map] at found
    obtain ⟨x, new, rfl⟩ := Option.map_eq_some_iff.mp found
    have inside := (List.getElem?_eq_some_iff.mp new).1
    exact .inr ⟨i - t.parts.length, inside, by omega, x, rfl⟩

theorem taken_append : t'.taken = t.taken := by
  simp [taken, parts, Function.comp_def, Standing.seats]

/-- Parts that are yet to begin are in line. -/
theorem Seats.append (h : t.Seats places queue) (seats : t'.places = t.places)
    (waiting : t'.waiting = t.waiting) (line : ∀ {k}, .goOn k ∈ queue → .goOn k ∈ queue')
    (new : ∀ n < activities.length, .goOn (t.parts.length + n) ∈ queue') :
    t'.Seats places queue' where
  all := by
    rw [seats, taken_append parts]
    exact h.all
  ready there ready := by
    rcases standing?_append_cases parts there with old | ⟨n, inside, rfl, -⟩
    · exact line (h.ready old ready)
    · exact new n inside
  listed there waits := by
    rcases standing?_append_cases parts there with old | ⟨-, -, -, x, rfl⟩
    · exact waiting ▸ h.listed old waits
    · cases waits
  waiting k hk := by
    obtain ⟨standing, there, listed⟩ := h.waiting k (waiting ▸ hk)
    exact ⟨standing, standing?_of_append parts there, listed⟩
  once := waiting ▸ h.once

theorem IsServed.append (served : t.IsServed) : t'.IsServed := by
  rintro ⟨k, standing, there, waits⟩
  rw [taken_append parts]
  rcases standing?_append_cases parts there with old | ⟨-, -, -, x, rfl⟩
  · exact served ⟨k, standing, old, waits⟩
  · cases waits

end

/-- What the turn of a part comes to, by how far the part has come. -/
theorem goOn_eq (t : Turns σ α) (i : Nat) :
    t.goOn i =
      match t.standing? i with
      | some (.fresh x) =>
        if t.places = 0 ∨ t.waiting ≠ [] then
          { t with waiting := t.waiting ++ [i] }.setStanding i (.waits x)
        else { t with places := t.places - 1 }.advance i (x t.state)
      | some (.called x) =>
        let t := { t with waiting := t.waiting.erase i }
        if 0 < t.places then t.callNext.advance i (x t.callNext.state) else t.advance i (x t.state)
      | some (.paused _ rest) => t.advance i (rest t.state)
      | _ => t := by
  rw [goOn, ← standing?]
  cases t.standing? i with
  | none => rfl
  | some standing =>
      cases standing with
      | fresh x => simp
      | called x =>
          simp only
          split <;> rfl
      | _ => rfl

end Turns

end ScriptVet
