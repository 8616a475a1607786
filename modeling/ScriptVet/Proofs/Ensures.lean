import Mathlib.Data.List.Forall2
import Mathlib.Order.Defs.Unbundled
import ScriptVet.Activity
import ScriptVet.Proofs.Result

/-!
# What activities ensure

An activity that pauses goes on in whatever state the others have left. All that it can rely on is
an invariant that the others keep, and it has to keep the invariant itself when it pauses. Under
that condition `Ensures` says what its end is like. An activity that has the state to itself is the
case in which nobody else does anything. `Strides` says what an activity does from one pause to the
next, and how often it pauses.
-/

namespace ScriptVet

variable {σ τ α β : Type}

namespace Course

/-- The invariant holds at every pause, and if it holds whenever the course goes on then the end
is as described. -/
def Ensures (inv : σ → Prop) (post : Result α → σ → Prop) : Course σ α → Prop
  | ended result s => post result s
  | paused _ s rest => inv s ∧ ∀ s, inv s → (rest s).Ensures inv post

variable {inv : σ → Prop} {post : Result α → σ → Prop}

theorem Ensures.mono {post' : Result α → σ → Prop} {course : Course σ α}
    (h : course.Ensures inv post) (weaker : ∀ result s, post result s → post' result s) :
    course.Ensures inv post' := by
  induction course with
  | ended result s => exact weaker result s h
  | paused pause s rest ih => exact ⟨h.1, fun s' hs => ih s' (h.2 s' hs)⟩

theorem Ensures.andThen {post' : Result β → σ → Prop} {course : Course σ α}
    {next : Result α → σ → Course σ β} (h : course.Ensures inv post)
    (goesOn : ∀ result s, post result s → (next result s).Ensures inv post') :
    (course.andThen next).Ensures inv post' := by
  induction course with
  | ended result s => exact goesOn result s h
  | paused pause s rest ih => exact ⟨h.1, fun s' hs => ih s' (h.2 s' hs)⟩

/-- A course that is not interrupted ends as described. -/
theorem Ensures.finish {course : Course σ α} (h : course.Ensures inv post) :
    post course.finish.1 course.finish.2 := by
  induction course with
  | ended result s => exact h
  | paused pause s rest ih => exact ih s (h.2 s h.1)

/-- A course on a part of the state leaves the rest as the others leave it. -/
theorem Ensures.inPart {part : τ → σ} {put : σ → τ → τ} {whole : τ → Prop}
    {post' : Result α → τ → Prop} {course : Course σ α} (h : course.Ensures inv post)
    (seen : ∀ t, whole t → inv (part t)) (kept : ∀ s t, whole t → inv s → whole (put s t))
    (ends : ∀ result s t, whole t → post result s → post' result (put s t)) {t : τ}
    (ht : whole t) : (course.inPart part put t).Ensures whole post' := by
  induction course generalizing t with
  | ended result s => exact ends result s t ht h
  | paused pause s rest ih =>
      exact ⟨kept s t ht h.1, fun t' ht' => ih (part t') (h.2 _ (seen t' ht')) ht'⟩

/-- Every stretch of the course, from where it begins or goes on to its next pause or its end, does
what is allowed, and there are at most so many pauses, whatever the others do. -/
def Strides (allowed : σ → σ → Prop) : Course σ α → σ → Nat → Prop
  | .ended _ s', s, _ => allowed s s'
  | .paused _ s' rest, s, n => allowed s s' ∧ ∃ m, n = m + 1 ∧ ∀ s, (rest s).Strides allowed s m

variable {allowed : σ → σ → Prop} {course : Course σ α} {s : σ} {m n : Nat}

theorem Strides.mono {allowed' : σ → σ → Prop} (h : course.Strides allowed s m) (fewer : m ≤ n)
    (more : ∀ s s', allowed s s' → allowed' s s') : course.Strides allowed' s n := by
  induction course generalizing s m n with
  | ended result s' => exact more s s' h
  | paused pause s' rest ih =>
      obtain ⟨first, m, rfl, later⟩ := h
      obtain ⟨n, rfl⟩ := Nat.exists_eq_add_of_le' (Nat.le_trans (Nat.succ_pos m) fewer)
      exact ⟨more s s' first, n, rfl,
        fun s'' => ih s'' (later s'') (Nat.le_of_succ_le_succ fewer)⟩

/-- The first stretch may begin earlier. -/
theorem Strides.after [IsTrans σ allowed] {s' : σ} (before : allowed s s')
    (h : course.Strides allowed s' n) : course.Strides allowed s n := by
  cases course with
  | ended result s'' => exact trans_of allowed before h
  | paused pause s'' rest => exact ⟨trans_of allowed before h.1, h.2⟩

theorem Strides.andThen [IsTrans σ allowed] {next : Result α → σ → Course σ β}
    (h : course.Strides allowed s m) (goesOn : ∀ result s, (next result s).Strides allowed s n) :
    (course.andThen next).Strides allowed s (m + n) := by
  induction course generalizing s m with
  | ended result s' =>
      exact .after h ((goesOn result s').mono (Nat.le_add_left n m) fun _ _ => id)
  | paused pause s' rest ih =>
      obtain ⟨first, m, rfl, later⟩ := h
      exact ⟨first, m + n, Nat.add_right_comm m 1 n, fun s'' => ih s'' (later s'')⟩

/-- What a course does that is not interrupted is allowed. -/
theorem Strides.finish [IsTrans σ allowed] (h : course.Strides allowed s n) :
    allowed s course.finish.2 := by
  induction course generalizing s n with
  | ended result s' => exact h
  | paused pause s' rest ih =>
      obtain ⟨first, m, -, later⟩ := h
      exact trans_of allowed first (ih s' (later s'))

theorem Strides.inPart {part : τ → σ} {put : σ → τ → τ} {whole : τ → τ → Prop}
    (seen : ∀ s t, allowed (part t) s → whole t (put s t)) {t : τ}
    (h : course.Strides allowed (part t) n) : (course.inPart part put t).Strides whole t n := by
  induction course generalizing n t with
  | ended result s => exact seen s t h
  | paused pause s rest ih =>
      obtain ⟨first, m, rfl, later⟩ := h
      exact ⟨seen s t first, m, rfl, fun t' => ih (part t') (later (part t'))⟩

end Course

namespace Activity

theorem bind_pure_course (course : Course σ α) :
    course.andThen (fun
      | .ok a => ofResult (.ok a)
      | .error fault => ofResult (.error fault)) = course := by
  induction course with
  | ended result s => cases result <;> rfl
  | paused pause s rest ih => exact congrArg (Course.paused pause s) (funext ih)

theorem andThen_andThen {γ : Type} (course : Course σ α) (next : Result α → σ → Course σ β)
    (last : Result β → σ → Course σ γ) :
    (course.andThen next).andThen last = course.andThen fun r s => (next r s).andThen last := by
  induction course with
  | ended result s => rfl
  | paused pause s rest ih => exact congrArg (Course.paused pause s) (funext ih)

instance : LawfulMonad (Activity σ) :=
  .mk' _ (fun x => funext fun s => bind_pure_course (x s)) (fun _ _ => rfl) fun x f g =>
    funext fun s => by
      refine (andThen_andThen (x s) _ _).trans (congrArg (x s).andThen (funext fun result => ?_))
      cases result <;> rfl

instance : LawfulMonadLift (Except Fault) (Activity σ) where
  monadLift_pure _ := rfl
  monadLift_bind x _ := by cases x <;> rfl

variable {inv : σ → Prop} {mid : Result α → σ → Prop} {post : Result β → σ → Prop}

theorem ensures_bind {x : Activity σ α} {next : α → Activity σ β} {s : σ}
    (first : (x s).Ensures inv mid)
    (goesOn : ∀ a s, mid (.ok a) s → (next a s).Ensures inv post)
    (fails : ∀ fault s, mid (.error fault) s → post (.error fault) s) :
    ((x >>= next) s).Ensures inv post := by
  refine Course.Ensures.andThen first fun result s' h => ?_
  cases result with
  | ok a => exact goesOn a s' h
  | error fault => exact fails fault s' h

theorem ensures_tryCatch {mid post : Result α → σ → Prop} {x : Activity σ α}
    {next : Fault → Activity σ α} {s : σ} (first : (x s).Ensures inv mid)
    (ends : ∀ a s, mid (.ok a) s → post (.ok a) s)
    (handled : ∀ fault s, mid (.error fault) s → (next fault s).Ensures inv post) :
    ((tryCatch x next : Activity σ α) s).Ensures inv post := by
  refine Course.Ensures.andThen first fun result s' h => ?_
  cases result with
  | ok a => exact ends a s' h
  | error fault => exact handled fault s' h

theorem ensures_run {mid : Result α → σ → Prop} {x : Activity σ α} {s : σ}
    (h : (x s).Ensures inv mid) : mid (x.run s).1 (x.run s).2 :=
  h.finish

/-- Activities that are done one after another give a list of values as described, or the fault of
one of them. Each can rely on what holds after the values before it. -/
theorem ensures_mapM {γ : Type} (work : γ → Activity σ α) (good : γ → α → Prop)
    (bad : γ → Fault → Prop) {cs : List γ}
    (each : ∀ c ∈ cs, ∀ s, inv s → (work c s).Ensures inv fun result s' =>
      Result.Meets (fun a => inv s' ∧ good c a) (bad c) result) {s : σ} (h : inv s) :
    ((cs.map work).mapM id s).Ensures inv fun result s' =>
      Result.Meets (fun as => inv s' ∧ List.Forall₂ good cs as)
        (fun fault => ∃ c ∈ cs, bad c fault) result := by
  induction cs generalizing s with
  | nil => exact ⟨h, .nil⟩
  | cons c cs ih =>
      rw [List.forall_mem_cons] at each
      rw [List.map_cons, List.mapM_cons, id]
      refine ensures_bind (each.1 s h) (fun a s' ⟨h', first⟩ => ?_)
        fun fault s' failed => ⟨c, List.mem_cons_self, failed⟩
      refine ensures_bind (ih each.2 h') (fun as s'' ⟨h'', rest⟩ => ⟨h'', .cons first rest⟩) ?_
      rintro fault s'' ⟨c', hc, failed⟩
      exact ⟨c', List.mem_cons_of_mem c hc, failed⟩

/-- A value at the end comes from values at every step. -/
theorem run_bind_eq_ok {x : Activity σ α} {next : α → Activity σ β} {s s' : σ} {b : β} :
    (x >>= next).run s = (.ok b, s') ↔
      ∃ a middle, x.run s = (.ok a, middle) ∧ (next a).run middle = (.ok b, s') := by
  rw [run_bind]
  rcases x.run s with ⟨result, middle⟩
  cases result <;> simp

/-! ## Strides -/

/-- Every stretch of the activity does what is allowed, and it pauses at most so often, wherever it
is begun. -/
def Strides (allowed : σ → σ → Prop) (x : Activity σ α) (n : Nat) : Prop :=
  ∀ s, (x s).Strides allowed s n

variable {allowed : σ → σ → Prop} {x : Activity σ α} {next : α → Activity σ β} {m n : Nat}

theorem Strides.mono (h : x.Strides allowed m) (fewer : m ≤ n) : x.Strides allowed n :=
  fun s => (h s).mono fewer fun _ _ => id

theorem Strides.run [IsTrans σ allowed] (h : x.Strides allowed n) (s : σ) :
    allowed s (x.run s).2 :=
  (h s).finish

theorem strides_access {use : σ → α × σ} (step : ∀ s, allowed s (use s).2) :
    (access use).Strides allowed 0 :=
  step

theorem Strides.inPart {part : τ → σ} {put : σ → τ → τ} {whole : τ → τ → Prop}
    (h : x.Strides allowed n) (seen : ∀ s t, allowed (part t) s → whole t (put s t)) :
    (x.inPart part put).Strides whole n :=
  fun t => (h (part t)).inPart seen

section

variable [IsPreorder σ allowed]

theorem strides_ofResult (result : Result α) : (ofResult result : Activity σ α).Strides allowed 0 :=
  refl_of allowed

theorem strides_pause (p : Pause) : (pause p : Activity σ Unit).Strides allowed 1 :=
  fun s => ⟨refl_of allowed s, 0, rfl, refl_of allowed⟩

theorem strides_bind {s : σ} (first : (x s).Strides allowed s m)
    (goesOn : ∀ a, (next a).Strides allowed n) :
    ((x >>= next) s).Strides allowed s (m + n) := by
  refine first.andThen fun result s' => ?_
  cases result with
  | ok a => exact goesOn a s'
  | error fault => exact refl_of allowed s'

theorem Strides.bind (first : x.Strides allowed m) (goesOn : ∀ a, (next a).Strides allowed n) :
    (x >>= next).Strides allowed (m + n) :=
  fun s => strides_bind (first s) goesOn

/-- An activity that does not pause makes no difference to the pauses that come after it. -/
theorem Strides.bind_right (first : x.Strides allowed 0)
    (goesOn : ∀ a, (next a).Strides allowed n) : (x >>= next).Strides allowed n :=
  (first.bind goesOn).mono (Nat.le_of_eq (Nat.zero_add n))

/-- An activity that does not pause makes no difference to the pauses that come before it. -/
theorem Strides.bind_left (first : x.Strides allowed n)
    (goesOn : ∀ a, (next a).Strides allowed 0) : (x >>= next).Strides allowed n :=
  first.bind goesOn

/-- Neither does what is done about a fault, if it does not pause. -/
theorem Strides.tryCatch {next : Fault → Activity σ α} (first : x.Strides allowed n)
    (handled : ∀ fault, (next fault).Strides allowed 0) :
    (tryCatch x next : Activity σ α).Strides allowed n := by
  refine fun s => (first s).andThen (n := 0) fun result s' => ?_
  cases result with
  | ok a => exact refl_of allowed s'
  | error fault => exact handled fault s'

end

/-! ## Steps without a pause -/

theorem liftM_apply (result : Result α) (s : σ) :
    (liftM result : Activity σ α) s = .ended result s := rfl

theorem get_bind_apply (next : σ → Activity σ β) (s : σ) : (get >>= next) s = next s s := rfl

theorem modify_bind_apply (f : σ → σ) (next : PUnit → Activity σ β) (s : σ) :
    ((modify f : Activity σ PUnit) >>= next) s = next ⟨⟩ (f s) := rfl

theorem liftM_bind_apply (result : Result α) (next : α → Activity σ β) (s : σ) :
    ((liftM result : Activity σ α) >>= next) s =
      match result with
      | .ok a => next a s
      | .error fault => .ended (.error fault) s := by
  cases result <;> rfl

end Activity

end ScriptVet
