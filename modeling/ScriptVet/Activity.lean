import ScriptVet.Fault

/-!
# Activities

An activity works on a state and gives a value or ends in a fault. On the way it may pause, so that
others that work on the same state take their turns. `run` follows an activity that has the state
to itself, and there a pause is nothing: the laws of `run` say that it treats an activity as plain
work on the state.
-/

namespace ScriptVet

/-- What becomes of an activity that pauses if the others are given up before its next turn. -/
inductive Pause where
  /-- It is given up as well. -/
  | idle
  /-- It has what it waited for, so that it is still brought to its end. -/
  | answered
  deriving Repr, DecidableEq

/-- How an activity goes on from some state. -/
inductive Course (σ α : Type) where
  | ended (result : Result α) (state : σ)
  | paused (pause : Pause) (state : σ) (rest : σ → Course σ α)

namespace Course

variable {σ τ α β : Type}

/-- Goes on after the end. -/
def andThen (next : Result α → σ → Course σ β) : Course σ α → Course σ β
  | ended result s => next result s
  | paused pause s rest => paused pause s fun s => (rest s).andThen next

/-- The end that is reached if nothing else happens in between. -/
def finish : Course σ α → Result α × σ
  | ended result s => (result, s)
  | paused _ s rest => (rest s).finish

/-- The same course in a state of which the activity sees a part. -/
def inPart (part : τ → σ) (put : σ → τ → τ) : Course σ α → τ → Course τ α
  | ended result s, t => ended result (put s t)
  | paused pause s rest, t => paused pause (put s t) fun t => (rest (part t)).inPart part put t

theorem finish_andThen (next : Result α → σ → Course σ β) (course : Course σ α) :
    (course.andThen next).finish = (next course.finish.1 course.finish.2).finish := by
  induction course with
  | ended result s => rfl
  | paused pause s rest ih => exact ih s

end Course

/-- Work on a state that may pause. -/
def Activity (σ α : Type) : Type :=
  σ → Course σ α

namespace Activity

variable {σ τ α β : Type}

/-- What the activity gives, and the state it leaves, if it has the state to itself. -/
def run (x : Activity σ α) (s : σ) : Result α × σ :=
  (x s).finish

/-- Nothing to do any more. -/
def ofResult (result : Result α) : Activity σ α :=
  fun s => .ended result s

/-- Goes on with whatever the first activity gave. -/
def andThen (x : Activity σ α) (next : Result α → Activity σ β) : Activity σ β :=
  fun s => (x s).andThen next

/-- Goes on after a value; a fault stays. -/
def bind (x : Activity σ α) (next : α → Activity σ β) : Activity σ β :=
  x.andThen fun
    | .ok a => next a
    | .error fault => ofResult (.error fault)

/-- Goes on after a fault; a value stays. -/
def recover (x : Activity σ α) (next : Fault → Activity σ α) : Activity σ α :=
  x.andThen fun
    | .ok a => ofResult (.ok a)
    | .error fault => next fault

/-- Looks at the state and changes it. -/
def access (use : σ → α × σ) : Activity σ α :=
  fun s => .ended (.ok (use s).1) (use s).2

/-- Lets the others take their turns. -/
def pause (p : Pause) : Activity σ Unit :=
  fun s => .paused p s fun s => .ended (.ok ()) s

/-- An activity that sees a part of the state. -/
def inPart (part : τ → σ) (put : σ → τ → τ) (x : Activity σ α) : Activity τ α :=
  fun t => (x (part t)).inPart part put t

instance : Monad (Activity σ) where
  pure a := ofResult (.ok a)
  bind := bind

instance : MonadStateOf σ (Activity σ) where
  get := access fun s => (s, s)
  set s := access fun _ => ((), s)
  modifyGet := access

instance : MonadExceptOf Fault (Activity σ) where
  throw fault := ofResult (.error fault)
  tryCatch := recover

instance : MonadLift (Except Fault) (Activity σ) where
  monadLift := ofResult

@[simp] theorem run_pure (a : α) (s : σ) : (pure a : Activity σ α).run s = (.ok a, s) := rfl

@[simp] theorem run_ofResult (result : Result α) (s : σ) :
    (ofResult result : Activity σ α).run s = (result, s) := rfl

@[simp] theorem run_liftM (result : Result α) (s : σ) :
    (liftM result : Activity σ α).run s = (result, s) := rfl

@[simp] theorem run_throw (fault : Fault) (s : σ) :
    (throw fault : Activity σ α).run s = (.error fault, s) := rfl

@[simp] theorem run_pause (p : Pause) (s : σ) : (pause p).run s = (.ok (), s) := rfl

@[simp] theorem run_get (s : σ) : (get : Activity σ σ).run s = (.ok s, s) := rfl

@[simp] theorem run_set (s s' : σ) : (set s' : Activity σ Unit).run s = (.ok (), s') := rfl

@[simp] theorem run_modify (f : σ → σ) (s : σ) :
    (modify f : Activity σ Unit).run s = (.ok (), f s) := rfl

theorem run_andThen (x : Activity σ α) (next : Result α → Activity σ β) (s : σ) :
    (x.andThen next).run s = (next (x.run s).1).run (x.run s).2 :=
  Course.finish_andThen next (x s)

/-- An activity goes on after the value of the one before. -/
@[simp] theorem run_bind (x : Activity σ α) (next : α → Activity σ β) (s : σ) :
    (x >>= next).run s =
      match x.run s with
      | (.ok a, s) => (next a).run s
      | (.error fault, s) => (.error fault, s) := by
  have h := run_andThen x (fun | .ok a => next a | .error fault => ofResult (.error fault)) s
  rcases hx : x.run s with ⟨result, s'⟩
  rw [hx] at h
  cases result <;> exact h

/-- A fault is handled in the state in which it came up. -/
@[simp] theorem run_tryCatch (x : Activity σ α) (next : Fault → Activity σ α) (s : σ) :
    (tryCatch x next).run s =
      match x.run s with
      | (.ok a, s) => (.ok a, s)
      | (.error fault, s) => (next fault).run s := by
  have h := run_andThen x (fun | .ok a => ofResult (.ok a) | .error fault => next fault) s
  rcases hx : x.run s with ⟨result, s'⟩
  rw [hx] at h
  cases result <;> exact h

/-- An activity on a part of the state leaves the rest as it is. -/
theorem run_inPart {part : τ → σ} {put : σ → τ → τ} (put_put : ∀ s s' t, put s (put s' t) = put s t)
    (part_put : ∀ s t, part (put s t) = s) (x : Activity σ α) (t : τ) :
    (x.inPart part put).run t = ((x.run (part t)).1, put (x.run (part t)).2 t) := by
  have h : ∀ (course : Course σ α) (t : τ),
      (course.inPart part put t).finish = (course.finish.1, put course.finish.2 t) := by
    intro course
    induction course with
    | ended result s => intro t; rfl
    | paused p s rest ih =>
      intro t
      have := ih s (put s t)
      simp only [Course.inPart, Course.finish, part_put, put_put] at this ⊢
      exact this
  exact h (x (part t)) t

end Activity

end ScriptVet
