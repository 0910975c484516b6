/-!
Operations that work on a state and may fail. A failed operation keeps the state it reached, since
what was written to a device stays written.
-/

namespace RadioLink

/-- An operation on states `S` that returns `α` or fails with `ε`. -/
abbrev Action (ε S α : Type) := EStateM ε S α

namespace Action

variable {ε ε' S T α β : Type}

/-- Result and final state of a run. -/
def outcome (action : Action ε S α) (state : S) : Except ε α × S :=
  match action state with
  | .ok a next => (.ok a, next)
  | .error e next => (.error e, next)

/-- Runs an operation and hands its failure over as a value. -/
def attempt (action : Action ε S α) : Action ε' S (Except ε α) := fun state =>
  .ok (action.outcome state).1 (action.outcome state).2

def mapError (f : ε → ε') (action : Action ε S α) : Action ε' S α := fun state =>
  match action state with
  | .ok a next => .ok a next
  | .error e next => .error (f e) next

/-- Runs an operation on a part of a larger state. -/
def within (part : S → T) (put : T → S → S) (action : Action ε T α) : Action ε S α := fun state =>
  match action (part state) with
  | .ok a next => .ok a (put next state)
  | .error e next => .error e (put next state)

/-- An operation that cannot fail. -/
def total (f : S → α × S) : Action ε S α := fun state => .ok (f state).1 (f state).2

/-- A change of state that cannot fail. -/
def change (f : S → S) : Action ε S Unit := fun state => .ok () (f state)

/-- Turns a result that is already known into an operation. -/
def ofExcept : Except ε α → Action ε S α
  | .ok a => pure a
  | .error e => throw e

@[simp] theorem outcome_pure (a : α) (state : S) :
    (pure a : Action ε S α).outcome state = (.ok a, state) := rfl

@[simp] theorem outcome_throw (e : ε) (state : S) :
    (throw e : Action ε S α).outcome state = (.error e, state) := rfl

@[simp] theorem outcome_get (state : S) :
    (get : Action ε S S).outcome state = (.ok state, state) := rfl

@[simp] theorem outcome_change (f : S → S) (state : S) :
    (change f : Action ε S Unit).outcome state = (.ok (), f state) := rfl

@[simp] theorem outcome_total (f : S → α × S) (state : S) :
    (total f : Action ε S α).outcome state = (.ok (f state).1, (f state).2) := rfl

@[simp] theorem outcome_attempt (action : Action ε S α) (state : S) :
    (attempt action : Action ε' S (Except ε α)).outcome state =
      (.ok (action.outcome state).1, (action.outcome state).2) := rfl

@[simp] theorem outcome_ofExcept (result : Except ε α) (state : S) :
    (ofExcept result : Action ε S α).outcome state = (result, state) := by
  cases result <;> rfl

/-- What follows a failed operation is not run. -/
theorem outcome_bind (action : Action ε S α) (next : α → Action ε S β) (state : S) :
    (action >>= next).outcome state =
      match action.outcome state with
      | (.ok a, reached) => (next a).outcome reached
      | (.error e, reached) => (.error e, reached) := by
  simp only [outcome, bind, EStateM.bind]
  cases action state <;> rfl

@[simp] theorem outcome_mapError (f : ε → ε') (action : Action ε S α) (state : S) :
    (action.mapError f).outcome state =
      ((action.outcome state).1.mapError f, (action.outcome state).2) := by
  simp only [outcome, mapError]
  cases action state <;> rfl

@[simp] theorem outcome_within (part : S → T) (put : T → S → S) (action : Action ε T α)
    (state : S) :
    (action.within part put).outcome state =
      ((action.outcome (part state)).1, put (action.outcome (part state)).2 state) := by
  simp only [outcome, within]
  cases action (part state) <;> rfl

end Action

end RadioLink
