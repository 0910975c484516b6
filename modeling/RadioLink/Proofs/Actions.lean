import Mathlib
import RadioLink.Action

/-!
What every run of an operation keeps. A relation between the state before and the state after that
holds of no change at all and can be chained passes from the parts of an operation to the whole,
whether the parts fail or not. The other lemmas take a sequence of operations apart, one operation
at a time, along the results that are known.
-/

namespace RadioLink.Action

variable {ε ε' S T α β : Type}

theorem outcome_bind_ok {action : Action ε S α} {next : α → Action ε S β} {state reached : S} {a : α}
    (ran : action.outcome state = (.ok a, reached)) :
    (action >>= next).outcome state = (next a).outcome reached := by
  rw [outcome_bind, ran]

theorem outcome_bind_error {action : Action ε S α} {next : α → Action ε S β} {state reached : S}
    {e : ε} (ran : action.outcome state = (.error e, reached)) :
    (action >>= next).outcome state = (.error e, reached) := by
  rw [outcome_bind, ran]

theorem of_outcome_bind_ok {action : Action ε S α} {next : α → Action ε S β} {state after : S} {b : β}
    (ran : (action >>= next).outcome state = (.ok b, after)) :
    ∃ a middle, action.outcome state = (.ok a, middle) ∧
      (next a).outcome middle = (.ok b, after) := by
  rw [outcome_bind] at ran
  rcases first : action.outcome state with ⟨result, middle⟩
  rw [first] at ran
  cases result with
  | error e => cases (Prod.mk.inj ran).1
  | ok a => exact ⟨a, middle, rfl, ran⟩

theorem outcome_change_bind (f : S → S) (next : Unit → Action ε S β) (state : S) :
    (change f >>= next).outcome state = (next ()).outcome (f state) :=
  outcome_bind_ok (outcome_change f state)

theorem outcome_get_bind (next : S → Action ε S β) (state : S) :
    (get >>= next).outcome state = (next state).outcome state :=
  outcome_bind_ok (outcome_get state)

theorem outcome_map (f : α → β) (action : Action ε S α) (state : S) :
    (f <$> action).outcome state = ((action.outcome state).1.map f, (action.outcome state).2) := by
  simp only [outcome, Functor.map, EStateM.map]
  cases action state <;> rfl

/-- Every run takes a state to one that it is related to, also when the run fails. -/
def Keeps (R : S → S → Prop) (action : Action ε S α) : Prop :=
  ∀ state, R state (action.outcome state).2

namespace Keeps

variable {R : S → S → Prop}

theorem change {f : S → S} (related : ∀ state, R state (f state)) :
    Keeps R (change f : Action ε S Unit) := related

theorem total {f : S → α × S} (related : ∀ state, R state (f state).2) :
    Keeps R (total f : Action ε S α) := related

theorem map {f : α → β} {action : Action ε S α} (kept : Keeps R action) :
    Keeps R (f <$> action) := by
  intro state
  rw [outcome_map]
  exact kept state

theorem attempt {action : Action ε S α} (kept : Keeps R action) :
    Keeps R (attempt action : Action ε' S (Except ε α)) := kept

theorem mapError {f : ε → ε'} {action : Action ε S α} (kept : Keeps R action) :
    Keeps R (action.mapError f) := by
  intro state
  rw [outcome_mapError]
  exact kept state

theorem within {Q : T → T → Prop} {part : S → T} {put : T → S → S} {action : Action ε T α}
    (kept : Keeps Q action) (lift : ∀ state next, Q (part state) next → R state (put next state)) :
    Keeps R (action.within part put) := by
  intro state
  rw [outcome_within]
  exact lift state _ (kept (part state))

variable [IsPreorder S R]

theorem pure (a : α) : Keeps R (Pure.pure a : Action ε S α) := fun state => refl_of R state

theorem throw (e : ε) : Keeps R (MonadExcept.throw e : Action ε S α) := fun state => refl_of R state

theorem get : Keeps R (MonadState.get : Action ε S S) := fun state => refl_of R state

theorem ofExcept (result : Except ε α) : Keeps R (ofExcept result : Action ε S α) := by
  intro state
  rw [outcome_ofExcept]
  exact refl_of R state

theorem bind {action : Action ε S α} {next : α → Action ε S β} (first : Keeps R action)
    (rest : ∀ a, Keeps R (next a)) : Keeps R (action >>= next) := by
  intro state
  have reached := first state
  rw [outcome_bind]
  rcases ran : action.outcome state with ⟨result, middle⟩
  rw [ran] at reached
  cases result with
  | error e => exact reached
  | ok a => exact IsTrans.trans _ _ _ reached (rest a middle)

end Keeps

def Fails (kind : ε → Prop) (action : Action ε S α) : Prop :=
  ∀ state error, (action.outcome state).1 = .error error → kind error

namespace Fails

variable {kind : ε → Prop}

theorem pure (a : α) : Fails kind (Pure.pure a : Action ε S α) := by
  intro state error failed
  cases failed

theorem get : Fails kind (MonadState.get : Action ε S S) := by
  intro state error failed
  cases failed

theorem change (f : S → S) : Fails kind (change f : Action ε S Unit) := by
  intro state error failed
  cases failed

theorem throw {e : ε} (own : kind e) : Fails kind (MonadExcept.throw e : Action ε S α) := by
  intro state error failed
  cases failed
  exact own

theorem bind {action : Action ε S α} {next : α → Action ε S β} (first : Fails kind action)
    (later : ∀ a, Fails kind (next a)) : Fails kind (action >>= next) := by
  intro state error failed
  rw [outcome_bind] at failed
  rcases ran : action.outcome state with ⟨result, reached⟩
  rw [ran] at failed
  cases result with
  | ok a => exact later a reached error failed
  | error e =>
    cases failed
    apply first state
    rw [ran]

end Fails

end RadioLink.Action
