import LanceC.Machine.Unwind

/-! Calls over a state that may panic: a panic keeps what the call did to the state. -/

namespace LanceC.Machine

def Stateful (σ α : Type) := σ → Unwind α × σ

namespace Stateful

variable {σ τ α β : Type}

def bind (first : Stateful σ α) (next : α → Stateful σ β) : Stateful σ β := fun state =>
  match first state with
  | (.returned value, reached) => next value reached
  | (.panicked payload, reached) => (.panicked payload, reached)

instance instMonad : Monad (Stateful σ) where
  pure value := fun state => (.returned value, state)
  bind := bind

def modify (update : σ → σ) : Stateful σ Unit := fun state => (.returned (), update state)

/-- A part that leaves the state alone. -/
def ofUnwind (outcome : Unwind α) : Stateful σ α := fun state => (outcome, state)

def resumeUnwind (payload : Payload) : Stateful σ α := ofUnwind (.panicked payload)

def catchUnwind (body : Stateful σ α) : Stateful σ (Except Payload α) := fun state =>
  let (outcome, reached) := body state
  (.returned outcome.catchUnwind, reached)

/-- The call on a part of the state. -/
def zoom (get : σ → τ) (put : τ → σ → σ) (body : Stateful τ α) : Stateful σ α := fun state =>
  let (outcome, reached) := body (get state)
  (outcome, put reached state)

variable {first : Stateful σ α} {next : α → Stateful σ β} {state reached : σ}

theorem bind_returned {value : α} (runs : first state = (.returned value, reached)) :
    (first >>= next) state = next value reached := by
  change first.bind next state = _
  rw [bind, runs]

theorem bind_panicked {payload : Payload} (runs : first state = (.panicked payload, reached)) :
    (first >>= next) state = (.panicked payload, reached) := by
  change first.bind next state = _
  rw [bind, runs]

theorem catchUnwind_eq {outcome : Unwind α} (runs : first state = (outcome, reached)) :
    first.catchUnwind state = (.returned outcome.catchUnwind, reached) := by
  rw [catchUnwind, runs]

end Stateful

end LanceC.Machine
