import LanceC.Machine.Unwind

/-! Computations that others can run between: a sequence of accesses to a state,
each chosen from what the one before it read, ending in a value or a panic. -/

namespace LanceC.Machine

/-- `rest` is chosen from the state the access found. -/
inductive Program (σ α : Type) where
  | finish (outcome : Unwind α)
  | access (update : σ → σ) (rest : σ → Program σ α)

namespace Program

variable {σ τ α β : Type}

def bind : Program σ α → (α → Program σ β) → Program σ β
  | finish (.returned value), next => next value
  | finish (.panicked payload), _ => finish (.panicked payload)
  | access update rest, next => access update fun state => (rest state).bind next

instance instMonad : Monad (Program σ) where
  pure value := finish (.returned value)
  bind := bind

def read : Program σ σ := access id fun state => finish (.returned state)

def modify (update : σ → σ) : Program σ Unit := access update fun _ => finish (.returned ())

def ofUnwind (outcome : Unwind α) : Program σ α := finish outcome

def panic (message : String) : Program σ α := finish (.panicked (.text message))

/-- The program on a part of the state. -/
def zoom (get : σ → τ) (put : τ → σ → σ) : Program τ α → Program σ α
  | finish outcome => finish outcome
  | access update rest =>
    access (fun state => put (update (get state)) state) fun state => (rest (get state)).zoom get put

/-- Whatever others do between its accesses, the program ends as `Post` says. -/
def Ensures (Post : Unwind α → Prop) : Program σ α → Prop
  | finish outcome => Post outcome
  | access _ rest => ∀ state, (rest state).Ensures Post

@[simp] theorem bind_eq (program : Program σ α) (next : α → Program σ β) :
    program >>= next = program.bind next := rfl

@[simp] theorem pure_eq (value : α) : (pure value : Program σ α) = finish (.returned value) := rfl

theorem ensures_true (program : Program σ α) : program.Ensures fun _ => True := by
  induction program with
  | finish outcome => trivial
  | access update rest ih => exact fun state => ih state

/-- A sequence ends as its second part does, unless the first has panicked. -/
theorem ensures_bind {First : Unwind α → Prop} {Post : Unwind β → Prop} {program : Program σ α}
    {next : α → Program σ β} (first : program.Ensures First)
    (returned : ∀ value, First (.returned value) → (next value).Ensures Post)
    (panicked : ∀ payload, First (.panicked payload) → Post (.panicked payload)) :
    (program.bind next).Ensures Post := by
  induction program with
  | finish outcome =>
    cases outcome with
    | returned value => exact returned value first
    | panicked payload => exact panicked payload first
  | access update rest ih => exact fun state => ih state (first state)

/-- Every access stays within `Rel`, whatever others do in between. -/
def Within (Rel : σ → σ → Prop) : Program σ α → Prop
  | finish _ => True
  | access update rest => ∀ state, Rel state (update state) ∧ (rest state).Within Rel

theorem within_modify {Rel : σ → σ → Prop} {update : σ → σ} (related : ∀ state, Rel state (update state)) :
    (modify update).Within Rel := fun state => ⟨related state, trivial⟩

theorem within_bind {Rel : σ → σ → Prop} {program : Program σ α} {next : α → Program σ β}
    (first : program.Within Rel) (second : ∀ value, (next value).Within Rel) : (program.bind next).Within Rel := by
  induction program with
  | finish outcome =>
    cases outcome with
    | returned value => exact second value
    | panicked payload => trivial
  | access update rest ih => exact fun state => ⟨(first state).1, ih state (first state).2⟩

end Program

end LanceC.Machine
