import LanceC.Machine.Unwind

/-! Function bodies over a state: a body returns a value, returns an error early or
unwinds, and each way it leaves the state as far as it got. -/

namespace LanceC.Machine

def Body (σ ε α : Type) := σ → Unwind (Except ε α) × σ

namespace Body

variable {σ ε α β : Type}

def bind (first : Body σ ε α) (next : α → Body σ ε β) : Body σ ε β := fun state =>
  match first state with
  | (.returned (.ok value), reached) => next value reached
  | (.returned (.error error), reached) => (.returned (.error error), reached)
  | (.panicked payload, reached) => (.panicked payload, reached)

instance instMonad : Monad (Body σ ε) where
  pure value := fun state => (.returned (.ok value), state)
  bind := bind

def get : Body σ ε σ := fun state => (.returned (.ok state), state)

def modify (update : σ → σ) : Body σ ε Unit := fun state => (.returned (.ok ()), update state)

/-- A part that leaves the state alone. -/
def ofUnwind (outcome : Unwind (Except ε α)) : Body σ ε α := fun state => (outcome, state)

def ofExcept (result : Except ε α) : Body σ ε α := ofUnwind (.returned result)

@[simp] theorem get_bind (next : σ → Body σ ε α) (state : σ) : (get >>= next) state = next state state := rfl

@[simp] theorem modify_bind (update : σ → σ) (next : Unit → Body σ ε α) (state : σ) :
    (modify update >>= next) state = next () (update state) := rfl

theorem bind_of_ok {first : Body σ ε α} {next : α → Body σ ε β} {state reached : σ} {value : α}
    (returned : first state = (.returned (.ok value), reached)) : (first >>= next) state = next value reached := by
  change first.bind next state = _
  rw [bind, returned]

theorem bind_of_error {first : Body σ ε α} {next : α → Body σ ε β} {state reached : σ} {error : ε}
    (failed : first state = (.returned (.error error), reached)) :
    (first >>= next) state = (.returned (.error error), reached) := by
  change first.bind next state = _
  rw [bind, failed]

protected theorem bind_assoc {γ : Type} (first : Body σ ε α) (next : α → Body σ ε β) (last : β → Body σ ε γ) :
    first >>= next >>= last = first >>= fun value => next value >>= last := by
  funext state
  change (first.bind next).bind last state = first.bind (fun value => (next value).bind last) state
  unfold bind
  rcases first state with ⟨⟨error | value⟩ | payload, reached⟩ <;> rfl

theorem bind_eq_ok {first : Body σ ε α} {next : α → Body σ ε β} {state reached : σ} {result : β} :
    (first >>= next) state = (.returned (.ok result), reached) ↔
      ∃ value between, first state = (.returned (.ok value), between) ∧
        next value between = (.returned (.ok result), reached) := by
  change first.bind next state = _ ↔ _
  unfold bind
  rcases first state with ⟨⟨_ | _⟩ | _, _⟩ <;> simp [and_assoc]

theorem ofUnwind_bind_eq_ok {outcome : Unwind (Except ε α)} {next : α → Body σ ε β} {state reached : σ}
    {result : β} :
    (ofUnwind outcome >>= next) state = (.returned (.ok result), reached) ↔
      ∃ value, outcome = .returned (.ok value) ∧ next value state = (.returned (.ok result), reached) := by
  simp [bind_eq_ok, ofUnwind, and_assoc]

theorem ofExcept_eq_ok {result : Except ε α} {state reached : σ} {value : α} :
    ofExcept result state = (.returned (.ok value), reached) ↔ result = .ok value ∧ state = reached := by
  simp [ofExcept, ofUnwind]

theorem ofExcept_bind_eq_ok {source : Except ε α} {next : α → Body σ ε β} {state reached : σ} {result : β} :
    (ofExcept source >>= next) state = (.returned (.ok result), reached) ↔
      ∃ value, source = .ok value ∧ next value state = (.returned (.ok result), reached) := by
  simp [ofExcept, ofUnwind_bind_eq_ok]

theorem pure_eq_ok {value result : α} {state reached : σ} :
    (pure value : Body σ ε α) state = (.returned (.ok result), reached) ↔ value = result ∧ state = reached := by
  change ((.returned (.ok value), state) : Unwind (Except ε α) × σ) = _ ↔ _
  simp

/-- A local variable is dropped when the body is left, whichever way. -/
def dropping (drop : σ → σ) (body : Body σ ε α) : Body σ ε α := fun state =>
  let (outcome, reached) := body state
  (outcome, drop reached)

@[simp] theorem dropping_snd (drop : σ → σ) (body : Body σ ε α) (state : σ) :
    (body.dropping drop state).2 = drop (body state).2 := rfl

/-- Whichever way a body is left that started in `Pre`, it is left in `Post`. -/
def Leads (Pre Post : σ → Prop) (body : Body σ ε α) : Prop := ∀ state, Pre state → Post (body state).2

abbrev Keeps (Inv : σ → Prop) (body : Body σ ε α) : Prop := body.Leads Inv Inv

variable {Pre Inv : σ → Prop}

theorem leads_bind {first : Body σ ε α} {next : α → Body σ ε β} (head : first.Leads Pre Inv)
    (tail : ∀ value, (next value).Keeps Inv) : (first >>= next).Leads Pre Inv := by
  intro state holds
  have reached := head state holds
  change Inv (first.bind next state).2
  unfold bind
  split
  · next value after same => exact tail value after (by rw [same] at reached; exact reached)
  · next error after same => rw [same] at reached; exact reached
  · next payload after same => rw [same] at reached; exact reached

/-- Two parts in turn, where the second may also not be reached. -/
theorem leads_trans {Mid Post : σ → Prop} {first : Body σ ε α} {next : α → Body σ ε β} (head : first.Leads Pre Mid)
    (tail : ∀ value, (next value).Leads Mid Post) (stops : ∀ state, Mid state → Post state) :
    (first >>= next).Leads Pre Post := by
  intro state holds
  have reached := head state holds
  change Post (first.bind next state).2
  unfold bind
  split
  · next value after same => exact tail value after (by rw [same] at reached; exact reached)
  · next error after same => exact stops _ (by rw [same] at reached; exact reached)
  · next payload after same => exact stops _ (by rw [same] at reached; exact reached)

theorem keeps_pure (value : α) : (pure value : Body σ ε α).Keeps Inv := fun _ holds => holds

theorem keeps_get : (get : Body σ ε σ).Keeps Inv := fun _ holds => holds

theorem keeps_ofUnwind (outcome : Unwind (Except ε α)) : (ofUnwind outcome : Body σ ε α).Keeps Inv :=
  fun _ holds => holds

theorem keeps_ofExcept (result : Except ε α) : (ofExcept result : Body σ ε α).Keeps Inv := fun _ holds => holds

theorem keeps_modify {update : σ → σ} (kept : ∀ state, Inv state → Inv (update state)) :
    (modify update : Body σ ε Unit).Keeps Inv := kept

/-- A part that fails before it touches the state ends the body there. -/
theorem bind_ofUnwind_snd (outcome : Unwind (Except ε α)) (next : α → Body σ ε β) (state : σ)
    (fails : ∀ value, outcome ≠ .returned (.ok value)) : ((ofUnwind outcome >>= next) state).2 = state := by
  change ((ofUnwind outcome).bind next state).2 = state
  unfold bind ofUnwind
  split
  · next value after same => exact absurd (congrArg Prod.fst same) (fails value)
  · next error after same => exact (congrArg Prod.snd same).symm
  · next payload after same => exact (congrArg Prod.snd same).symm

@[simp] theorem bind_ofUnwind_ok (value : α) (next : α → Body σ ε β) :
    (ofUnwind (.returned (.ok value)) >>= next) = next value := rfl

end Body

end LanceC.Machine
