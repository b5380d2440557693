import Mathlib.Algebra.GroupWithZero.Nat
import Mathlib.Control.Monad.Writer

/-! Computations that record what they do. The record is replayed on a state of the reader's
own, and measured. -/

namespace LanceC.Logic

/-- A computation beside its events, in the order in which it records them. -/
abbrev Traced (Event : Type) := Writer (List Event)

namespace Traced

variable {Event State α β : Type}

def value (traced : Traced Event α) : α := (WriterT.run traced : α × List Event).1

def events (traced : Traced Event α) : List Event := (WriterT.run traced : α × List Event).2

def record (event : Event) : Traced Event Unit := tell [event]

@[simp] theorem value_pure (result : α) : value (pure result : Traced Event α) = result := rfl

@[simp] theorem events_pure (result : α) : events (pure result : Traced Event α) = [] := rfl

@[simp] theorem value_bind (first : Traced Event α) (next : α → Traced Event β) :
    value (first >>= next) = value (next (value first)) := rfl

@[simp] theorem events_bind (first : Traced Event α) (next : α → Traced Event β) :
    events (first >>= next) = events first ++ events (next (value first)) := rfl

@[simp] theorem value_record (event : Event) : value (record event) = () := rfl

@[simp] theorem events_record (event : Event) : events (record event) = [event] := rfl

section Replay

/-- The events lead from `start` to the state that belongs to the value; `step` refuses what
must not happen. -/
def Replays (traced : Traced Event α) (step : State → Event → Option State) (start : State) (stop : α → State) : Prop :=
  traced.events.foldlM step start = some (stop traced.value)

namespace Replays

variable {step : State → Event → Option State} {start : State} {stop : α → State}

theorem pure {result : α} (same : start = stop result) :
    (Pure.pure result : Traced Event α).Replays step start stop :=
  congrArg some same

theorem record {event : Event} {after : State} (stepped : step start event = some after) :
    (record event).Replays step start fun _ => after := by
  simp [Replays, stepped]

theorem bind {first : Traced Event β} {next : β → Traced Event α} {middle : β → State}
    (earlier : first.Replays step start middle) (later : (next first.value).Replays step (middle first.value) stop) :
    (first >>= next).Replays step start stop := by
  rw [Replays, events_bind, List.foldlM_append, earlier]
  exact later

end Replays

end Replay

section Totals

/-- What all events together come to. -/
def total (traced : Traced Event α) (measure : Event → Nat) : Nat := (traced.events.map measure).sum

variable {measure : Event → Nat}

@[simp] theorem total_pure (result : α) : total (pure result : Traced Event α) measure = 0 := rfl

@[simp] theorem total_record (event : Event) : (record event).total measure = measure event := by
  simp [total]

@[simp] theorem total_bind (first : Traced Event α) (next : α → Traced Event β) :
    total (first >>= next) measure = first.total measure + (next first.value).total measure := by
  simp [total]

/-- Where each event takes from a quantity of the state what it measures, a run takes its
total. -/
theorem Replays.balance {step : State → Event → Option State} {quantity : State → Nat} {traced : Traced Event α}
    {start : State} {stop : α → State} (replays : traced.Replays step start stop)
    (each : ∀ {before event after}, step before event = some after → measure event + quantity after = quantity before) :
    traced.total measure + quantity (stop traced.value) = quantity start := by
  unfold Replays at replays
  unfold total
  generalize traced.events = events, stop traced.value = stop at replays
  induction events generalizing start with
  | nil =>
    rw [← Option.some.inj replays]
    exact Nat.zero_add _
  | cons event rest ih =>
    rw [List.foldlM_cons] at replays
    obtain ⟨middle, first, later⟩ := Option.bind_eq_some_iff.mp replays
    have here := each first
    have there := ih later
    rw [List.map_cons, List.sum_cons]
    omega

end Totals

end Traced

end LanceC.Logic
