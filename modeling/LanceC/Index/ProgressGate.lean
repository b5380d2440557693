import LanceC.Logic.Headcount
import LanceC.Logic.Transition

/-! The retirement gate of the progress callback (index_segment.rs), over any
interleaving of its atomic accesses: each of them is one step, and the callback,
which runs between `enter` and `exit`, has a start and an end of its own. -/

namespace LanceC.Index

open Logic

/-- `inFlight` is kept as an integer, so that an underflow would show. -/
structure ProgressCallbackGate where
  retired : Bool
  inFlight : Int
  deriving DecidableEq, Repr

namespace ProgressCallbackGate

def default : ProgressCallbackGate := ⟨false, 0⟩

def fetchAdd (gate : ProgressCallbackGate) : ProgressCallbackGate := { gate with inFlight := gate.inFlight + 1 }

def fetchSub (gate : ProgressCallbackGate) : ProgressCallbackGate := { gate with inFlight := gate.inFlight - 1 }

def storeRetired (gate : ProgressCallbackGate) : ProgressCallbackGate := { gate with retired := true }

end ProgressCallbackGate

/-- Where a thread is: in no invocation; in `enter`, before it loads the flag, or after
it has found it set; let in; in the callback; or back from it, before `exit`. -/
inductive Position (Call : Type) where
  | outside
  | counted (call : Call)
  | backingOut
  | admitted (call : Call)
  | inCallback (call : Call)
  | exiting
  deriving DecidableEq, Repr

variable {Thread Call : Type}

/-- Between the increment and the decrement. -/
def Position.InFlight (position : Position Call) : Prop := position ≠ .outside

/-- From where `enter` has found the gate open to the decrement. -/
def Position.Inside : Position Call → Prop
  | admitted _ | inCallback _ | exiting => True
  | outside | counted _ | backingOut => False

/-- A gate, the threads at it, and whether the retiring thread is in its drain loop. -/
structure GateSystem (Thread Call : Type) where
  gate : ProgressCallbackGate
  position : Thread → Position Call
  draining : Bool

inductive GateEvent (Thread Call : Type) where
  | began (thread : Thread) (call : Call)
  | admitted (thread : Thread)
  | callbackStarts (thread : Thread) (call : Call)
  | callbackEnds (thread : Thread) (call : Call)
  | retireReturns
  | other
  deriving DecidableEq, Repr

/-- A callback is let in, starts or ends. -/
def GateEvent.Touches : GateEvent Thread Call → Prop
  | admitted _ | callbackStarts _ _ | callbackEnds _ _ => True
  | began _ _ | retireReturns | other => False

namespace GateSystem

/-- Nobody has entered yet. -/
def new : GateSystem Thread Call := ⟨.default, fun _ => .outside, false⟩

/-- An access to the gate, and where it leaves its thread. -/
def move [DecidableEq Thread] (system : GateSystem Thread Call) (gate : ProgressCallbackGate) (thread : Thread)
    (position : Position Call) : GateSystem Thread Call :=
  { system with gate, position := Function.update system.position thread position }

end GateSystem

/-- The steps of an invocation: `enter`, the callback, `exit`. -/
inductive EntryStep [DecidableEq Thread] :
    GateSystem Thread Call → GateEvent Thread Call → GateSystem Thread Call → Prop where
  | begin {system : GateSystem Thread Call} {thread call} :
      system.position thread = .outside →
      EntryStep system (.began thread call) (system.move system.gate.fetchAdd thread (.counted call))
  | refuse {system : GateSystem Thread Call} {thread call} :
      system.position thread = .counted call → system.gate.retired = true →
      EntryStep system .other (system.move system.gate thread .backingOut)
  | backOut {system : GateSystem Thread Call} {thread} :
      system.position thread = .backingOut →
      EntryStep system .other (system.move system.gate.fetchSub thread .outside)
  | letIn {system : GateSystem Thread Call} {thread call} :
      system.position thread = .counted call → system.gate.retired = false →
      EntryStep system (.admitted thread) (system.move system.gate thread (.admitted call))
  | callbackStarts {system : GateSystem Thread Call} {thread call} :
      system.position thread = .admitted call →
      EntryStep system (.callbackStarts thread call) (system.move system.gate thread (.inCallback call))
  | callbackEnds {system : GateSystem Thread Call} {thread call} :
      system.position thread = .inCallback call →
      EntryStep system (.callbackEnds thread call) (system.move system.gate thread .exiting)
  | exit {system : GateSystem Thread Call} {thread} :
      system.position thread = .exiting →
      EntryStep system .other (system.move system.gate.fetchSub thread .outside)

/-- The steps of `retire`, which may be called again once it has returned. -/
inductive RetireStep : GateSystem Thread Call → GateEvent Thread Call → GateSystem Thread Call → Prop where
  | store {system : GateSystem Thread Call} :
      system.draining = false →
      RetireStep system .other { system with gate := system.gate.storeRetired, draining := true }
  | spin {system : GateSystem Thread Call} :
      system.draining = true → system.gate.inFlight ≠ 0 → RetireStep system .other system
  | returns {system : GateSystem Thread Call} :
      system.draining = true → system.gate.inFlight = 0 →
      RetireStep system .retireReturns { system with draining := false }

inductive GateStep [DecidableEq Thread] :
    GateSystem Thread Call → GateEvent Thread Call → GateSystem Thread Call → Prop where
  | entry {before after : GateSystem Thread Call} {event} :
      EntryStep before event after → GateStep before event after
  | retire {before after : GateSystem Thread Call} {event} :
      RetireStep before event after → GateStep before event after

namespace GateSystem

variable {system before after : GateSystem Thread Call} {event : GateEvent Thread Call}

/-- The counter shows the threads in flight, and who drains has closed the gate. -/
structure Invariant (system : GateSystem Thread Call) : Prop where
  counts : Counts system.gate.inFlight (headcount Position.InFlight system.position)
  draining : system.draining = true → system.gate.retired = true

/-- Retired, and nobody inside. -/
structure Closed (system : GateSystem Thread Call) : Prop where
  retired : system.gate.retired = true
  empty : ∀ thread, ¬(system.position thread).Inside

theorem invariant_new : (new : GateSystem Thread Call).Invariant where
  counts := by
    have nobody : headcount Position.InFlight (new : GateSystem Thread Call).position = 0 :=
      headcount_eq_zero.mpr fun thread => by simp [new, Position.InFlight]
    exact ⟨0, rfl, nobody⟩
  draining := nofun

theorem invariant_retire (invariant : before.Invariant) (step : RetireStep before event after) :
    after.Invariant := by
  cases step with
  | store => exact ⟨invariant.counts, fun _ => rfl⟩
  | spin => exact invariant
  | returns => exact ⟨invariant.counts, nofun⟩

theorem position_retire (step : RetireStep before event after) : after.position = before.position := by
  cases step <;> rfl

theorem empty_of_drained (invariant : before.Invariant) (zero : before.gate.inFlight = 0) (thread : Thread) :
    before.position thread = .outside := by
  have counts := invariant.counts
  rw [zero] at counts
  have nobody := headcount_eq_zero.mp counts.eq_zero thread
  simpa [Position.InFlight] using nobody

/-- Where `retire` returns, the gate is closed. -/
theorem closed_of_retireReturns (invariant : before.Invariant) (step : RetireStep before .retireReturns after) :
    after.Closed := by
  cases step with
  | returns draining zero =>
    refine ⟨invariant.draining draining, fun thread => ?_⟩
    have outside := empty_of_drained invariant zero thread
    simp [outside, Position.Inside]

section Entries

variable [DecidableEq Thread]

theorem retired_entry (step : EntryStep before event after) : after.gate.retired = before.gate.retired := by
  cases step <;> rfl

theorem draining_entry (step : EntryStep before event after) : after.draining = before.draining := by
  cases step <;> rfl

/-- The counter follows every thread in and out. -/
theorem counts_entry (counts : Counts before.gate.inFlight (headcount Position.InFlight before.position))
    (step : EntryStep before event after) :
    Counts after.gate.inFlight (headcount Position.InFlight after.position) := by
  cases step with
  | @begin thread _ found =>
    have outside : ¬(before.position thread).InFlight := by simp [Position.InFlight, found]
    exact counts.enter outside (by simp [Position.InFlight])
  | @backOut thread found | @exit thread found =>
    have inside : (before.position thread).InFlight := by simp [Position.InFlight, found]
    exact counts.leave inside (by simp [Position.InFlight])
  | @refuse thread _ found _ | @letIn thread _ found _ | @callbackStarts thread _ found
  | @callbackEnds thread _ found =>
    have inside : (before.position thread).InFlight := by simp [Position.InFlight, found]
    exact counts.stay (iff_of_true (by simp [Position.InFlight]) inside)

theorem invariant_entry (invariant : before.Invariant) (step : EntryStep before event after) :
    after.Invariant := by
  refine ⟨counts_entry invariant.counts step, fun draining => ?_⟩
  rw [retired_entry step]
  exact invariant.draining (draining_entry step ▸ draining)

theorem invariant_step (invariant : before.Invariant) (step : GateStep before event after) : after.Invariant := by
  cases step with
  | entry step => exact invariant_entry invariant step
  | retire step => exact invariant_retire invariant step

/-- A thread comes in with an event of its own. -/
theorem away_entry (step : EntryStep before event after) {thread : Thread}
    (away : after.position thread ≠ .outside) :
    before.position thread ≠ .outside ∨ ∃ call, event = .began thread call := by
  cases step with
  | @begin mover call =>
    by_cases moved : thread = mover
    · exact .inr ⟨call, by rw [moved]⟩
    · exact .inl (by simpa [move, moved] using away)
  | @refuse mover _ found _ | @backOut mover found | @letIn mover _ found _ | @callbackStarts mover _ found
  | @callbackEnds mover _ found | @exit mover found =>
    by_cases moved : thread = mover
    · simp [moved, found]
    · exact .inl (by simpa [move, moved] using away)

/-- Whoever is past the check was there before, or found the gate open. -/
theorem inside_entry (step : EntryStep before event after) {thread : Thread}
    (inside : (after.position thread).Inside) : (before.position thread).Inside ∨ before.gate.retired = false := by
  cases step with
  | letIn _ opened => exact .inr opened
  | @begin mover _ found | @refuse mover _ found _ | @backOut mover found | @callbackStarts mover _ found
  | @callbackEnds mover _ found | @exit mover found =>
    by_cases moved : thread = mover
    · subst moved
      simp_all [move, Position.Inside]
    · simpa [move, moved] using Or.inl inside

theorem touches_entry (step : EntryStep before event after) (touches : event.Touches) :
    (∃ thread, (before.position thread).Inside) ∨ before.gate.retired = false := by
  cases step with
  | letIn _ opened => exact .inr opened
  | @callbackStarts thread _ found | @callbackEnds thread _ found =>
    exact .inl ⟨thread, by simp [found, Position.Inside]⟩
  | begin | refuse | backOut | exit => exact touches.elim

theorem away_of_touches (step : EntryStep before event after) (touches : event.Touches) :
    ∃ thread, before.position thread ≠ .outside := by
  cases step with
  | @letIn thread _ found _ | @callbackStarts thread _ found | @callbackEnds thread _ found =>
    exact ⟨thread, by simp [found]⟩
  | begin | refuse | backOut | exit => exact touches.elim

theorem closed_entry (closed : before.Closed) (step : EntryStep before event after) : after.Closed := by
  refine ⟨(retired_entry step).trans closed.retired, fun thread inside => ?_⟩
  rcases inside_entry step inside with old | opened
  · exact closed.empty thread old
  · simp [closed.retired] at opened

theorem closed_step (closed : before.Closed) (step : GateStep before event after) : after.Closed := by
  cases step with
  | entry step => exact closed_entry closed step
  | retire step =>
    cases step with
    | store => exact ⟨rfl, closed.empty⟩
    | spin => exact closed
    | returns => exact ⟨closed.retired, closed.empty⟩

theorem untouched_entry (closed : before.Closed) (step : EntryStep before event after) : ¬event.Touches := by
  intro touches
  rcases touches_entry step touches with ⟨thread, inside⟩ | opened
  · exact closed.empty thread inside
  · simp [closed.retired] at opened

theorem untouched_step (closed : before.Closed) (step : GateStep before event after) : ¬event.Touches := by
  cases step with
  | entry step => exact untouched_entry closed step
  | retire step => cases step <;> exact id

end Entries

end GateSystem

end LanceC.Index
