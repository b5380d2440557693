import LanceC.Cpp.Errors
import LanceC.Ffi.Process

/-! Calls of the C API from C++ between the turns of other threads, and the handles over its boxes. -/

namespace LanceC.Cpp

open ErrorState Ffi Machine

variable {S B T α : Type}

/-- A call of the C API; the other threads run before it. -/
def api (display : LanceError → Unwind String) (inner : Body (Process S) LanceError T) (sentinel : T) :
    Entry (Process S) T where
  body process := inner process.overtaken
  display
  sentinel

def borrow (address : Nat) : Threaded (Process (Heap B)) B := fun thread =>
  match thread.world.own.deref address with
  | some box => (.returned (.ok box), thread)
  | none => (.panicked (.text "dangling pointer"), thread)

/-- A `Handle` over the rest of its scope. -/
def inHandle (address : Nat) (rest : Threaded (Process (Heap B)) α) : Threaded (Process (Heap B)) α := fun thread =>
  let (outcome, reached) := rest thread
  match reached.world.own.fromRaw address with
  | some own => (outcome, { reached with world := { reached.world with own } })
  | none => (.panicked (.text "closed twice"), reached)

theorem api_thrown (display : LanceError → Unwind String) (inner : Body (Process S) LanceError T) (sentinel : T)
    (process : Process S) : (api display inner sentinel).thrown process =
      (.returned ((guardedResult display (inner process.overtaken).1).mapError .ofLast),
        (inner process.overtaken).2) := rfl

/-- The handle closes its own box, however its scope is left. -/
theorem inHandle_apply {rest : Threaded (Process (Heap B)) α} {process reached : Process (Heap B)} {box : B}
    {outcome : Except Exception α} {slot : Option LastError}
    (ran : rest ⟨none, { process with own := (process.own.intoRaw box).2 }⟩ = (.returned outcome, ⟨slot, reached⟩))
    (kept : reached.own = (process.own.intoRaw box).2) : ∃ after : Process (Heap B), after.own.live = process.own.live ∧
      inHandle (process.own.intoRaw box).1 rest ⟨none, { process with own := (process.own.intoRaw box).2 }⟩ =
        (.returned outcome, ⟨slot, after⟩) := by
  obtain ⟨heap, closed, live⟩ := process.own.fromRaw_intoRaw box
  refine ⟨{ reached with own := heap }, live, ?_⟩
  rw [inHandle, ran]
  dsimp only
  rw [kept, closed]

end LanceC.Cpp
