import LanceC.Dataset.Handle
import LanceC.Machine.Body
import LanceC.Machine.Heap

/-! What the calls of one thread work on while other threads use the same dataset handle. -/

namespace LanceC

open Machine

/-- A process as the calls of one thread meet it: the dataset behind the thread's handle, what
other threads do to it before each of the next calls, and what is the thread's own. -/
structure Process (S : Type) where
  dataset : Option LanceDataset
  others : List (LanceDataset → LanceDataset)
  own : S

namespace Process

variable {S B ε : Type}

/-- The other threads' turn. -/
def overtaken (process : Process S) : Process S :=
  match process.others with
  | [] => process
  | turn :: later => { process with dataset := process.dataset.map turn, others := later }

@[simp] theorem overtaken_own (process : Process S) : process.overtaken.own = process.own := by
  unfold overtaken
  split <;> rfl

/-- The other threads do not see what is the thread's own. -/
theorem overtaken_with (process : Process S) (own : S) :
    ({ process with own } : Process S).overtaken = { process.overtaken with own } := by
  obtain ⟨dataset, others, _⟩ := process
  cases others <;> rfl

/-- `Box::into_raw(Box::new(box))`. -/
def intoRaw (box : B) : Body (Process (Heap B)) ε Nat := fun process =>
  let (address, own) := process.own.intoRaw box
  (.returned (.ok address), { process with own })

end Process

end LanceC
