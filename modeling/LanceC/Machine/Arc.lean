/-! Shared pointers: a value and the address it was allocated at. -/

namespace LanceC.Machine

structure Arc (α : Type) where
  address : Nat
  value : α
  deriving DecidableEq, Repr

/-- `Arc::ptr_eq` compares addresses and never looks at the values. -/
def Arc.ptrEq {α : Type} (left right : Arc α) : Bool := left.address == right.address

@[simp] theorem Arc.ptrEq_refl {α : Type} (arc : Arc α) : arc.ptrEq arc = true := by
  simp [ptrEq]

end LanceC.Machine
