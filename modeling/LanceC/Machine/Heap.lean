import Mathlib.Data.List.Nodup

/-! Boxes behind raw pointers. A box is closed only where it is live, so a second close or a read
after one has no result. -/

namespace LanceC.Machine

/-- The live boxes by address; addresses are not given out again. -/
structure Heap (B : Type) where
  next : Nat
  live : List (Nat × B)
  below : ∀ entry ∈ live, entry.1 < next
  distinct : (live.map Prod.fst).Nodup

namespace Heap

variable {B : Type} {heap reached : Heap B} {address : Nat} {box : B}

def empty : Heap B := ⟨0, [], nofun, List.nodup_nil⟩

def addresses (heap : Heap B) : List Nat := heap.live.map Prod.fst

theorem addresses_below (inside : address ∈ heap.addresses) : address < heap.next := by
  obtain ⟨entry, member, rfl⟩ := List.mem_map.mp inside
  exact heap.below entry member

/-- `Box::into_raw(Box::new(box))`. -/
def intoRaw (heap : Heap B) (box : B) : Nat × Heap B :=
  (heap.next, {
    next := heap.next + 1
    live := (heap.next, box) :: heap.live
    below := by
      intro entry inside
      rcases List.mem_cons.mp inside with rfl | older
      · exact Nat.lt_succ_self _
      · exact Nat.lt_succ_of_lt (heap.below entry older)
    distinct := List.nodup_cons.mpr ⟨fun inside => Nat.lt_irrefl _ (addresses_below inside), heap.distinct⟩ })

/-- `&*address`. -/
def deref (heap : Heap B) (address : Nat) : Option B := (heap.live.find? (·.1 == address)).map Prod.snd

/-- `drop(Box::from_raw(address))`. -/
def fromRaw (heap : Heap B) (address : Nat) : Option (Heap B) :=
  if address ∈ heap.addresses then
    some {
      next := heap.next
      live := heap.live.filter (·.1 ≠ address)
      below := fun entry inside => heap.below entry (List.mem_of_mem_filter inside)
      distinct := heap.distinct.sublist (List.filter_sublist.map _) }
  else none

@[simp] theorem deref_intoRaw (heap : Heap B) (box : B) :
    (heap.intoRaw box).2.deref (heap.intoRaw box).1 = some box := by
  simp [deref, intoRaw]

theorem fromRaw_live (closed : heap.fromRaw address = some reached) :
    address ∈ heap.addresses ∧ reached.live = heap.live.filter (·.1 ≠ address) := by
  rw [fromRaw] at closed
  split at closed
  · next inside =>
    cases closed
    exact ⟨inside, rfl⟩
  · cases closed

/-- A live box can be closed, and then its address is live no longer. -/
theorem fromRaw_of_mem (inside : address ∈ heap.addresses) :
    ∃ reached, heap.fromRaw address = some reached ∧ reached.addresses = heap.addresses.erase address := by
  refine ⟨_, if_pos inside, ?_⟩
  have kept : heap.addresses.erase address = heap.addresses.filter (· != address) :=
    heap.distinct.erase_eq_filter address
  rw [kept, addresses, addresses, List.filter_map]
  congr 1
  exact List.filter_congr fun entry _ => by simp [bne, beq_eq_decide]

/-- Opening and closing leave the heap as it was. -/
theorem fromRaw_intoRaw (heap : Heap B) (box : B) :
    ∃ reached, (heap.intoRaw box).2.fromRaw (heap.intoRaw box).1 = some reached ∧ reached.live = heap.live := by
  have inside : (heap.intoRaw box).1 ∈ (heap.intoRaw box).2.addresses := List.mem_cons_self
  obtain ⟨reached, closed, -⟩ := fromRaw_of_mem inside
  refine ⟨reached, closed, ?_⟩
  rw [(fromRaw_live closed).2]
  change ((heap.next, box) :: heap.live).filter (·.1 ≠ heap.next) = heap.live
  rw [List.filter_cons_of_neg (by simp), List.filter_eq_self]
  intro entry inside
  simpa using Nat.ne_of_lt (heap.below entry inside)

end Heap

end LanceC.Machine
