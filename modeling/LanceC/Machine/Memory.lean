import LanceC.Machine.Bytes

/-! Memory as bytes at addresses, of which 0 is the NULL pointer. -/

namespace LanceC.Machine

abbrev Memory := Nat → Byte

namespace Memory

def write (memory : Memory) (start : Nat) (bytes : List Byte) : Memory := fun address =>
  if start ≤ address then (bytes[address - start]?).getD (memory address) else memory address

/-- The addresses of a buffer; a NULL buffer has none. -/
def InBuffer (start length address : Nat) : Prop := start ≠ 0 ∧ start ≤ address ∧ address < start + length

def read (memory : Memory) (start length : Nat) : List Byte :=
  (List.range length).map fun offset => memory (start + offset)

variable {memory : Memory} {start length address : Nat} {bytes : List Byte}

@[simp] theorem write_nil : memory.write start [] = memory := by
  funext address
  simp [write]

/-- Bytes that fit into a buffer change nothing outside of it. -/
theorem write_outside (given : bytes ≠ [] → start ≠ 0) (fits : bytes.length ≤ length)
    (outside : ¬InBuffer start length address) : memory.write start bytes address = memory address := by
  unfold write
  split
  · next above =>
    have beyond : bytes.length ≤ address - start := by
      by_contra inside
      have nonempty : bytes ≠ [] := by
        rintro rfl
        exact inside (Nat.zero_le _)
      exact outside ⟨given nonempty, above, by omega⟩
    rw [List.getElem?_eq_none beyond, Option.getD_none]
  · rfl

/-- What is written after what was just written extends it. -/
theorem write_append (first rest : List Byte) :
    (memory.write start first).write (start + first.length) rest = memory.write start (first ++ rest) := by
  funext address
  unfold write
  by_cases later : start + first.length ≤ address
  · have beyond : first.length ≤ address - start := by omega
    have here : start ≤ address := by omega
    rw [if_pos later, if_pos here, if_pos here, List.getElem?_append_right beyond, List.getElem?_eq_none beyond,
      Option.getD_none, Nat.sub_sub]
  · rw [if_neg later]
    by_cases here : start ≤ address
    · rw [if_pos here, if_pos here, List.getElem?_append_left (by omega)]
    · rw [if_neg here, if_neg here]

/-- Any part of what was written is read back. -/
theorem read_write {offset : Nat} (inside : offset + length ≤ bytes.length) :
    (memory.write start bytes).read (start + offset) length = (bytes.drop offset).take length := by
  apply List.ext_getElem
  · simp [read]
    omega
  · intro index here there
    have bound : offset + index < bytes.length := by
      simp [read] at here
      omega
    have within : start ≤ start + offset + index := by omega
    have place : start + offset + index - start = offset + index := by omega
    simp [read, write, within, place, List.getElem?_eq_getElem bound]

end Memory

end LanceC.Machine
