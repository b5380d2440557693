import Mathlib.Algebra.Order.Ring.Nat

/-! Byte strings: fixed-width numbers, and consecutive blocks of one width. -/

namespace LanceC.Machine

abbrev Byte := BitVec 8

/-- The last `width` bytes of a number, the most significant first. -/
def bigEndian : Nat → Nat → List Byte
  | 0, _ => []
  | width + 1, value => bigEndian width (value / 256) ++ [BitVec.ofNat 8 value]

def ofBigEndian (bytes : List Byte) : Nat := bytes.foldl (fun value byte => value * 256 + byte.toNat) 0

@[simp] theorem length_bigEndian (width value : Nat) : (bigEndian width value).length = width := by
  induction width generalizing value with
  | zero => rfl
  | succ width ih => simp [bigEndian, ih]

theorem ofBigEndian_bigEndian (width value : Nat) : ofBigEndian (bigEndian width value) = value % 256 ^ width := by
  induction width generalizing value with
  | zero => simp [bigEndian, ofBigEndian, Nat.mod_one]
  | succ width ih =>
    have higher : ofBigEndian (bigEndian width (value / 256)) = value / 256 % 256 ^ width := ih _
    have split : value % (256 * 256 ^ width) = value % 256 + 256 * (value / 256 % 256 ^ width) := Nat.mod_mul
    unfold ofBigEndian at higher ⊢
    rw [bigEndian, List.foldl_append, higher, Nat.pow_succ', split]
    simp [BitVec.toNat_ofNat]
    omega

section Blocks

variable {α β : Type} {encode : α → List β} {width : Nat}

/-- The block of `width` bytes at index `position`. -/
def block (width : Nat) (bytes : List β) (position : Nat) : List β :=
  (bytes.drop (position * width)).take width

theorem block_zero {first rest : List β} (fixed : first.length = width) :
    block width (first ++ rest) 0 = first := by
  subst fixed
  simp [block]

theorem block_succ {first rest : List β} (fixed : first.length = width) (position : Nat) :
    block width (first ++ rest) (position + 1) = block width rest position := by
  subst fixed
  rw [block, Nat.succ_mul, Nat.add_comm, ← List.drop_drop, List.drop_left]
  rfl

/-- The blocks of a concatenation of codes are these codes. -/
theorem map_block_flatMap (fixed : ∀ item, (encode item).length = width) (items : List α) :
    (List.range items.length).map (block width (items.flatMap encode)) = items.map encode := by
  induction items with
  | nil => rfl
  | cons head rest ih =>
    rw [List.length_cons, List.range_succ_eq_map, List.flatMap_cons, List.map_cons, List.map_map,
      block_zero (fixed head), List.map_cons, ← ih]
    exact congrArg _ (List.map_congr_left fun position _ => block_succ (fixed head) position)

end Blocks

end LanceC.Machine
