import Mathlib.Algebra.Group.Nat.Defs

/-! Checked arithmetic of the target's `usize` and of the fixed-width integers. -/

namespace LanceC.Machine

/-- A supported target; `usize` is its address width. -/
class Target where
  usizeBits : Nat
  supported : usizeBits = 32 ∨ usizeBits = 64

abbrev target64 : Target := ⟨64, .inr rfl⟩

def usizeMax [Target] : Nat := 2 ^ Target.usizeBits - 1

def isizeMax [Target] : Nat := 2 ^ (Target.usizeBits - 1) - 1

def u32Max : Nat := 2 ^ 32 - 1

def u64Max : Nat := 2 ^ 64 - 1

def i32Max : Nat := 2 ^ 31 - 1

def checkedMul [Target] (left right : Nat) : Option Nat :=
  if left * right ≤ usizeMax then some (left * right) else none

def checkedAdd [Target] (left right : Nat) : Option Nat :=
  if left + right ≤ usizeMax then some (left + right) else none

def checkedAddU64 (left right : Nat) : Option Nat :=
  if left + right ≤ u64Max then some (left + right) else none

def checkedSub (left right : Nat) : Option Nat :=
  if right ≤ left then some (left - right) else none

def saturatingMulU64 (left right : Nat) : Nat := min (left * right) u64Max

def saturatingAddU64 (left right : Nat) : Nat := min (left + right) u64Max

/-- `u32::try_from` of an unsigned value. -/
def u32TryFrom (value : Nat) : Option Nat :=
  if value ≤ u32Max then some value else none

/-- `usize::try_from` of a signed value. -/
def usizeTryFrom [Target] (value : Int) : Option Nat :=
  if 0 ≤ value ∧ value.toNat ≤ usizeMax then some value.toNat else none

/-- `as usize` of a signed value, which keeps the low bits of its two's complement. -/
def asUsize [Target] (value : Int) : Nat := (value % (2 ^ Target.usizeBits : Nat)).toNat

/-- `as usize` of an unsigned value, which keeps the low bits. -/
def truncUsize [Target] (value : Nat) : Nat := value % 2 ^ Target.usizeBits

/-- `+` of `usize` in a release build, which drops the carry. -/
def addUsize [Target] (left right : Nat) : Nat := truncUsize (left + right)

/-- `as i32`, which keeps the low 32 bits. -/
def asI32 (value : Nat) : Int :=
  if value % 2 ^ 32 ≤ i32Max then (value % 2 ^ 32 : Nat) else (value % 2 ^ 32 : Nat) - (2 ^ 32 : Nat)

/-- `1_usize.checked_shl(bits)`. -/
def checkedShlOne [Target] (bits : Nat) : Option Nat := if bits < Target.usizeBits then some (2 ^ bits) else none

/-- The values of an `i64`. -/
def IsI64 (value : Int) : Prop := -(2 ^ 63 : Nat) ≤ value ∧ value < (2 ^ 63 : Nat)

/-- A result that is kept where it is in range. -/
theorem ite_le_eq_some {value bound result : Nat} :
    (if value ≤ bound then some value else none) = some result ↔ result = value ∧ value ≤ bound := by
  rw [Option.ite_none_right_eq_some, Option.some_inj, and_comm, @eq_comm _ result]

theorem checkedMul_eq_some [Target] {left right product : Nat} :
    checkedMul left right = some product ↔ product = left * right ∧ left * right ≤ usizeMax :=
  ite_le_eq_some

theorem checkedAdd_eq_some [Target] {left right sum : Nat} :
    checkedAdd left right = some sum ↔ sum = left + right ∧ left + right ≤ usizeMax :=
  ite_le_eq_some

theorem checkedAddU64_eq_some {left right sum : Nat} :
    checkedAddU64 left right = some sum ↔ sum = left + right ∧ left + right ≤ u64Max :=
  ite_le_eq_some

theorem u32TryFrom_eq_some {value converted : Nat} :
    u32TryFrom value = some converted ↔ converted = value ∧ value ≤ u32Max :=
  ite_le_eq_some

theorem checkedSub_eq_some {minuend subtrahend rest : Nat} :
    checkedSub minuend subtrahend = some rest ↔ subtrahend ≤ minuend ∧ rest = minuend - subtrahend := by
  unfold checkedSub
  split
  · simp_all [eq_comm]
  · simp only [reduceCtorEq, false_iff]
    omega

theorem usizeTryFrom_eq_some [Target] {value : Int} {converted : Nat} :
    usizeTryFrom value = some converted ↔ value = converted ∧ converted ≤ usizeMax := by
  unfold usizeTryFrom
  split
  · rename_i fits
    obtain ⟨positive, within⟩ := fits
    rw [Option.some.injEq]
    omega
  · simp only [reduceCtorEq, false_iff]
    omega

theorem asI32_eq {value : Nat} (narrow : value ≤ i32Max) : asI32 value = value := by
  have same : value % 2 ^ 32 = value := Nat.mod_eq_of_lt (Nat.lt_of_le_of_lt narrow (by decide))
  rw [asI32, same, if_pos narrow]

/-- The cast keeps exactly the values that `usize` has. -/
theorem asUsize_eq_iff [Target] {value : Int} : (asUsize value : Int) = value ↔ 0 ≤ value ∧ value ≤ usizeMax := by
  have positive : 0 < 2 ^ Target.usizeBits := Nat.two_pow_pos _
  have below : value % (2 ^ Target.usizeBits : Nat) < (2 ^ Target.usizeBits : Nat) :=
    Int.emod_lt_of_pos _ (Int.natCast_pos.mpr positive)
  have nonneg : 0 ≤ value % (2 ^ Target.usizeBits : Nat) := Int.emod_nonneg _ (Int.natCast_ne_zero.mpr (Nat.ne_of_gt positive))
  rw [asUsize, Int.toNat_of_nonneg nonneg, usizeMax]
  constructor
  · intro same
    omega
  · rintro ⟨start, within⟩
    exact Int.emod_eq_of_lt start (by omega)

/-- Where `usize` has 64 bits, a nonnegative `i64` keeps its value. -/
theorem asUsize_eq [Target] (wide : Target.usizeBits = 64) {value : Int} (typed : IsI64 value)
    (nonneg : 0 ≤ value) : (asUsize value : Int) = value := by
  obtain ⟨_, bounded⟩ := typed
  refine asUsize_eq_iff.mpr ⟨nonneg, ?_⟩
  rw [usizeMax, wide]
  omega

@[simp] theorem truncUsize_zero [Target] : truncUsize 0 = 0 := Nat.zero_mod _

@[simp] theorem truncUsize_truncUsize [Target] (value : Nat) : truncUsize (truncUsize value) = truncUsize value :=
  Nat.mod_mod _ _

@[simp] theorem truncUsize_add_left [Target] (left right : Nat) :
    truncUsize (truncUsize left + right) = truncUsize (left + right) :=
  Nat.mod_add_mod _ _ _

@[simp] theorem truncUsize_add_right [Target] (left right : Nat) :
    truncUsize (left + truncUsize right) = truncUsize (left + right) :=
  Nat.add_mod_mod _ _ _

theorem checkedShlOne_eq_some [Target] {bits shifted : Nat} :
    checkedShlOne bits = some shifted ↔ bits < Target.usizeBits ∧ shifted = 2 ^ bits := by
  rw [checkedShlOne, Option.ite_none_right_eq_some, Option.some_inj, @eq_comm _ shifted]

/-- A `u32` always fits `usize`. -/
theorem u32Max_le_usizeMax [Target] : u32Max ≤ usizeMax := by
  unfold u32Max usizeMax
  rcases Target.supported with narrow | wide
  · exact Nat.le_of_eq (by rw [narrow])
  · rw [wide]
    decide

end LanceC.Machine
