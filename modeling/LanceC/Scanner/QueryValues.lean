import LanceC.Error
import LanceC.Snapshot

/-! Query vectors as they are copied from the caller's memory, and the size
checks made before the copy. -/

namespace LanceC.Scanner

open Machine

/-- The element types of a query vector. -/
inductive LanceDataType where
  | float32
  | float16
  | float64
  | uint8
  | int8
  deriving DecidableEq, Repr

namespace LanceDataType

def ofCode : Int → Option LanceDataType
  | 0 => some .float32
  | 1 => some .float16
  | 2 => some .float64
  | 3 => some .uint8
  | 4 => some .int8
  | _ => none

/-- The element width in bytes, which is also its alignment. -/
def width : LanceDataType → Nat
  | float32 => 4
  | float16 => 2
  | float64 => 8
  | uint8 | int8 => 1

def dataType : LanceDataType → DataType
  | float32 => .float32
  | float16 => .float16
  | float64 => .float64
  | uint8 => .uint8
  | int8 => .int8

def isFloat : LanceDataType → Bool
  | float32 | float16 | float64 => true
  | uint8 | int8 => false

/-- A float is finite unless all its exponent bits are set. -/
def isFinite (elementType : LanceDataType) (bits : Nat) : Bool :=
  match elementType with
  | float32 => bits / 2 ^ 23 % 2 ^ 8 != 2 ^ 8 - 1
  | float16 => bits / 2 ^ 10 % 2 ^ 5 != 2 ^ 5 - 1
  | float64 => bits / 2 ^ 52 % 2 ^ 11 != 2 ^ 11 - 1
  | uint8 | int8 => true

end LanceDataType

/-- The caller's buffer: its address (0 is NULL) and what it holds, read as
elements of a type, by their bits. -/
structure QueryData where
  address : Nat
  element : LanceDataType → Nat → Nat

structure PrimitiveArray where
  elementType : LanceDataType
  values : List Nat
  deriving DecidableEq, Repr

def PrimitiveArray.allFinite (array : PrimitiveArray) : Bool :=
  array.values.all array.elementType.isFinite

def PrimitiveArray.byteSize (array : PrimitiveArray) : Nat :=
  array.values.length * array.elementType.width

/-- A matrix of query vectors, or one vector without a matrix shape. -/
inductive QueryArray where
  | primitive (values : PrimitiveArray)
  | fixedSizeList (dimension : Nat) (values : PrimitiveArray)
  deriving DecidableEq, Repr

def QueryArray.values : QueryArray → PrimitiveArray
  | primitive values => values
  | fixedSizeList _ values => values

/-- The number of vectors; a plain array is one vector. -/
def QueryArray.numVectors : QueryArray → Nat
  | primitive _ => 1
  | fixedSizeList dimension values => values.values.length / dimension

def maxBatchQueries : Nat := 128
def maxBatchQueryBytes : Nat := 64 * 1024 * 1024
def maxBatchCandidates : Nat := 100000
def maxQueryVectors : Nat := 128
def maxQueryVectorCandidates : Nat := 100000

def decodeQueryValues (queryData : QueryData) (queryLen : Nat) (elementType : Int) :
    Except LanceError PrimitiveArray :=
  match LanceDataType.ofCode elementType with
  | none => .error (.invalidInput s!"invalid element_type: {elementType}")
  | some dataType =>
    if queryData.address % dataType.width ≠ 0 then
      .error (.invalidInput
        s!"query_data must be aligned to {dataType.width} bytes for element_type={elementType}")
    else .ok ⟨dataType, (List.range queryLen).map (queryData.element dataType)⟩

/-- `validate_query` of multivector.rs. -/
def validateQuery (values : PrimitiveArray) : Except LanceError Unit :=
  if values.elementType.isFloat && values.allFinite then .ok ()
  else .error ⟨.other, "multi-vector query must contain only finite, non-null elements"⟩

def batchQueryValueCount [Target] (dimension numQueries width : Nat) : Except LanceError Nat :=
  let overflow := LanceError.invalidInput
    s!"batch query byte size overflows usize: dimension={dimension}, num_queries={numQueries}, element_width={width}"
  match checkedMul dimension numQueries with
  | none => .error overflow
  | some count =>
    match checkedMul count width with
    | none => .error overflow
    | some bytes =>
      if bytes > maxBatchQueryBytes then
        .error (.invalidInput
          s!"batch query byte size {bytes} exceeds limit {maxBatchQueryBytes}: dimension={dimension}, num_queries={numQueries}, element_width={width}")
      else .ok count

def validateBatchCandidates [Target] (numQueries k : Nat) (refineFactor : Option Nat) : Except LanceError Unit :=
  let refine := refineFactor.getD 1
  let candidates := (checkedMul numQueries k).bind fun n => checkedMul n refine
  if refine = 0 ∨ candidates.all (· > maxBatchCandidates) then
    .error (.invalidInput
      s!"batch num_queries ({numQueries}) * k ({k}) * refine_factor ({refine}) must be in 1..={maxBatchCandidates}")
  else .ok ()

theorem decodeQueryValues_ok {queryData : QueryData} {queryLen : Nat} {elementType : Int}
    {array : PrimitiveArray} (decoded : decodeQueryValues queryData queryLen elementType = .ok array) :
    LanceDataType.ofCode elementType = some array.elementType ∧ array.values.length = queryLen := by
  unfold decodeQueryValues at decoded
  split at decoded
  · cases decoded
  · rename_i dataType known
    split at decoded
    · cases decoded
    · cases decoded
      exact ⟨known, by simp⟩

/-- Both checked products together are the exact one. -/
theorem batchQueryValueCount_ok [Target] {dimension numQueries width count : Nat}
    (counted : batchQueryValueCount dimension numQueries width = .ok count) :
    count = dimension * numQueries ∧ count * width ≤ maxBatchQueryBytes := by
  unfold batchQueryValueCount at counted
  dsimp only at counted
  split at counted
  · cases counted
  · rename_i product known
    split at counted
    · cases counted
    · rename_i bytes sized
      split at counted
      · cases counted
      · rename_i within
        cases counted
        obtain ⟨same, _⟩ := checkedMul_eq_some.mp known
        obtain ⟨sameBytes, _⟩ := checkedMul_eq_some.mp sized
        exact ⟨same, by omega⟩

/-- What passes the overflow-guarded check passes it over the naturals. -/
theorem validateBatchCandidates_ok [Target] {numQueries k : Nat} {refineFactor : Option Nat}
    (valid : validateBatchCandidates numQueries k refineFactor = .ok ()) :
    refineFactor ≠ some 0 ∧ numQueries * k * refineFactor.getD 1 ≤ maxBatchCandidates := by
  unfold validateBatchCandidates at valid
  dsimp only at valid
  split at valid
  · cases valid
  · rename_i accepted
    obtain ⟨positive, bounded⟩ := not_or.mp accepted
    refine ⟨fun zero => positive (by simp [zero]), ?_⟩
    cases first : checkedMul numQueries k with
    | none => simp [first] at bounded
    | some product =>
      cases second : checkedMul product (refineFactor.getD 1) with
      | none => simp [first, second] at bounded
      | some total =>
        obtain ⟨same, _⟩ := checkedMul_eq_some.mp first
        obtain ⟨same', _⟩ := checkedMul_eq_some.mp second
        subst same same'
        simpa [first, second] using bounded

end LanceC.Scanner
