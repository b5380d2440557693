import LanceC.Error
import LanceC.Snapshot
import Mathlib.Algebra.Order.AbsoluteValue.Basic
import Mathlib.Algebra.Order.Ring.Unbundled.Rat

/-! Exact late-interaction scores of one batch of a scan (`exact_batch` and
`row_distance` of multivector.rs). Arrow arrays are lists of their slots. -/

namespace LanceC.Multivector.Exact

def invalid (message : String) : DataFusionError := .execution message

structure PrimitiveArray (Element : Type) where
  dataType : DataType
  values : List (Option Element)

/-- A row per entry of `validity`, of `valueLength` elements each. -/
structure FixedSizeListArray (Element : Type) where
  valueLength : Nat
  validity : List Bool
  values : PrimitiveArray Element
  whole : values.values.length = validity.length * valueLength

def FixedSizeListArray.slice {Element : Type} (array : FixedSizeListArray Element) (offset length : Nat) :
    FixedSizeListArray Element where
  valueLength := array.valueLength
  validity := (array.validity.drop offset).take length
  values :=
    { array.values with
      values := (array.values.values.drop (offset * array.valueLength)).take (length * array.valueLength) }
  whole := by
    simp [array.whole, ← Nat.sub_mul, Nat.mul_min_mul_right]

/-- The content of a row is opaque except where the array is taken apart. `values` of a
list array is absent where its child is no `FixedSizeListArray`. -/
inductive ArrayRef (Cell Element : Type) where
  | list (cells : List (Option Cell)) (offsets : List Nat) (values : Option (FixedSizeListArray Element))
  | struct (cells : List (Option Cell)) (children : List (String × ArrayRef Cell Element))
  | other (cells : List (Option Cell))

namespace ArrayRef

variable {Cell Element : Type}

def cells : ArrayRef Cell Element → List (Option Cell)
  | list cells _ _ | struct cells _ | other cells => cells

def isNull (array : ArrayRef Cell Element) (row : Nat) : Bool := (array.cells[row]?.join).isNone

end ArrayRef

structure Column (Cell Element : Type) where
  name : String
  dataType : DataType
  array : ArrayRef Cell Element

/-- A batch has columns of one length. -/
structure RecordBatch (Cell Element : Type) where
  numRows : Nat
  columns : List (Column Cell Element)
  aligned : ∀ column ∈ columns, column.array.cells.length = numRows

structure OutputField where
  name : String
  dataType : DataType
  isNullable : Bool
  deriving DecidableEq, Repr

inductive OutputCell (Cell : Type) where
  | score (value : Option ℚ)
  | cell (content : Option Cell)
  deriving DecidableEq

def OutputCell.isNull {Cell : Type} : OutputCell Cell → Bool
  | score value => value.isNone
  | cell content => content.isNone

structure OutputColumn (Cell : Type) where
  dataType : DataType
  cells : List (OutputCell Cell)
  deriving DecidableEq

structure OutputBatch (Cell : Type) where
  columns : List (OutputColumn Cell)
  deriving DecidableEq

structure QueryArray (Element : Type) where
  dataType : DataType
  values : List Element

/-- What is known of the element type and the metric: which elements are finite, and the
distance of two vectors, absent where it is NaN. -/
structure Kernel (Element : Type) where
  isFinite : Element → Bool
  distance : List Element → List Element → Option ℚ

/-- A sum converts to a finite `f32` below the midpoint of the greatest one and 2^128. -/
def isFiniteF32 (score : ℚ) : Bool := |score| < 2 ^ 128 - 2 ^ 103

/-- `chunks_exact`; a size of zero is not allowed there. -/
def chunksExact {Element : Type} (size : Nat) (values : List Element) : List (List Element) :=
  (List.range (values.length / size)).map fun index => (values.drop (index * size)).take size

section Scoring

variable {Cell Element : Type}

/-- The loop over the query vectors: a vector without a defined match masks the row. -/
def addNearest (kernel : Kernel Element) (stored : List (List Element)) : List (List Element) → ℚ → Option ℚ
  | [], score => some score
  | queryVector :: rest, score =>
    match (stored.filterMap (kernel.distance queryVector)).min? with
    | none => none
    | some best => addNearest kernel stored rest (score + best)

def rowDistance (kernel : Kernel Element) (dataType : DataType) (query : QueryArray Element)
    (vectors : FixedSizeListArray Element) : Except DataFusionError (Option ℚ) := do
  if query.dataType ≠ dataType then throw (invalid "multi-vector query element type mismatch")
  if vectors.values.dataType ≠ dataType then throw (invalid "multi-vector stored element type mismatch")
  if vectors.validity.any (!·) ∨ vectors.values.values.any Option.isNone ∨
      vectors.values.values.any (·.any (!kernel.isFinite ·)) then
    throw (invalid "multi-vector stored subvectors must contain only finite, non-null elements")
  let dimension := vectors.valueLength
  let stored := chunksExact dimension vectors.values.values.reduceOption
  match addNearest kernel stored (chunksExact dimension query.values) 0 with
  | none => return none
  | some score =>
    if !isFiniteF32 score then throw (invalid "multi-vector distance is not finite")
    return some score

def RecordBatch.columnByName (batch : RecordBatch Cell Element) (name : String) : Option (Column Cell Element) :=
  batch.columns.find? (·.name == name)

/-- The row's slice of the list array; a null list has none. -/
def listValue (cells : List (Option Cell)) (offsets : List Nat) (values : Option (FixedSizeListArray Element))
    (row : Nat) : Option (Option (FixedSizeListArray Element)) :=
  if (cells[row]?.join).isNone then none
  else
    let start := offsets.getD row 0
    some (values.map (·.slice start (offsets.getD (row + 1) 0 - start)))

/-- The struct traversal of `vector_column`. -/
def descend (column : String) : ArrayRef Cell Element → List String →
    Except DataFusionError (ArrayRef Cell Element)
  | array, [] => .ok array
  | .struct _ children, part :: rest =>
    match children.find? (·.1 == part) with
    | some child => descend column child.2 rest
    | none => .error (invalid s!"missing struct field '{part}' in vector column '{column}'")
  | _, part :: _ => .error (invalid s!"missing struct field '{part}' in vector column '{column}'")

/-- `parseFieldPath` is Lance's own parser of quoted dotted names. -/
def vectorColumn (parseFieldPath : String → Except String (List String)) (batch : RecordBatch Cell Element)
    (column : String) : Except DataFusionError (ArrayRef Cell Element) :=
  match batch.columnByName column with
  | some found => .ok found.array
  | none =>
    match parseFieldPath column with
    | .error error => .error (invalid s!"invalid vector column path '{column}': {error}")
    | .ok [] => .error (invalid "empty vector column path")
    | .ok (root :: parts) =>
      match batch.columnByName root with
      | none => .error (invalid s!"missing vector column '{column}'")
      | some found => descend column found.array parts

/-- One round of the loop over the lists. -/
def rowScore (kernel : Kernel Element) (query : QueryArray Element) (idNull : Bool)
    (vector : Option (Option (FixedSizeListArray Element))) : Except DataFusionError (Option ℚ) :=
  if idNull then .ok none
  else
    match vector with
    | none => .ok none
    | some none => .error (invalid "multi-vector row must be a FixedSizeList")
    | some (some vector) =>
      if vector.validity.isEmpty then .ok none
      else
        match query.dataType with
        | .float16 => rowDistance kernel .float16 query vector
        | .float32 => rowDistance kernel .float32 query vector
        | .float64 => rowDistance kernel .float64 query vector
        | _ => .error (invalid "unsupported multi-vector element type")

/-- Arrow's check of columns against a schema. -/
def OutputBatch.tryNew (schema : List OutputField) (columns : List (OutputColumn Cell)) :
    Except DataFusionError (OutputBatch Cell) :=
  if columns.isEmpty then .error (.arrow "must either specify a row count or at least one column")
  else if (schema.zip columns).any fun (field, column) => !field.isNullable && column.cells.any OutputCell.isNull then
    .error (.arrow "a column is declared as non-nullable but contains null values")
  else if columns.any fun column => some column.cells.length ≠ (columns.head?.map (·.cells.length)) then
    .error (.arrow "all columns in a record batch must have the same length")
  else if schema.map OutputField.dataType ≠ columns.map OutputColumn.dataType then
    .error (.arrow "column types must match schema types")
  else .ok ⟨columns⟩

/-- The slots of the column at which the mask is set. -/
def OutputColumn.filter (column : OutputColumn Cell) (mask : List Bool) : OutputColumn Cell :=
  { column with cells := ((column.cells.zip mask).filter Prod.snd).map Prod.fst }

def OutputBatch.newEmpty (schema : List OutputField) : OutputBatch Cell :=
  ⟨schema.map fun field => ⟨field.dataType, []⟩⟩

def outputColumn (batch : RecordBatch Cell Element) (scores : List (Option ℚ)) (field : OutputField) :
    Except DataFusionError (OutputColumn Cell) :=
  if field.name = "_distance" then .ok ⟨.float32, scores.map .score⟩
  else
    match batch.columnByName field.name with
    | some column => .ok ⟨column.dataType, column.array.cells.map .cell⟩
    | none => .error (invalid s!"missing score output column {field.name}")

def exactBatch (parseFieldPath : String → Except String (List String)) (kernel : Kernel Element)
    (batch : RecordBatch Cell Element) (query : QueryArray Element) (column : String) (schema : List OutputField) :
    Except DataFusionError (OutputBatch Cell) := do
  if batch.numRows = 0 then return .newEmpty schema
  match ← vectorColumn parseFieldPath batch column with
  | .list cells offsets values =>
    let rowIds := batch.columnByName "_rowid"
    let scores ← (List.range cells.length).mapM fun row =>
      rowScore kernel query (rowIds.any (·.array.isNull row)) (listValue cells offsets values row)
    let mask := scores.map Option.isSome
    let columns ← schema.mapM (outputColumn batch scores)
    let output ← OutputBatch.tryNew schema columns
    return ⟨output.columns.map (·.filter mask)⟩
  | _ => throw (invalid "multi-vector scoring requires a List column")

end Scoring

end LanceC.Multivector.Exact
