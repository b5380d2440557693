import LanceC.Index.FragmentList
import LanceC.Index.ModelProvenance
import LanceC.Machine.Body

/-! The trainers of standalone vector models (index_model.rs). Training itself, the Arrow
conversions and the choice of a fresh id are parameters. -/

namespace LanceC.Index

open Ffi Logic Machine

/-- An array as Lance trains it, with the type of its elements. -/
structure TrainedList (Value : Type) where
  elementType : DataType
  array : ModelArray Value

structure TrainedValues (Value : Type) where
  elementType : DataType
  values : List (Option Value)

/-- What the trainers and the builder call in Lance and in the uuid crate. -/
structure VectorLibrary (Value : Type) where
  getVectorDim : Schema → String → Except LanceError Nat
  getVectorType : Schema → String → Except LanceError DataType
  validateDistanceTypeFor : DistanceType → DataType → Except LanceError Unit
  buildIvfModel : Dataset → String → Nat → DistanceType → Nat → Option (List Nat) →
    Unwind (Except LanceError (Option (TrainedList Value)))
  buildPqModelInFragments : Dataset → String → Nat → DistanceType → Nat → Nat →
    Option (FixedSizeListArray (Option Value)) → Option (List Nat) →
    Unwind (Except LanceError (TrainedValues Value))
  newV4 : Uuid
  parseStr : String → Except String Uuid

/-- Further parts of arrow-rs: a list array over values that has no NULL lists, the export of a schema,
and what `?` makes of an Arrow error. -/
structure ModelCrate (Value : Type) extends ArrowCrate Value where
  tryNew : Int → List (Option Value) → Except String (FixedSizeListArray (Option Value))
  schemaTryFrom : ArrowField → Except LanceError Unit
  arrowError : String → LanceError

/-- What a trainer leaves in the caller's structs: the array, and the exported schema of the field. -/
structure ExportedModel (Value : Type) where
  array : FfiArrowArray Value
  field : ArrowField

structure CommonTrainerInput where
  dataset : Dataset
  column : String
  dim : Nat
  metric : LanceMetricType
  fragments : Option (List Nat)

variable {Value : Type}

def FixedSizeListArray.toModelArray (array : FixedSizeListArray (Option Value)) : ModelArray Value where
  listSize := array.valueLength
  rows := array.rows.map fun row => some row.toList
  whole := by
    intro row member values found
    obtain ⟨vector, _, rfl⟩ := List.mem_map.mp member
    rw [← Option.some.inj found, Vector.length_toList]

def parseColumn (column : CString) : Except LanceError String :=
  requireText column "column must not be NULL or empty"

section Trainers

variable [Target]

/-- The elements of the borrowed array are `Float32`, which the borrow has checked, and its offset
is 0, since arrow-rs slices the values when it makes the array. -/
def fixedSizeListModel (arrow : ModelCrate Value) (model : ModelArray Value) (name : String) :
    Except LanceError (FixedSizeListArray (Option Value)) := do
  let nullCount := model.rows.countP Option.isNone
  refuseIf (nullCount ≠ 0) (.invalidInput s!"{name} must not contain NULL lists; null_count is {nullCount}")
  let some _ := checkedMul model.rows.length model.listSize
    | throw (.invalidInput s!"{name} length {model.rows.length} * list_size {model.listSize} overflows usize")
  let values := model.rows.flatMap fun row => row.getD []
  let nullCount := values.countP Option.isNone
  refuseIf (nullCount ≠ 0) (.invalidInput s!"{name} values must not contain NULLs; null_count is {nullCount}")
  match arrow.tryNew model.listSize values with
  | .ok list => return list
  | .error error => throw (.invalidInput s!"invalid {name}: {error}")

/-- `dataset` is a NULL handle or its snapshot; `outArray` and `outSchema` are NULL pointers or whether
their struct is released. -/
def parseCommon (library : VectorLibrary Value) (debug : DataType → String) (dataset : Option Dataset)
    (column : CString) (metric : Int) (fragmentIds : Option U32Pointer) (fragmentCount : Nat)
    (outArray outSchema : Option Bool) : Except LanceError CommonTrainerInput :=
  match dataset, outArray, outSchema with
  | some dataset, some arrayReleased, some schemaReleased => do
    refuseIf (column = .null) (.invalidInput "dataset, column, out_array, and out_schema must not be NULL")
    refuseIf (arrayReleased = false ∨ schemaReleased = false)
      (.invalidInput "out_array and out_schema must be empty (release callbacks must be NULL)")
    let metric ← LanceMetricType.fromC metric
    let column ← parseColumn column
    let dim ← library.getVectorDim dataset.schema column
    let elementType ← library.getVectorType dataset.schema column
    refuseIf (elementType ≠ .float32)
      (.invalidInput s!"column '{column}' must have Float32 vector elements, got {debug elementType}")
    library.validateDistanceTypeFor metric.toDistance elementType
    let fragments ← parseFragments dataset fragmentIds fragmentCount
    return { dataset, column, dim, metric, fragments }
  | _, _, _ => .error (.invalidInput "dataset, column, out_array, and out_schema must not be NULL")

namespace Trainer

def exportModel (arrow : ModelCrate Value) (elementType : DataType) (model : ModelArray Value)
    (metadata : List (String × String)) : Except LanceError (ExportedModel Value) := do
  let array ← arrow.toFfi model
  let field : ArrowField := { dataType := .fixedSizeList elementType model.listSize, metadata }
  arrow.schemaTryFrom field
  return { array, field }

variable {σ : Type}

def trainIvfModelInner (library : VectorLibrary Value) (arrow : ModelCrate Value) (dataset : Option Dataset)
    (column : CString) (numPartitions : Nat) (metric : Int) (fragmentIds : Option U32Pointer) (fragmentCount : Nat)
    (outArray outSchema : Option Bool) : Body σ LanceError (ExportedModel Value) := do
  Body.ofExcept (refuseIf (numPartitions = 0) (.invalidInput "num_partitions must be > 0, got 0"))
  let input ← Body.ofExcept
    (parseCommon library arrow.debug dataset column metric fragmentIds fragmentCount outArray outSchema)
  let model ← Body.ofUnwind (library.buildIvfModel input.dataset input.column input.dim input.metric.toDistance
    numPartitions input.fragments)
  match model with
  | none => Body.ofExcept (.error (.internal "IVF trainer returned no centroids"))
  | some centroids =>
    Body.ofExcept (refuseIf
      (centroids.array.rows.length ≠ numPartitions ∨ (centroids.array.listSize : Int) ≠ asI32 input.dim)
      (.internal (String.join ["IVF trainer returned length ", toString centroids.array.rows.length, ", list_size ",
        toString centroids.array.listSize, "; expected length ", toString numPartitions, ", list_size ",
        toString input.dim])))
    Body.ofExcept (exportModel arrow centroids.elementType centroids.array
      (ivfMetadata input.metric input.dim library.newV4))

/-- The centroids whose residuals the quantizer is trained on. -/
def ivfResidual (metric : LanceMetricType) (centroids : FixedSizeListArray (Option Value)) :
    Option (FixedSizeListArray (Option Value)) :=
  match metric with
  | .l2 | .cosine => some centroids
  | .dot | .hamming => none

/-- The codebook around the trained values. -/
def makeCodebook (arrow : ModelCrate Value) (dim numSubVectors numBits : Nat) (values : List (Option Value)) :
    Except LanceError (FixedSizeListArray (Option Value)) := do
  let codebook ← match arrow.tryNew (asI32 (dim / numSubVectors)) values with
    | .ok codebook => .ok codebook
    | .error error => .error (arrow.arrowError error)
  let some codewords := checkedShlOne numBits
    | throw (.invalidInput s!"1 << num_bits ({numBits}) overflows usize")
  let some expectedLen := checkedMul numSubVectors codewords
    | throw (.invalidInput s!"num_sub_vectors {numSubVectors} * codewords {codewords} overflows usize")
  refuseIf (codebook.len ≠ expectedLen)
    (.internal s!"PQ trainer returned length {codebook.len}; expected {expectedLen}")
  return codebook

/-- The state is the slot of the caller's centroids. -/
def trainPqModelInner (library : VectorLibrary Value) (arrow : ModelCrate Value) (memory : SchemaMemory)
    (dataset : Option Dataset) (column : CString) (numSubVectors numBits : Nat) (metric : Int)
    (fragmentIds : Option U32Pointer) (fragmentCount : Nat) (ivfCentroidsSchema : Option Nat)
    (outArray outSchema : Option Bool) :
    Body (Option (FfiArrowArray Value)) LanceError (ExportedModel Value) := do
  Body.ofExcept (refuseIf (numSubVectors = 0) (.invalidInput "num_sub_vectors must be > 0, got 0"))
  Body.ofExcept (refuseIf (numBits ≠ 4 ∧ numBits ≠ 8)
    (.invalidInput s!"num_bits must be 4 or 8 for Lance PQ indexes, got {numBits}"))
  let input ← Body.ofExcept
    (parseCommon library arrow.debug dataset column metric fragmentIds fragmentCount outArray outSchema)
  Body.ofExcept (refuseIf (input.dim % numSubVectors ≠ 0)
    (.invalidInput s!"dimension {input.dim} must be divisible by num_sub_vectors {numSubVectors}"))
  let provenance ← Body.ofExcept
    (modelProvenance library.parseStr arrow.toSchemaConversion memory ivfCentroidsSchema "ivf_centroids")
  Body.ofExcept (refuseIf
    (provenance.kind ≠ "ivf" ∨ provenance.metric ≠ input.metric.code ∨ provenance.dimension ≠ input.dim)
    (.invalidInput (String.join ["ivf_centroids provenance must be kind=ivf, metric=", toString input.metric.code,
      ", dimension=", toString input.dim, "; got kind=", provenance.kind, ", metric=", toString provenance.metric,
      ", dimension=", toString provenance.dimension])))
  let model ← fun slot => borrowModelArray arrow.toArrowCrate memory slot ivfCentroidsSchema "ivf_centroids"
  let centroids ← Body.ofExcept (fixedSizeListModel arrow model "ivf_centroids")
  Body.ofExcept (refuseIf (centroids.len = 0 ∨ (centroids.valueLength : Int) ≠ asI32 input.dim)
    (.invalidInput (String.join ["ivf_centroids must be a non-empty FixedSizeList<Float32> with list_size ",
      toString input.dim, ", got length ", toString centroids.len, ", type ",
      arrow.debug (.fixedSizeList .float32 centroids.valueLength)])))
  let trained ← Body.ofUnwind (library.buildPqModelInFragments input.dataset input.column input.dim
    input.metric.toDistance numSubVectors numBits (ivfResidual input.metric centroids) input.fragments)
  let codebook ← Body.ofExcept (makeCodebook arrow input.dim numSubVectors numBits trained.values)
  Body.ofExcept (exportModel arrow trained.elementType codebook.toModelArray
    (pqMetadata input.metric input.dim provenance.ivfId numSubVectors numBits))

end Trainer

end Trainers

end LanceC.Index
