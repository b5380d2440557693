import LanceC.Error
import LanceC.Logic.Except

/-! The index types and build parameters that the C API hands to Lance (index.rs).
What stays at Lance's own default is `none`. -/

namespace LanceC.Index

inductive BuiltinIndexType where
  | bTree
  | bitmap
  | labelList
  | inverted
  deriving DecidableEq, Repr

inductive IndexType where
  | bTree
  | bitmap
  | labelList
  | inverted
  | vector
  deriving DecidableEq, Repr

inductive LanceScalarIndexType where
  | bTree
  | bitmap
  | labelList
  | inverted
  deriving DecidableEq, Repr

def LanceScalarIndexType.fromC (value : Int) : Except LanceError LanceScalarIndexType :=
  match value with
  | 1 => .ok .bTree
  | 2 => .ok .bitmap
  | 3 => .ok .labelList
  | 4 => .ok .inverted
  | _ => .error (.invalidInput s!"invalid scalar index type: {value}")

/-- `self as i32`. -/
def LanceScalarIndexType.code : LanceScalarIndexType → Int
  | bTree => 1
  | bitmap => 2
  | labelList => 3
  | inverted => 4

def LanceScalarIndexType.toBuiltin : LanceScalarIndexType → BuiltinIndexType
  | bTree => .bTree
  | bitmap => .bitmap
  | labelList => .labelList
  | inverted => .inverted

def LanceScalarIndexType.toIndexType : LanceScalarIndexType → IndexType
  | bTree => .bTree
  | bitmap => .bitmap
  | labelList => .labelList
  | inverted => .inverted

inductive LanceVectorIndexType where
  | ivfFlat
  | ivfSq
  | ivfPq
  | ivfHnswSq
  | ivfHnswPq
  | ivfHnswFlat
  deriving DecidableEq, Repr

def LanceVectorIndexType.UsesPq (indexType : LanceVectorIndexType) : Prop :=
  indexType = .ivfPq ∨ indexType = .ivfHnswPq

def LanceVectorIndexType.UsesSq (indexType : LanceVectorIndexType) : Prop :=
  indexType = .ivfSq ∨ indexType = .ivfHnswSq

def LanceVectorIndexType.UsesHnsw (indexType : LanceVectorIndexType) : Prop :=
  indexType = .ivfHnswFlat ∨ indexType = .ivfHnswPq ∨ indexType = .ivfHnswSq

inductive DistanceType where
  | l2
  | cosine
  | dot
  | hamming
  deriving DecidableEq, Repr

inductive LanceMetricType where
  | l2
  | cosine
  | dot
  | hamming
  deriving DecidableEq, Repr

def LanceMetricType.toDistance : LanceMetricType → DistanceType
  | l2 => .l2
  | cosine => .cosine
  | dot => .dot
  | hamming => .hamming

structure LanceVectorIndexParams where
  indexType : LanceVectorIndexType
  metric : LanceMetricType
  numPartitions : Nat
  numSubVectors : Nat
  numBits : Nat
  maxIterations : Nat
  hnswM : Nat
  hnswEfConstruction : Nat
  sampleRate : Nat
  deriving DecidableEq, Repr

structure FixedSizeListArray (Item : Type) where
  valueLength : Nat
  rows : List (Vector Item valueLength)
  deriving DecidableEq, Repr

def FixedSizeListArray.len {Item : Type} (array : FixedSizeListArray Item) : Nat := array.rows.length

structure IvfBuildParams (Item : Type) where
  numPartitions : Nat
  centroids : Option (FixedSizeListArray Item)
  maxIters : Option Nat
  sampleRate : Option Nat
  deriving DecidableEq, Repr

structure PQBuildParams (Codebook : Type) where
  numSubVectors : Nat
  numBits : Nat
  maxIters : Nat
  codebook : Option Codebook
  deriving DecidableEq, Repr

structure SQBuildParams where
  numBits : Option Nat
  sampleRate : Option Nat
  deriving DecidableEq, Repr

structure HnswBuildParams where
  m : Nat
  efConstruction : Option Nat
  deriving DecidableEq, Repr

inductive LanceCoreVectorIndexParams (Item Codebook : Type) where
  | withIvfFlatParams (metric : DistanceType) (ivf : IvfBuildParams Item)
  | withIvfPqParams (metric : DistanceType) (ivf : IvfBuildParams Item) (pq : PQBuildParams Codebook)
  | withIvfSqParams (metric : DistanceType) (ivf : IvfBuildParams Item) (sq : SQBuildParams)
  | ivfHnsw (metric : DistanceType) (ivf : IvfBuildParams Item) (hnsw : HnswBuildParams)
  | withIvfHnswPqParams (metric : DistanceType) (ivf : IvfBuildParams Item) (hnsw : HnswBuildParams)
      (pq : PQBuildParams Codebook)
  | withIvfHnswSqParams (metric : DistanceType) (ivf : IvfBuildParams Item) (hnsw : HnswBuildParams)
      (sq : SQBuildParams)
  deriving DecidableEq, Repr

variable {Item Codebook : Type}

/-- Zero is what a C caller leaves to the default. -/
def unlessZero (value : Nat) : Option Nat := if value = 0 then none else some value

def requireField (name : String) (value : Nat) : Except LanceError Nat :=
  if value = 0 then .error (.invalidInput s!"{name} is required for this index type and must be > 0")
  else .ok value

def buildIvf (p : LanceVectorIndexParams) (centroids : Option (FixedSizeListArray Item)) :
    Except LanceError (IvfBuildParams Item) := do
  let numPartitions ← requireField "num_partitions" p.numPartitions
  if let some centroids := centroids then
    refuseIf (centroids.len ≠ numPartitions)
      (.invalidInput s!"ivf_centroids length {centroids.len} does not match num_partitions {numPartitions}")
  return { numPartitions, centroids, maxIters := unlessZero p.maxIterations, sampleRate := unlessZero p.sampleRate }

def buildPq (p : LanceVectorIndexParams) (codebook : Option Codebook) :
    Except LanceError (PQBuildParams Codebook) := do
  let numSubVectors ← requireField "num_sub_vectors" p.numSubVectors
  let numBits := if p.numBits = 0 then 8 else p.numBits
  refuseIf (numBits ≠ 4 ∧ numBits ≠ 8)
    (.invalidInput s!"num_bits must be 4 or 8 for Lance PQ indexes, got {numBits}")
  let maxIters := if p.maxIterations = 0 then 50 else p.maxIterations
  return { numSubVectors, numBits, maxIters, codebook }

def buildSq (p : LanceVectorIndexParams) : Except LanceError SQBuildParams := do
  refuseIf (p.numBits ≠ 0 ∧ p.numBits ≠ 8)
    (.invalidInput s!"num_bits must be 0 or 8 for Lance SQ indexes, got {p.numBits}")
  return { numBits := unlessZero p.numBits, sampleRate := unlessZero p.sampleRate }

def buildHnsw (p : LanceVectorIndexParams) : Except LanceError HnswBuildParams := do
  let m ← requireField "hnsw_m" p.hnswM
  return { m, efConstruction := unlessZero p.hnswEfConstruction }

def buildVectorParamsWithModels (p : LanceVectorIndexParams) (centroids : Option (FixedSizeListArray Item))
    (codebook : Option Codebook) : Except LanceError (LanceCoreVectorIndexParams Item Codebook) := do
  let metric := p.metric.toDistance
  match p.indexType with
  | .ivfFlat => return .withIvfFlatParams metric (← buildIvf p centroids)
  | .ivfPq => return .withIvfPqParams metric (← buildIvf p centroids) (← buildPq p codebook)
  | .ivfSq => return .withIvfSqParams metric (← buildIvf p centroids) (← buildSq p)
  | .ivfHnswFlat => return .ivfHnsw metric (← buildIvf p centroids) (← buildHnsw p)
  | .ivfHnswPq =>
    return .withIvfHnswPqParams metric (← buildIvf p centroids) (← buildHnsw p) (← buildPq p codebook)
  | .ivfHnswSq =>
    return .withIvfHnswSqParams metric (← buildIvf p centroids) (← buildHnsw p) (← buildSq p)

section Accepted

open Logic

variable {p : LanceVectorIndexParams} {centroids : Option (FixedSizeListArray Item)} {codebook : Option Codebook}

theorem requireField_ok {name : String} {value field : Nat} :
    requireField name value = .ok field ↔ value ≠ 0 ∧ value = field := by
  unfold requireField
  split <;> simp_all

theorem buildIvf_isOk : (∃ ivf, buildIvf p centroids = .ok ivf) ↔
    p.numPartitions ≠ 0 ∧ ∀ array ∈ centroids, array.len = p.numPartitions := by
  cases centroids <;> simp [buildIvf, bind_eq_ok, requireField_ok, pure, Except.pure]

theorem buildPq_isOk : (∃ pq, buildPq p codebook = .ok pq) ↔
    p.numSubVectors ≠ 0 ∧ (p.numBits = 0 ∨ p.numBits = 4 ∨ p.numBits = 8) := by
  by_cases zero : p.numBits = 0
  · simp [buildPq, bind_eq_ok, requireField_ok, zero, pure, Except.pure]
  · simp [buildPq, bind_eq_ok, requireField_ok, zero, pure, Except.pure, or_iff_not_imp_left]

theorem buildSq_isOk : (∃ sq, buildSq p = .ok sq) ↔ p.numBits = 0 ∨ p.numBits = 8 := by
  simp [buildSq, bind_eq_ok, pure, Except.pure, or_iff_not_imp_left]

theorem buildHnsw_isOk : (∃ hnsw, buildHnsw p = .ok hnsw) ↔ p.hnswM ≠ 0 := by
  simp [buildHnsw, bind_eq_ok, requireField_ok, pure, Except.pure]

/-- Each variant asks for what its parts need, and for nothing else. -/
theorem buildVectorParamsWithModels_isOk :
    (∃ core, buildVectorParamsWithModels p centroids codebook = .ok core) ↔
      (p.numPartitions ≠ 0 ∧ ∀ array ∈ centroids, array.len = p.numPartitions) ∧
        (p.indexType.UsesHnsw → p.hnswM ≠ 0) ∧
        (p.indexType.UsesPq → p.numSubVectors ≠ 0 ∧ (p.numBits = 0 ∨ p.numBits = 4 ∨ p.numBits = 8)) ∧
        (p.indexType.UsesSq → p.numBits = 0 ∨ p.numBits = 8) := by
  rw [← buildIvf_isOk, ← buildHnsw_isOk, ← @buildPq_isOk _ p codebook, ← buildSq_isOk]
  cases variant : p.indexType <;>
    simp [buildVectorParamsWithModels, variant, bind_eq_ok, pure, Except.pure, LanceVectorIndexType.UsesPq,
      LanceVectorIndexType.UsesSq, LanceVectorIndexType.UsesHnsw]

end Accepted

end LanceC.Index
