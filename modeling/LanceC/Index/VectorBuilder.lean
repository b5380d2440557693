import LanceC.Index.ModelTrainer
import LanceC.Index.SegmentBuilder

/-! The vector segment builder's constructor with injected models (`new_vector_builder_inner`). -/

namespace LanceC.Index

open Ffi Logic Machine

def LanceVectorIndexType.fromC (value : Int) : Except LanceError LanceVectorIndexType :=
  match value with
  | 101 => .ok .ivfFlat
  | 102 => .ok .ivfSq
  | 103 => .ok .ivfPq
  | 104 => .ok .ivfHnswSq
  | 105 => .ok .ivfHnswPq
  | 106 => .ok .ivfHnswFlat
  | _ => .error (.invalidInput s!"invalid vector index type: {value}")

structure LanceVectorIndexSegmentParams where
  indexType : Int
  metric : Int
  numPartitions : Nat
  numSubVectors : Nat
  numBits : Nat
  maxIterations : Nat
  hnswM : Nat
  hnswEfConstruction : Nat
  sampleRate : Nat
  deriving DecidableEq, Repr

def LanceVectorIndexSegmentParams.parse (self : LanceVectorIndexSegmentParams) :
    Except LanceError LanceVectorIndexParams := do
  return {
    indexType := ← LanceVectorIndexType.fromC self.indexType
    metric := ← LanceMetricType.fromC self.metric
    numPartitions := self.numPartitions, numSubVectors := self.numSubVectors, numBits := self.numBits
    maxIterations := self.maxIterations, hnswM := self.hnswM, hnswEfConstruction := self.hnswEfConstruction
    sampleRate := self.sampleRate }

/-- An injected model with the provenance of its schema. -/
abbrev InjectedModel (Value : Type) := FixedSizeListArray (Option Value) × ModelProvenance

/-- The slots of the caller's centroids and codebook. -/
abbrev ModelSlots (Value : Type) := Option (FfiArrowArray Value) × Option (FfiArrowArray Value)

variable {Value : Type}

/-- Unset is 8. -/
def LanceVectorIndexParams.effectiveNumBits (params : LanceVectorIndexParams) : Nat :=
  if params.numBits = 0 then 8 else params.numBits

section Checks

variable (params : LanceVectorIndexParams) (dim : Nat)

def checkCentroidProvenance (centroids : Option (InjectedModel Value)) : Except LanceError Unit :=
  match centroids with
  | none => .ok ()
  | some (_, provenance) => refuseIf
      (provenance.kind ≠ "ivf" ∨ provenance.metric ≠ params.metric.code ∨ provenance.dimension ≠ dim)
      (.invalidInput (String.join ["ivf_centroids provenance must be kind=ivf, metric=", toString params.metric.code,
        ", dimension=", toString dim, "; got kind=", provenance.kind, ", metric=", toString provenance.metric,
        ", dimension=", toString provenance.dimension]))

def checkCodebookProvenance (centroids codebook : Option (InjectedModel Value)) : Except LanceError Unit :=
  match codebook with
  | none => .ok ()
  | some (_, provenance) => do
    refuseIf (provenance.kind ≠ "pq" ∨ provenance.metric ≠ params.metric.code ∨ provenance.dimension ≠ dim ∨
        provenance.numSubVectors ≠ some params.numSubVectors ∨ provenance.numBits ≠ some params.effectiveNumBits)
      (.invalidInput (String.join ["pq_codebook provenance does not match metric ", toString params.metric.code,
        ", dimension ", toString dim, ", num_sub_vectors ", toString params.numSubVectors, ", num_bits ",
        toString params.effectiveNumBits]))
    refuseIf (centroids.map (·.2.ivfId) ≠ some provenance.ivfId)
      (.invalidInput "pq_codebook was not trained with the supplied ivf_centroids")

def checkCentroids (debug : DataType → String) (centroids : Option (InjectedModel Value)) :
    Except LanceError Unit :=
  match centroids with
  | none => .ok ()
  | some (centroids, _) => do
    refuseIf ((centroids.valueLength : Int) ≠ asI32 dim) (.invalidInput (String.join
      ["ivf_centroids must have type FixedSizeList<Float32>[", toString dim, "], got ",
        debug (.fixedSizeList .float32 centroids.valueLength)]))
    refuseIf (centroids.len ≠ params.numPartitions) (.invalidInput
      s!"ivf_centroids length {centroids.len} does not match num_partitions {params.numPartitions}")

/-- Which models the index type and the mode ask for or refuse. -/
def checkPresence (mode : LanceIndexSegmentBuildMode) (centroids codebook : Option (InjectedModel Value)) :
    Except LanceError Unit := do
  refuseIf (params.indexType.UsesPq ∧ params.effectiveNumBits ≠ 4 ∧ params.effectiveNumBits ≠ 8)
    (.invalidInput s!"num_bits must be 4 or 8 for Lance PQ indexes, got {params.effectiveNumBits}")
  refuseIf (¬params.indexType.UsesPq ∧ codebook.isSome)
    (.invalidInput s!"pq_codebook is not valid for vector index type {params.indexType.debug}")
  refuseIf (params.indexType.UsesPq ∧ centroids.isSome ≠ codebook.isSome)
    (.invalidInput "precomputed PQ segment builds require both ivf_centroids and pq_codebook")
  let hasModels := centroids.isSome || codebook.isSome
  match mode with
  | .auto => return ()
  | .localTrain =>
    refuseIf hasModels (.invalidInput "mode LOCAL_TRAIN does not accept precomputed model arrays")
  | .precomputed =>
    refuseIf (!hasModels) (.invalidInput "mode PRECOMPUTED requires precomputed model arrays")

/-- The codebook's values, where its shape is the one that the parameters ask for. -/
def codebookValues [Target] (debug : DataType → String) (codebook : Option (InjectedModel Value)) :
    Except LanceError (Option (List (Option Value))) :=
  match codebook with
  | none => .ok none
  | some (codebook, _) => do
    refuseIf (params.numSubVectors = 0 ∨ dim % params.numSubVectors ≠ 0)
      (.invalidInput s!"dimension {dim} must be divisible by num_sub_vectors {params.numSubVectors}")
    refuseIf (params.effectiveNumBits ≠ 4 ∧ params.effectiveNumBits ≠ 8)
      (.invalidInput s!"num_bits must be 4 or 8 for Lance PQ indexes, got {params.effectiveNumBits}")
    let some codewords := checkedShlOne params.effectiveNumBits
      | throw (.invalidInput s!"1 << num_bits ({params.effectiveNumBits}) overflows usize")
    let some expectedLen := checkedMul params.numSubVectors codewords
      | throw (.invalidInput
          s!"num_sub_vectors {params.numSubVectors} * codewords {codewords} overflows usize")
    refuseIf (codebook.len ≠ expectedLen ∨ (codebook.valueLength : Int) ≠ asI32 (dim / params.numSubVectors))
      (.invalidInput (String.join ["pq_codebook must be FixedSizeList<Float32> with length ", toString expectedLen,
        " and list_size ", toString (dim / params.numSubVectors), ", got length ", toString codebook.len, ", type ",
        debug (.fixedSizeList .float32 codebook.valueLength)]))
    return some (codebook.rows.flatMap Vector.toList)

end Checks

section Constructor

variable [Target] (library : VectorLibrary Value) (arrow : ModelCrate Value) (memory : SchemaMemory)

/-- One of the two models: absent for a NULL array, else its provenance and the borrowed array. -/
def injectModel (schema : Option Nat) (name : String) :
    Body (Option (FfiArrowArray Value)) LanceError (Option (InjectedModel Value)) := do
  if (← Body.get).isNone then return none
  let provenance ← Body.ofExcept (modelProvenance library.parseStr arrow.toSchemaConversion memory schema name)
  let model ← fun slot => borrowModelArray arrow.toArrowCrate memory slot schema name
  let model ← Body.ofExcept (fixedSizeListModel arrow model name)
  return some (model, provenance)

/-- A part that works on the first slot only, and one for the second. -/
def onCentroids {α : Type} (body : Body (Option (FfiArrowArray Value)) LanceError α) :
    Body (ModelSlots Value) LanceError α := fun slots =>
  let (outcome, slot) := body slots.1
  (outcome, slot, slots.2)

def onCodebook {α : Type} (body : Body (Option (FfiArrowArray Value)) LanceError α) :
    Body (ModelSlots Value) LanceError α := fun slots =>
  let (outcome, slot) := body slots.2
  (outcome, slots.1, slot)

/-- What the caller passes besides the models. -/
structure BuilderInput where
  column : String
  indexName : Option String
  params : LanceVectorIndexParams
  dataset : Dataset
  options : ParsedBuildOptions

/-- The models of non-NULL options. -/
def injectModels (options : Option (LanceIndexSegmentBuildOptions Value)) :
    Body (ModelSlots Value) LanceError (Option (InjectedModel Value) × Option (InjectedModel Value)) :=
  match options with
  | none => return (none, none)
  | some options => do
    let centroids ← onCentroids (injectModel library arrow memory options.ivfCentroidsSchema "ivf_centroids")
    let codebook ← onCodebook (injectModel library arrow memory options.pqCodebookSchema "pq_codebook")
    return (centroids, codebook)

/-- The arguments that are checked before the models are looked at. -/
def parseBuilderInput (dataset : Option Dataset) (column indexName : CString)
    (params : Option LanceVectorIndexSegmentParams) (options : Option (LanceIndexSegmentBuildOptions Value)) :
    Except LanceError BuilderInput :=
  match dataset, params with
  | some dataset, some params => do
    refuseIf (column = .null) (.invalidInput "dataset, column, and params must not be NULL")
    let column ← parseColumn column
    let indexName ← parseCString indexName
    let params ← params.parse
    let parsed ← parseOptions options dataset false
    return { column, indexName, params, dataset, options := parsed }
  | _, _ => .error (.invalidInput "dataset, column, and params must not be NULL")

/-- The checks of the injected models against the parameters, and the values of the codebook. -/
def gateModels (input : BuilderInput) (centroids codebook : Option (InjectedModel Value)) :
    Except LanceError (Option (List (Option Value))) := do
  let dim ← library.getVectorDim input.dataset.schema input.column
  checkCentroidProvenance input.params dim centroids
  checkCodebookProvenance input.params dim centroids codebook
  checkCentroids input.params dim arrow.debug centroids
  checkPresence input.params input.options.mode centroids codebook
  let values ← codebookValues input.params dim arrow.debug codebook
  let _ ← buildVectorParamsWithModels input.params (centroids.map Prod.fst) values
  if input.params.indexType.UsesPq ∧ input.params.metric = .dot ∧ values.isSome then
    refuseDotSubset input.params.indexType input.options.mode input.dataset input.options.fragmentIds
  return values

variable {Callback Context Gate : Type}

omit [Target] in
/-- The slots as the caller passes them. -/
def modelSlots (options : Option (LanceIndexSegmentBuildOptions Value)) : ModelSlots Value :=
  match options with
  | none => (none, none)
  | some options => (options.ivfCentroids, options.pqCodebook)

/-- The state are the slots of the options' arrays; `dataset` is a NULL handle or its snapshot. -/
def newVectorBuilderInner (dataset : Option Dataset) (column indexName : CString)
    (params : Option LanceVectorIndexSegmentParams) (options : Option (LanceIndexSegmentBuildOptions Value)) :
    Body (ModelSlots Value) LanceError
      (LanceIndexSegmentBuilder Callback Context Gate (Option Value) (List (Option Value))) := do
  let input ← Body.ofExcept (parseBuilderInput dataset column indexName params options)
  let (centroids, codebook) ← injectModels library arrow memory options
  let values ← Body.ofExcept (gateModels library arrow input centroids codebook)
  return .new input.dataset input.column input.indexName
    (.vector input.params (centroids.map Prod.fst) values) input.options.fragmentIds input.options.indexUuid

end Constructor

end LanceC.Index
