import LanceC.Index.TrainedModels
import LanceC.Index.UuidText
import LanceC.Index.VectorBuilder

/-! Which pairs of models the vector segment builder accepts: those of the two trainers, and no codebook that
disagrees with its own parameters. -/

namespace LanceC.Index

open Ffi Logic Machine

variable {Value : Type}

section Inject

variable [Target] {library : VectorLibrary Value} {arrow : ModelCrate Value} {memory : SchemaMemory} {name : String}
variable {schema : Option Nat} {array : FfiArrowArray Value} {reached : Option (FfiArrowArray Value)}

theorem injectModel_none : injectModel library arrow memory schema name none = (.returned (.ok none), none) := rfl

theorem injectModel_eq_ok {injected : Option (InjectedModel Value)} :
    injectModel library arrow memory schema name (some array) = (.returned (.ok injected), reached) ↔
      ∃ provenance model list,
        modelProvenance library.parseStr arrow.toSchemaConversion memory schema name = .ok provenance ∧
        borrowModelArray arrow.toArrowCrate memory (some array) schema name = (.returned (.ok model), reached) ∧
        fixedSizeListModel arrow model name = .ok list ∧ injected = some (list, provenance) := by
  constructor
  · intro success
    obtain ⟨provenance, recorded, success⟩ := Body.ofExcept_bind_eq_ok.mp success
    obtain ⟨model, _, borrowed, success⟩ := Body.bind_eq_ok.mp success
    obtain ⟨list, whole, success⟩ := Body.ofExcept_bind_eq_ok.mp success
    obtain ⟨rfl, rfl⟩ := Body.pure_eq_ok.mp success
    exact ⟨provenance, model, list, recorded, borrowed, whole, rfl⟩
  · rintro ⟨provenance, model, list, recorded, borrowed, whole, rfl⟩
    refine Body.ofExcept_bind_eq_ok.mpr ⟨provenance, recorded, ?_⟩
    refine Body.bind_eq_ok.mpr ⟨model, reached, borrowed, ?_⟩
    exact Body.ofExcept_bind_eq_ok.mpr ⟨list, whole, rfl⟩

/-- An exported list array is injected as it is. -/
theorem injectModel_carried (interchange : Interchange arrow) {address : Nat} {field : ArrowField}
    {list : FixedSizeListArray (Option Value)} {provenance : ModelProvenance}
    (holds : Holds arrow.toSchemaConversion memory address field)
    (typed : field.dataType = .fixedSizeList .float32 (list.valueLength : Nat)) (positive : 0 < list.valueLength)
    (carries : Carries array list.valueLength (list.rows.map fun row => some row.toList)) (free : list.NullFree)
    (recorded : modelProvenance library.parseStr arrow.toSchemaConversion memory (some address) name = .ok provenance) :
    ∃ replacement, injectModel library arrow memory (some address) name (some array) =
      (.returned (.ok (some (list, provenance))), some replacement) := by
  obtain ⟨model, replacement, borrowed, size, rows, _⟩ :=
    borrowModelArray_carried interchange holds typed positive carries name
  have whole := (fixedSizeListModel_eq_ok interchange (size ▸ positive : 0 < model.listSize) name).mpr
    ⟨⟨size.symm, rows⟩, free, by rw [rows, size]; exact carries.fits⟩
  exact ⟨replacement, injectModel_eq_ok.mpr ⟨provenance, model, list, recorded, borrowed, whole, rfl⟩⟩

/-- What an injection that returns has seen of the struct, its schema and its provenance. -/
theorem injectModel_shape (interchange : Interchange arrow) {list : FixedSizeListArray (Option Value)}
    {provenance : ModelProvenance}
    (success : injectModel library arrow memory schema name (some array) =
      (.returned (.ok (some (list, provenance))), reached)) :
    modelProvenance library.parseStr arrow.toSchemaConversion memory schema name = .ok provenance ∧
      (∃ field, validateModelSchema arrow.toSchemaConversion memory schema name = .ok field ∧
        field.dataType = .fixedSizeList .float32 (list.valueLength : Nat)) ∧
      (list.len : Int) = array.length := by
  obtain ⟨_, model, _, recorded, borrowed, whole, same⟩ := injectModel_eq_ok.mp success
  obtain ⟨rfl, rfl⟩ := Prod.mk.inj (Option.some.inj same)
  obtain ⟨_, field, given, described, typed, positive, length⟩ := borrowModelArray_eq_ok interchange borrowed
  obtain rfl := Option.some.inj given
  obtain ⟨⟨size, rows⟩, _⟩ := (fixedSizeListModel_eq_ok interchange positive name).mp whole
  refine ⟨recorded, ⟨field, described, size ▸ typed⟩, ?_⟩
  rw [← length, rows, List.length_map]
  rfl

end Inject

section Gate

variable [Target] {params : LanceVectorIndexParams} {dim : Nat} {centroids codebook : FixedSizeListArray (Option Value)}
variable {ivf pq : ModelProvenance} {debug : DataType → String}

omit [Target] in
theorem checkCentroidProvenance_ok :
    checkCentroidProvenance params dim (some (centroids, ivf)) = .ok () ↔
      ivf.kind = "ivf" ∧ ivf.metric = params.metric.code ∧ ivf.dimension = dim := by
  simp only [checkCentroidProvenance, refuseIf_ok, not_or, Classical.not_not]

omit [Target] in
/-- The recorded provenance is the one that the parameters and the centroids determine. -/
theorem checkCodebookProvenance_ok :
    checkCodebookProvenance params dim (some (centroids, ivf)) (some (codebook, pq)) = .ok () ↔
      pq = ⟨"pq", params.metric.code, dim, ivf.ivfId, some params.numSubVectors, some params.effectiveNumBits⟩ := by
  obtain ⟨kind, metric, dimension, ivfId, numSubVectors, numBits⟩ := pq
  simp only [checkCodebookProvenance, bind_eq_ok, refuseIf_ok, not_or, Classical.not_not, Option.map_some,
    Option.some_inj, ModelProvenance.mk.injEq, exists_const]
  tauto

omit [Target] in
theorem checkCentroids_ok (narrow : dim ≤ i32Max) :
    checkCentroids params dim debug (some (centroids, ivf)) = .ok () ↔
      centroids.valueLength = dim ∧ centroids.len = params.numPartitions := by
  simp only [checkCentroids, bind_eq_ok, refuseIf_ok, Classical.not_not, exists_const, asI32_eq narrow,
    Int.natCast_inj]

omit [Target] in
theorem checkPresence_ok {mode : LanceIndexSegmentBuildMode} :
    checkPresence params mode (some (centroids, ivf)) (some (codebook, pq)) = .ok () ↔
      params.indexType.UsesPq ∧ (params.effectiveNumBits = 4 ∨ params.effectiveNumBits = 8) ∧
      mode ≠ .localTrain := by
  simp only [checkPresence, bind_eq_ok, refuseIf_ok, exists_const]
  cases mode <;> by_cases usesPq : params.indexType.UsesPq <;> simp [usesPq, pure, Except.pure] <;> omega

theorem checkedShlOne_bits {bits : Nat} (known : bits = 4 ∨ bits = 8) : checkedShlOne bits = some (2 ^ bits) := by
  refine checkedShlOne_eq_some.mpr ⟨?_, rfl⟩
  rcases Target.supported with narrow | wide <;> omega

theorem codebookValues_ok (narrow : dim ≤ i32Max) {values : Option (List (Option Value))} :
    codebookValues params dim debug (some (codebook, pq)) = .ok values ↔
      values = some codebook.values ∧ (params.numSubVectors ≠ 0 ∧ dim % params.numSubVectors = 0) ∧
        (params.effectiveNumBits = 4 ∨ params.effectiveNumBits = 8) ∧
        codebook.len = params.numSubVectors * 2 ^ params.effectiveNumBits ∧
        codebook.valueLength = dim / params.numSubVectors ∧
        params.numSubVectors * 2 ^ params.effectiveNumBits ≤ usizeMax := by
  have size := asI32_eq (Nat.le_trans (Nat.div_le_self dim params.numSubVectors) narrow)
  constructor
  · intro success
    obtain ⟨_, divides, success⟩ := bind_eq_ok.mp success
    obtain ⟨_, bits, success⟩ := bind_eq_ok.mp success
    have bits : params.effectiveNumBits = 4 ∨ params.effectiveNumBits = 8 := by
      have known := refuseIf_ok.mp bits
      omega
    rw [checkedShlOne_bits bits] at success
    dsimp only at success
    split at success
    · rename_i expectedLen multiplied
      obtain ⟨rfl, fits⟩ := checkedMul_eq_some.mp multiplied
      obtain ⟨_, shape, success⟩ := bind_eq_ok.mp success
      have divides := refuseIf_ok.mp divides
      have shape := refuseIf_ok.mp shape
      simp only [not_or, Classical.not_not, size, Int.natCast_inj] at divides shape
      exact ⟨(Except.ok.inj success).symm, divides, bits, shape.1, shape.2, fits⟩
    · cases success
  · rintro ⟨rfl, divides, bits, length, same, fits⟩
    refine bind_eq_ok.mpr ⟨(), refuseIf_ok.mpr (by simpa only [not_or, Classical.not_not] using divides), ?_⟩
    refine bind_eq_ok.mpr ⟨(), refuseIf_ok.mpr (by omega), ?_⟩
    rw [checkedShlOne_bits bits]
    dsimp only
    rw [checkedMul_eq_some.mpr ⟨rfl, fits⟩]
    refine bind_eq_ok.mpr ⟨(), refuseIf_ok.mpr ?_, rfl⟩
    simp only [not_or, Classical.not_not, size, Int.natCast_inj]
    exact ⟨length, same⟩

omit [Target] in
theorem effectiveNumBits_known :
    params.numBits = 0 ∨ params.numBits = 4 ∨ params.numBits = 8 ↔
      params.effectiveNumBits = 4 ∨ params.effectiveNumBits = 8 := by
  unfold LanceVectorIndexParams.effectiveNumBits
  split <;> omega

omit [Target] in
/-- The parameters of a PQ index are constructed where its parts get what they need. -/
theorem buildVectorParamsWithModels_pq (usesPq : params.indexType.UsesPq) {values : List (Option Value)} :
    (∃ core, buildVectorParamsWithModels params (some centroids) (some values) = .ok core) ↔
      (params.numPartitions ≠ 0 ∧ centroids.len = params.numPartitions) ∧
        (params.indexType.UsesHnsw → params.hnswM ≠ 0) ∧ params.numSubVectors ≠ 0 ∧
        (params.effectiveNumBits = 4 ∨ params.effectiveNumBits = 8) := by
  have other : ¬params.indexType.UsesSq := by
    rcases usesPq with same | same <;> simp [LanceVectorIndexType.UsesSq, same]
  rw [buildVectorParamsWithModels_isOk, effectiveNumBits_known]
  simp [usesPq, other]

/-- What the models, the parameters and the dataset have to agree on. -/
structure GatePasses (input : BuilderInput) (dim : Nat) (centroids codebook : InjectedModel Value) : Prop where
  shapes : ModelShapes dim input.params.numPartitions input.params.numSubVectors input.params.effectiveNumBits
    centroids.1 codebook.1
  ivf : centroids.2.kind = "ivf" ∧ centroids.2.metric = input.params.metric.code ∧ centroids.2.dimension = dim
  pq : codebook.2 = ⟨"pq", input.params.metric.code, dim, centroids.2.ivfId, some input.params.numSubVectors,
    some input.params.effectiveNumBits⟩
  usesPq : input.params.indexType.UsesPq
  hnsw : input.params.indexType.UsesHnsw → input.params.hnswM ≠ 0
  mode : input.options.mode ≠ .localTrain
  dot : input.params.metric = .dot →
    refuseDotSubset input.params.indexType input.options.mode input.dataset input.options.fragmentIds = .ok ()

theorem gateModels_isOk {library : VectorLibrary Value} {arrow : ModelCrate Value}
    (contract : TrainingContract library) {input : BuilderInput}
    (sized : library.getVectorDim input.dataset.schema input.column = .ok dim)
    {centroids codebook : InjectedModel Value} :
    (∃ values, gateModels library arrow input (some centroids) (some codebook) = .ok values) ↔
      GatePasses input dim centroids codebook := by
  obtain ⟨centroids, ivf⟩ := centroids
  obtain ⟨codebook, pq⟩ := codebook
  have narrow := contract.dimension _ _ _ sized
  constructor
  · rintro ⟨result, success⟩
    obtain ⟨size, found, success⟩ := bind_eq_ok.mp success
    obtain rfl := Except.ok.inj (sized.symm.trans found)
    obtain ⟨_, ivf, success⟩ := bind_eq_ok.mp success
    obtain ⟨_, pq, success⟩ := bind_eq_ok.mp success
    obtain ⟨_, shape, success⟩ := bind_eq_ok.mp success
    obtain ⟨_, presence, success⟩ := bind_eq_ok.mp success
    obtain ⟨values, codewords, success⟩ := bind_eq_ok.mp success
    obtain ⟨core, constructed, success⟩ := bind_eq_ok.mp success
    obtain ⟨usesPq, bits, mode⟩ := checkPresence_ok.mp presence
    obtain ⟨rfl, divides, _, length, codeSize, fits⟩ := (codebookValues_ok narrow).mp codewords
    obtain ⟨⟨partitions, _⟩, hnsw, _, _⟩ := (buildVectorParamsWithModels_pq usesPq).mp ⟨core, constructed⟩
    obtain ⟨size, rows⟩ := (checkCentroids_ok narrow).mp shape
    refine ⟨⟨partitions, size, rows, divides.1, divides.2, bits, codeSize, length, fits⟩,
      checkCentroidProvenance_ok.mp ivf, checkCodebookProvenance_ok.mp pq, usesPq, hnsw, mode, fun dot => ?_⟩
    rw [if_pos ⟨usesPq, dot, rfl⟩] at success
    obtain ⟨_, guarded, _⟩ := bind_eq_ok.mp success
    exact guarded
  · rintro ⟨⟨partitions, size, rows, subVectors, divides, bits, codeSize, length, fits⟩, ivf, pq, usesPq, hnsw, mode,
      dot⟩
    obtain ⟨core, constructed⟩ :=
      (buildVectorParamsWithModels_pq usesPq).mpr ⟨⟨partitions, rows⟩, hnsw, subVectors, bits⟩
    refine ⟨some codebook.values, bind_eq_ok.mpr ⟨dim, sized, ?_⟩⟩
    refine bind_eq_ok.mpr ⟨(), checkCentroidProvenance_ok.mpr ivf, ?_⟩
    refine bind_eq_ok.mpr ⟨(), checkCodebookProvenance_ok.mpr pq, ?_⟩
    refine bind_eq_ok.mpr ⟨(), (checkCentroids_ok narrow).mpr ⟨size, rows⟩, ?_⟩
    refine bind_eq_ok.mpr ⟨(), checkPresence_ok.mpr ⟨usesPq, bits, mode⟩, ?_⟩
    refine bind_eq_ok.mpr
      ⟨_, (codebookValues_ok narrow).mpr ⟨rfl, ⟨subVectors, divides⟩, bits, length, codeSize, fits⟩, ?_⟩
    refine bind_eq_ok.mpr ⟨core, constructed, ?_⟩
    split
    · rename_i guarded
      exact bind_eq_ok.mpr ⟨(), dot guarded.2.1, rfl⟩
    · rfl

end Gate

section Arguments

variable [Target] {dataset : Dataset} {column indexName : CString} {options : LanceIndexSegmentBuildOptions Value}

omit [Target] in
theorem LanceVectorIndexType.fromC_usesPq {value : Int} {indexType : LanceVectorIndexType}
    (known : fromC value = .ok indexType) :
    (indexType.UsesPq ↔ value = 103 ∨ value = 105) ∧ (indexType.UsesPq → (indexType.UsesHnsw ↔ value = 105)) := by
  unfold fromC at known
  split at known <;> cases known <;> simp [UsesPq, UsesHnsw]

omit [Target] in
theorem LanceVectorIndexType.fromC_pq {value : Int} (pq : value = 103 ∨ value = 105) :
    ∃ indexType, fromC value = .ok indexType := by
  rcases pq with rfl | rfl <;> exact ⟨_, rfl⟩

omit [Target] in
theorem LanceIndexSegmentBuildMode.fromC_localTrain {value : Int} {mode : LanceIndexSegmentBuildMode}
    (known : fromC value = .ok mode) : mode ≠ .localTrain ↔ value = 0 ∨ value = 2 := by
  unfold fromC at known
  split at known <;> cases known <;> simp

omit [Target] in
theorem parseCString_isOk {text : CString} : (∃ value, parseCString text = .ok value) ↔ text.isUtf8 = true := by
  cases text <;> simp [parseCString, CString.isUtf8]

omit [Target] in
theorem LanceVectorIndexSegmentParams.parse_eq_ok {params : LanceVectorIndexSegmentParams}
    {parsed : LanceVectorIndexParams} :
    params.parse = .ok parsed ↔
      LanceVectorIndexType.fromC params.indexType = .ok parsed.indexType ∧ params.metric = parsed.metric.code ∧
        parsed = {
          indexType := parsed.indexType, metric := parsed.metric
          numPartitions := params.numPartitions, numSubVectors := params.numSubVectors, numBits := params.numBits
          maxIterations := params.maxIterations, hnswM := params.hnswM
          hnswEfConstruction := params.hnswEfConstruction, sampleRate := params.sampleRate } := by
  rw [← LanceMetricType.fromC_eq_ok]
  constructor
  · intro success
    obtain ⟨indexType, known, success⟩ := bind_eq_ok.mp success
    obtain ⟨metric, given, success⟩ := bind_eq_ok.mp success
    obtain rfl := Except.ok.inj success
    exact ⟨known, given, rfl⟩
  · rintro ⟨known, given, same⟩
    rw [parse, known, given, same]
    rfl

theorem parseBuilderInput_eq_ok {params : LanceVectorIndexSegmentParams}
    {options : Option (LanceIndexSegmentBuildOptions Value)} {input : BuilderInput} :
    parseBuilderInput (some dataset) column indexName (some params) options = .ok input ↔
      parseColumn column = .ok input.column ∧ parseCString indexName = .ok input.indexName ∧
        params.parse = .ok input.params ∧ input.dataset = dataset ∧
        parseOptions options dataset false = .ok input.options := by
  constructor
  · intro success
    obtain ⟨_, _, success⟩ := bind_eq_ok.mp success
    obtain ⟨name, named, success⟩ := bind_eq_ok.mp success
    obtain ⟨index, called, success⟩ := bind_eq_ok.mp success
    obtain ⟨parsed, read, success⟩ := bind_eq_ok.mp success
    obtain ⟨chosen, given, success⟩ := bind_eq_ok.mp success
    obtain rfl := Except.ok.inj success
    exact ⟨named, called, read, rfl, given⟩
  · rintro ⟨named, called, read, rfl, given⟩
    refine bind_eq_ok.mpr ⟨(), refuseIf_ok.mpr ?_, ?_⟩
    · rintro rfl
      cases named
    · rw [named, called, read, given]
      rfl

end Arguments

section Accepts

variable [Target] {library : VectorLibrary Value} {arrow : ModelCrate Value} {memory : SchemaMemory}
variable {options : LanceIndexSegmentBuildOptions Value} {slots reached : ModelSlots Value}

omit [Target] in
theorem onCentroids_eq_ok {α : Type} {body : Body (Option (FfiArrowArray Value)) LanceError α} {value : α} :
    onCentroids body slots = (.returned (.ok value), reached) ↔
      body slots.1 = (.returned (.ok value), reached.1) ∧ reached.2 = slots.2 := by
  obtain ⟨first, second⟩ := reached
  rw [onCentroids]
  rcases body slots.1 with ⟨outcome, slot⟩
  simp [and_assoc, eq_comm]

omit [Target] in
theorem onCodebook_eq_ok {α : Type} {body : Body (Option (FfiArrowArray Value)) LanceError α} {value : α} :
    onCodebook body slots = (.returned (.ok value), reached) ↔
      body slots.2 = (.returned (.ok value), reached.2) ∧ reached.1 = slots.1 := by
  obtain ⟨first, second⟩ := reached
  rw [onCodebook]
  rcases body slots.2 with ⟨outcome, slot⟩
  simp only [Prod.mk.injEq]
  tauto

theorem injectModels_eq_ok {centroids codebook : Option (InjectedModel Value)} :
    injectModels library arrow memory (some options) slots = (.returned (.ok (centroids, codebook)), reached) ↔
      injectModel library arrow memory options.ivfCentroidsSchema "ivf_centroids" slots.1 =
          (.returned (.ok centroids), reached.1) ∧
        injectModel library arrow memory options.pqCodebookSchema "pq_codebook" slots.2 =
          (.returned (.ok codebook), reached.2) := by
  constructor
  · intro success
    obtain ⟨first, between, injected, success⟩ := Body.bind_eq_ok.mp success
    obtain ⟨second, after, injected', success⟩ := Body.bind_eq_ok.mp success
    obtain ⟨same, rfl⟩ := Body.pure_eq_ok.mp success
    obtain ⟨rfl, rfl⟩ := Prod.mk.inj same
    obtain ⟨first, kept⟩ := onCentroids_eq_ok.mp injected
    obtain ⟨second, kept'⟩ := onCodebook_eq_ok.mp injected'
    exact ⟨kept' ▸ first, kept ▸ second⟩
  · rintro ⟨first, second⟩
    refine Body.bind_eq_ok.mpr ⟨centroids, (reached.1, slots.2), onCentroids_eq_ok.mpr ⟨first, rfl⟩, ?_⟩
    exact Body.bind_eq_ok.mpr ⟨codebook, reached, onCodebook_eq_ok.mpr ⟨second, rfl⟩, rfl⟩

variable (library arrow memory) in
/-- The call returns a builder, which has no progress callback yet. -/
def Accepts (dataset : Dataset) (column indexName : CString) (params : LanceVectorIndexSegmentParams)
    (options : LanceIndexSegmentBuildOptions Value) : Prop :=
  ∃ (builder : LanceIndexSegmentBuilder Unit Unit Unit (Option Value) (List (Option Value))) (reached : _),
    newVectorBuilderInner library arrow memory (some dataset) column indexName (some params) (some options)
      (modelSlots (some options)) = (.returned (.ok builder), reached)

theorem accepts_iff {dataset : Dataset} {column indexName : CString} {params : LanceVectorIndexSegmentParams} :
    Accepts library arrow memory dataset column indexName params options ↔
      ∃ input centroids codebook values reached,
        parseBuilderInput (some dataset) column indexName (some params) (some options) = .ok input ∧
        injectModels library arrow memory (some options) (options.ivfCentroids, options.pqCodebook) =
          (.returned (.ok (centroids, codebook)), reached) ∧
        gateModels library arrow input centroids codebook = .ok values := by
  constructor
  · rintro ⟨builder, reached, success⟩
    obtain ⟨input, parsed, success⟩ := Body.ofExcept_bind_eq_ok.mp success
    obtain ⟨⟨centroids, codebook⟩, _, injected, success⟩ := Body.bind_eq_ok.mp success
    obtain ⟨values, gated, success⟩ := Body.ofExcept_bind_eq_ok.mp success
    exact ⟨input, centroids, codebook, values, _, parsed, injected, gated⟩
  · rintro ⟨input, centroids, codebook, values, reached, parsed, injected, gated⟩
    refine ⟨.new input.dataset input.column input.indexName (.vector input.params (centroids.map Prod.fst) values)
      input.options.fragmentIds input.options.indexUuid, reached,
      Body.ofExcept_bind_eq_ok.mpr ⟨input, parsed, ?_⟩⟩
    refine Body.bind_eq_ok.mpr ⟨(centroids, codebook), reached, injected, ?_⟩
    exact Body.ofExcept_bind_eq_ok.mpr ⟨values, gated, rfl⟩

end Accepts

section Trained

variable [Target] {library : VectorLibrary Value} {training building : ModelCrate Value} {memory : SchemaMemory}
variable {column indexName : CString} {metric : Int} {dataset : Dataset} {params : LanceVectorIndexSegmentParams}
variable {options : LanceIndexSegmentBuildOptions Value} {fragmentIds : Option U32Pointer} {count : Nat}

/-- The options pass two trained models on, whose schemas the caller may have moved. -/
structure Injects (models : TrainedModels library training column metric) (building : ModelCrate Value)
    (memory : SchemaMemory) (options : LanceIndexSegmentBuildOptions Value) : Prop where
  centroids : options.ivfCentroids = some models.centroids
  centroidsSchema : ∃ address, options.ivfCentroidsSchema = some address ∧
    Holds building.toSchemaConversion memory address models.ivf.field
  codebook : options.pqCodebook = some models.pq.array
  codebookSchema : ∃ address, options.pqCodebookSchema = some address ∧
    Holds building.toSchemaConversion memory address models.pq.field

/-- A list that leaves out none of the ids that it could name. -/
def SelectsAll (dataset : Dataset) (fragmentIds : Option U32Pointer) (count : Nat) : Prop :=
  ∀ pointer ∈ fragmentIds, ∀ fragment ∈ dataset.fragments, fragment.id ≤ u32Max → fragment.id ∈ pointer.slice count

/-- A request for an IVF-PQ or an IVF-HNSW-PQ index, in mode AUTO or PRECOMPUTED, with the numbers of a training. -/
structure Matches (models : TrainedModels library training column metric) (dataset : Dataset) (indexName : CString)
    (params : LanceVectorIndexSegmentParams) (options : LanceIndexSegmentBuildOptions Value) : Prop where
  indexType : params.indexType = 103 ∨ params.indexType = 105
  mode : options.mode = 0 ∨ options.mode = 2
  metric : params.metric = metric
  numPartitions : params.numPartitions = models.numPartitions
  numSubVectors : params.numSubVectors = models.numSubVectors
  numBits : (if params.numBits = 0 then 8 else params.numBits) = models.numBits
  hnsw : params.indexType = 105 → params.hnswM ≠ 0
  indexName : indexName.isUtf8 = true
  fragments : Selects dataset options.fragmentIds options.fragmentCount
  dot : params.metric = 2 → SelectsAll dataset options.fragmentIds options.fragmentCount

theorem refuseDotSubset_ok {indexType : LanceVectorIndexType} {mode : LanceIndexSegmentBuildMode}
    (selects : Selects dataset fragmentIds count) :
    refuseDotSubset indexType mode dataset (fragmentIds.map (·.slice count)) = .ok () ↔
      SelectsAll dataset fragmentIds count := by
  cases fragmentIds with
  | none => simp [refuseDotSubset, SelectsAll]
  | some pointer =>
    have refuses := refuseDotSubset_refuses indexType mode selects
    rw [Option.map_some]
    cases outcome : refuseDotSubset indexType mode dataset (some (pointer.slice count)) with
    | ok done =>
      have none : ¬∃ fragment ∈ dataset.fragments, fragment.id ≤ u32Max ∧ fragment.id ∉ pointer.slice count := by
        rw [← refuses, outcome]
        rintro ⟨error, refused⟩
        cases refused
      simpa [SelectsAll] using none
    | error error =>
      obtain ⟨fragment, present, narrow, missing⟩ := refuses.mp ⟨error, outcome⟩
      refine iff_of_false (fun passed => ?_) fun all => missing (all pointer rfl fragment present narrow)
      cases passed

section Delivered

variable {models : TrainedModels library training column metric} {name : String} {known : LanceMetricType} {dim : Nat}
variable {centroids codebook : FixedSizeListArray (Option Value)}

/-- A trained model with the provenance that the builder reads of it. -/
def trainedIvf (library : VectorLibrary Value) (known : LanceMetricType) (dim : Nat)
    (centroids : FixedSizeListArray (Option Value)) : InjectedModel Value :=
  (centroids, ⟨"ivf", known.code, dim, library.newV4, none, none⟩)

def trainedPq (library : VectorLibrary Value) (known : LanceMetricType) (dim numSubVectors numBits : Nat)
    (codebook : FixedSizeListArray (Option Value)) : InjectedModel Value :=
  (codebook, ⟨"pq", known.code, dim, library.newV4, some numSubVectors, some numBits⟩)

/-- The builder reads both models as the trainers left them. -/
theorem injectModels_delivered (contract : TrainingContract library) (interchange : Interchange building)
    (delivered : Delivered models name known dim centroids codebook)
    (injects : Injects models building memory options) :
    ∃ reached, injectModels library building memory (some options) (options.ivfCentroids, options.pqCodebook) =
      (.returned (.ok (some (trainedIvf library known dim centroids),
        some (trainedPq library known dim models.numSubVectors models.numBits codebook))), reached) := by
  obtain ⟨ivfGiven, ⟨ivfAddress, ivfSchema, ivfHeld⟩, pqGiven, pqAddress, pqSchema, pqHeld⟩ := injects
  have narrow := Nat.le_trans (contract.dimension _ _ _ delivered.sized) i32Max_le_usizeMax
  have identified := contract.identified library.newV4
  have bits : models.numBits ≤ u32Max := by
    have known := delivered.shapes.bits
    unfold u32Max
    omega
  rw [delivered.ivfField] at ivfHeld
  rw [delivered.pqField] at pqHeld
  have recorded := modelProvenance_ivfMetadata ivfHeld identified narrow "ivf_centroids"
  have recorded' := modelProvenance_pqMetadata pqHeld identified narrow models.narrow bits "pq_codebook"
  obtain ⟨first, injectedIvf⟩ := injectModel_carried interchange ivfHeld rfl
    (delivered.shapes.centroidsSize ▸ delivered.positive) delivered.ivfCarried delivered.free.1 recorded
  obtain ⟨second, injectedPq⟩ := injectModel_carried interchange pqHeld rfl
    (delivered.shapes.codebook_positive delivered.positive) delivered.pqCarried delivered.free.2 recorded'
  rw [ivfGiven, pqGiven]
  refine ⟨(some first, some second), injectModels_eq_ok.mpr ?_⟩
  rw [ivfSchema, pqSchema]
  exact ⟨injectedIvf, injectedPq⟩

/-- Where the gate lets trained models through, the request was a matching one. -/
theorem matches_of_gate {input : BuilderInput} (delivered : Delivered models name known dim centroids codebook)
    (parsed : parseBuilderInput (some dataset) column indexName (some params) (some options) = .ok input)
    (passes : GatePasses input dim (trainedIvf library known dim centroids)
      (trainedPq library known dim models.numSubVectors models.numBits codebook)) :
    Matches models dataset indexName params options := by
  obtain ⟨_, called, read, rfl, given⟩ := parseBuilderInput_eq_ok.mp parsed
  obtain ⟨shapes, ivf, pq, usesPq, hnsw, mode, dot⟩ := passes
  obtain ⟨indexType, metric, same⟩ := LanceVectorIndexSegmentParams.parse_eq_ok.mp read
  obtain ⟨⟨ids, selects⟩, ⟨_, _, _, modeGiven⟩, _⟩ := parseOptions_eq_ok.mp given
  obtain ⟨_, _, _, _, sameSubVectors, sameBits⟩ := ModelProvenance.mk.inj pq
  have partitions : input.params.numPartitions = params.numPartitions :=
    congrArg LanceVectorIndexParams.numPartitions same
  have subVectors : input.params.numSubVectors = params.numSubVectors :=
    congrArg LanceVectorIndexParams.numSubVectors same
  have bits : input.params.effectiveNumBits = if params.numBits = 0 then 8 else params.numBits :=
    congrArg LanceVectorIndexParams.effectiveNumBits same
  have graph : input.params.hnswM = params.hnswM := congrArg LanceVectorIndexParams.hnswM same
  refine {
    indexType := (LanceVectorIndexType.fromC_usesPq indexType).1.mp usesPq
    mode := (LanceIndexSegmentBuildMode.fromC_localTrain modeGiven).mp mode
    metric := metric.trans (ivf.2.1.symm.trans delivered.metric.symm)
    numPartitions := partitions.symm.trans (shapes.centroidsLen.symm.trans delivered.shapes.centroidsLen)
    numSubVectors := subVectors.symm.trans (Option.some.inj sameSubVectors).symm
    numBits := bits.symm.trans (Option.some.inj sameBits).symm
    hnsw := fun hnswPq => ?_
    indexName := parseCString_isOk.mp ⟨_, called⟩
    fragments := selects
    dot := fun dotMetric => ?_ }
  · rw [← graph]
    exact hnsw (((LanceVectorIndexType.fromC_usesPq indexType).2 usesPq).mpr hnswPq)
  · rw [ids] at dot
    refine (refuseDotSubset_ok selects).mp (dot (LanceMetricType.code_injective (Int.natCast_inj.mp ?_)))
    exact metric.symm.trans dotMetric

/-- A matching request is parsed, and the gate lets the trained models through. -/
theorem gate_of_matches (delivered : Delivered models name known dim centroids codebook)
    (injects : Injects models building memory options) (request : Matches models dataset indexName params options) :
    ∃ input, parseBuilderInput (some dataset) column indexName (some params) (some options) = .ok input ∧
      GatePasses input dim (trainedIvf library known dim centroids)
        (trainedPq library known dim models.numSubVectors models.numBits codebook) := by
  obtain ⟨pq, mode, sameMetric, partitions, subVectors, bits, hnsw, utf8, selects, dot⟩ := request
  obtain ⟨indexType, typed⟩ := LanceVectorIndexType.fromC_pq pq
  obtain ⟨buildMode, moded⟩ : ∃ buildMode, LanceIndexSegmentBuildMode.fromC options.mode = .ok buildMode := by
    rcases mode with given | given <;> rw [given] <;> exact ⟨_, rfl⟩
  obtain ⟨called, utf8⟩ := parseCString_isOk.mpr utf8
  have usesPq := (LanceVectorIndexType.fromC_usesPq typed).1.mpr pq
  let parsed : LanceVectorIndexParams := {
    indexType, metric := known, numPartitions := params.numPartitions, numSubVectors := params.numSubVectors
    numBits := params.numBits, maxIterations := params.maxIterations, hnswM := params.hnswM
    hnswEfConstruction := params.hnswEfConstruction, sampleRate := params.sampleRate }
  let chosen : ParsedBuildOptions :=
    { fragmentIds := options.fragmentIds.map (·.slice options.fragmentCount), indexUuid := options.indexUuid
      mode := buildMode }
  have parsedOk : params.parse = .ok parsed :=
    LanceVectorIndexSegmentParams.parse_eq_ok.mpr ⟨typed, sameMetric.trans delivered.metric, rfl⟩
  have consistent : options.Consistent false buildMode := by
    obtain ⟨ivfGiven, ⟨_, ivfSchema, _⟩, pqGiven, _, pqSchema, _⟩ := injects
    exact ⟨by rw [ivfGiven, ivfSchema]; rfl, by rw [pqGiven, pqSchema]; rfl, nofun, moded⟩
  have chosenOk : parseOptions (some options) dataset false = .ok chosen :=
    parseOptions_eq_ok.mpr ⟨⟨rfl, selects⟩, consistent, rfl⟩
  have shapes : ModelShapes dim params.numPartitions params.numSubVectors parsed.effectiveNumBits centroids codebook := by
    have sameBits : parsed.effectiveNumBits = models.numBits := bits
    rw [partitions, subVectors, sameBits]
    exact delivered.shapes
  refine ⟨⟨name, called, parsed, dataset, chosen⟩,
    parseBuilderInput_eq_ok.mpr ⟨delivered.named, utf8, parsedOk, rfl, chosenOk⟩, {
      shapes := shapes
      ivf := ⟨rfl, rfl, rfl⟩
      pq := by rw [← subVectors, ← bits]; rfl
      usesPq := usesPq
      hnsw := fun graph => hnsw (((LanceVectorIndexType.fromC_usesPq typed).2 usesPq).mp graph)
      mode := (LanceIndexSegmentBuildMode.fromC_localTrain moded).mpr mode
      dot := fun dotMetric => (refuseDotSubset_ok selects).mpr (dot ?_) }⟩
  obtain rfl : known = .dot := dotMetric
  exact sameMetric.trans delivered.metric

/-- The builder accepts trained models in the requests that match them, and in no others. -/
theorem accepts_delivered (contract : TrainingContract library) (interchange : Interchange building)
    (delivered : Delivered models name known dim centroids codebook)
    (injects : Injects models building memory options)
    (sized : library.getVectorDim dataset.schema name = .ok dim) :
    Accepts library building memory dataset column indexName params options ↔
      Matches models dataset indexName params options := by
  obtain ⟨reached, injected⟩ := injectModels_delivered contract interchange delivered injects
  have located : ∀ {input}, parseBuilderInput (some dataset) column indexName (some params) (some options) = .ok input →
      library.getVectorDim input.dataset.schema input.column = .ok dim := by
    intro input parsed
    obtain ⟨named, _, _, rfl, _⟩ := parseBuilderInput_eq_ok.mp parsed
    rwa [Except.ok.inj (delivered.named.symm.trans named)] at sized
  rw [accepts_iff]
  constructor
  · rintro ⟨input, _, _, values, _, parsed, again, gated⟩
    have same := Unwind.returned.inj (Prod.mk.inj (injected.symm.trans again)).1
    obtain ⟨rfl, rfl⟩ := Prod.mk.inj (Except.ok.inj same)
    exact matches_of_gate delivered parsed ((gateModels_isOk contract (located parsed)).mp ⟨values, gated⟩)
  · intro request
    obtain ⟨input, parsed, passes⟩ := gate_of_matches delivered injects request
    obtain ⟨values, gated⟩ := (gateModels_isOk contract (located parsed)).mpr passes
    exact ⟨input, _, _, values, reached, parsed, injected, gated⟩

end Delivered

end Trained

section Refused

variable [Target] {library : VectorLibrary Value} {arrow : ModelCrate Value} {memory : SchemaMemory}
variable {column indexName : CString} {dataset : Dataset} {params : LanceVectorIndexSegmentParams}
variable {options : LanceIndexSegmentBuildOptions Value}

/-- What the builder has made sure of for a codebook that it accepts. -/
structure CodebookAgrees (library : VectorLibrary Value) (arrow : ModelCrate Value) (memory : SchemaMemory)
    (dataset : Dataset) (column : CString) (params : LanceVectorIndexSegmentParams)
    (options : LanceIndexSegmentBuildOptions Value) (codebook : FfiArrowArray Value) (dim : Nat)
    (ivf pq : ModelProvenance) : Prop where
  sized : ∃ name, parseColumn column = .ok name ∧ library.getVectorDim dataset.schema name = .ok dim
  centroids : options.ivfCentroids.isSome = true
  ivfRecorded : modelProvenance library.parseStr arrow.toSchemaConversion memory options.ivfCentroidsSchema
    "ivf_centroids" = .ok ivf
  pqRecorded : modelProvenance library.parseStr arrow.toSchemaConversion memory options.pqCodebookSchema
    "pq_codebook" = .ok pq
  kind : pq.kind = "pq"
  ivfId : pq.ivfId = ivf.ivfId
  metric : pq.metric = params.metric
  dimension : pq.dimension = dim
  numSubVectors : pq.numSubVectors = some params.numSubVectors
  numBits : pq.numBits = some (if params.numBits = 0 then 8 else params.numBits)
  length : codebook.length = (params.numSubVectors * 2 ^ (if params.numBits = 0 then 8 else params.numBits) : Nat)
  listSize : ∃ field,
    validateModelSchema arrow.toSchemaConversion memory options.pqCodebookSchema "pq_codebook" = .ok field ∧
    field.dataType = .fixedSizeList .float32 (dim / params.numSubVectors : Nat)

theorem gateModels_codebook_alone {input : BuilderInput} {codebook : InjectedModel Value}
    {values : Option (List (Option Value))} : gateModels library arrow input none (some codebook) ≠ .ok values := by
  intro success
  obtain ⟨_, _, success⟩ := bind_eq_ok.mp success
  obtain ⟨_, _, success⟩ := bind_eq_ok.mp success
  obtain ⟨_, provenance, _⟩ := bind_eq_ok.mp success
  obtain ⟨_, _, identified⟩ := bind_eq_ok.mp provenance
  exact refuseIf_ok.mp identified nofun

theorem codebookAgrees_of_accepts (contract : TrainingContract library) (interchange : Interchange arrow)
    {codebook : FfiArrowArray Value} (given : options.pqCodebook = some codebook)
    (accepted : Accepts library arrow memory dataset column indexName params options) :
    ∃ dim ivf pq, CodebookAgrees library arrow memory dataset column params options codebook dim ivf pq := by
  obtain ⟨input, centroids, injected, values, reached, parsed, models, gated⟩ := accepts_iff.mp accepted
  obtain ⟨first, second⟩ := injectModels_eq_ok.mp models
  dsimp only at first second
  rw [given] at second
  obtain ⟨pq, _, list, recorded, _, _, rfl⟩ := injectModel_eq_ok.mp second
  cases supplied : options.ivfCentroids with
  | none =>
    rw [supplied] at first
    obtain rfl := Except.ok.inj (Unwind.returned.inj (Prod.mk.inj (injectModel_none.symm.trans first)).1)
    exact absurd gated gateModels_codebook_alone
  | some array =>
    rw [supplied] at first
    obtain ⟨ivf, _, others, recordedIvf, _, _, rfl⟩ := injectModel_eq_ok.mp first
    obtain ⟨_, ⟨field, described, typed⟩, length⟩ := injectModel_shape interchange second
    obtain ⟨named, _, read, rfl, _⟩ := parseBuilderInput_eq_ok.mp parsed
    obtain ⟨dim, sized, _⟩ := bind_eq_ok.mp gated
    obtain ⟨shapes, _, rfl, _⟩ := (gateModels_isOk contract sized).mp ⟨values, gated⟩
    obtain ⟨_, metric, same⟩ := LanceVectorIndexSegmentParams.parse_eq_ok.mp read
    have subVectors : input.params.numSubVectors = params.numSubVectors :=
      congrArg LanceVectorIndexParams.numSubVectors same
    have bits : input.params.effectiveNumBits = if params.numBits = 0 then 8 else params.numBits :=
      congrArg LanceVectorIndexParams.effectiveNumBits same
    refine ⟨dim, ivf, _, {
      sized := ⟨_, named, sized⟩
      centroids := by rw [supplied]; rfl
      ivfRecorded := recordedIvf, pqRecorded := recorded
      kind := rfl, ivfId := rfl, metric := metric.symm, dimension := rfl
      numSubVectors := congrArg some subVectors, numBits := congrArg some bits
      length := ?_, listSize := ⟨field, described, ?_⟩ }⟩
    · rw [← length, shapes.codebookLen, subVectors, bits]
    · rw [typed, shapes.codebookSize, subVectors]

end Refused

/-- The recorded provenance is read back; of trained models the builder accepts those requests that match them,
and it accepts no codebook that disagrees with what it is asked to build. -/
theorem models_gated [Target] {library : VectorLibrary Value} {training building : ModelCrate Value}
    (contract : TrainingContract library) (exporting : Interchange training) (importing : Interchange building)
    (memory : SchemaMemory) :
    (∀ address name dataType metric dim ivfId, dim ≤ usizeMax →
      (Holds building.toSchemaConversion memory address ⟨dataType, ivfMetadata metric dim ivfId⟩ →
        modelProvenance library.parseStr building.toSchemaConversion memory (some address) name =
          .ok ⟨"ivf", metric.code, dim, ivfId, none, none⟩) ∧
      ∀ numSubVectors numBits, numSubVectors ≤ u32Max → numBits = 4 ∨ numBits = 8 →
        Holds building.toSchemaConversion memory address
          ⟨dataType, pqMetadata metric dim ivfId numSubVectors numBits⟩ →
        modelProvenance library.parseStr building.toSchemaConversion memory (some address) name =
          .ok ⟨"pq", metric.code, dim, ivfId, some numSubVectors, some numBits⟩) ∧
    (∀ column metric (models : TrainedModels library training column metric) dataset indexName params options,
      Injects models building memory options →
      (∀ name, parseColumn column = .ok name →
        library.getVectorDim dataset.schema name = library.getVectorDim models.pqSnapshot.schema name) →
      (Accepts library building memory dataset column indexName params options ↔
        Matches models dataset indexName params options)) ∧
    ∀ dataset column indexName params options codebook, options.pqCodebook = some codebook →
      Accepts library building memory dataset column indexName params options →
      ∃ dim ivf pq, CodebookAgrees library building memory dataset column params options codebook dim ivf pq := by
  refine ⟨fun address name dataType metric dim ivfId narrow => ⟨fun holds => ?_, ?_⟩, ?_, ?_⟩
  · exact modelProvenance_ivfMetadata holds (contract.identified ivfId) narrow name
  · intro numSubVectors numBits subVectors bits holds
    refine modelProvenance_pqMetadata holds (contract.identified ivfId) narrow subVectors ?_ name
    unfold u32Max
    omega
  · intro column metric models dataset indexName params options injects sameColumn
    obtain ⟨name, known, dim, centroids, codebook, delivered⟩ := models.delivered contract exporting
    exact accepts_delivered contract importing delivered injects
      ((sameColumn name delivered.named).trans delivered.sized)
  · intro dataset column indexName params options codebook given accepted
    exact codebookAgrees_of_accepts contract importing given accepted

section Sample

def sampleCentroids : FixedSizeListArray (Option Nat) := ⟨1, [#v[some 0]]⟩

def sampleLibrary : VectorLibrary Nat where
  getVectorDim _ _ := .ok 1
  getVectorType _ _ := .ok .float32
  validateDistanceTypeFor _ _ := .ok ()
  buildIvfModel _ _ _ _ _ _ := .returned (.ok (some ⟨.float32, sampleCentroids.toModelArray⟩))
  buildPqModelInFragments _ _ _ _ _ _ _ _ := .returned (.ok ⟨.float32, List.replicate 16 (some 0)⟩)
  newV4 := 7
  parseStr text :=
    match Uuid.ofText text with
    | some uuid => .ok uuid
    | none => .error "invalid character"

theorem sampleLibrary_contract : @TrainingContract _ target64 sampleLibrary := by
  let _ := target64
  refine ⟨?_, ?_, ?_, ?_⟩
  · rintro schema column dim sized
    obtain rfl := Except.ok.inj sized
    decide
  · rintro dataset column dim metric numPartitions fragments model _ built
    obtain rfl := Option.some.inj (Except.ok.inj (Unwind.returned.inj built))
    refine ⟨rfl, fun row member => ?_, by decide⟩
    obtain rfl := List.mem_singleton.mp member
    exact ⟨_, rfl, by decide⟩
  · rintro dataset column dim metric numSubVectors numBits residual fragments model _ built
    obtain rfl := Except.ok.inj (Unwind.returned.inj built)
    exact ⟨rfl, by decide, by decide⟩
  · intro uuid
    simp [sampleLibrary, Uuid.ofText_text]

/-- The schemas of the centroids and of the codebook, at the addresses 0 and 1. -/
def sampleFields (address : Nat) : ArrowField where
  dataType := .fixedSizeList .float32 1
  metadata := if address = 0 then ivfMetadata .l2 1 7 else pqMetadata .l2 1 7 1 4

def sampleCrate : ModelCrate Nat :=
  @referenceCrate target64 sampleFields

def sampleSchemas : SchemaMemory := fun address =>
  { hasRelease := true
    format := .text (if address < 2 then "+w:1" else "f")
    name := .null
    nChildren := if address < 2 then 1 else 0
    children := if address < 2 then some fun _ => some (address + 2) else none
    dictionary := none }

def sampleSnapshot : Dataset where
  uri := "memory://vectors"
  version := 1
  fragments := [⟨0, some 1, []⟩]
  schema := ⟨[]⟩
  storageFormat := .v2
  usesStableRowIds := false
  fragReuseIndex := none

def sampleCodebook : FixedSizeListArray (Option Nat) := ⟨1, List.replicate 16 #v[some 0]⟩

theorem sampleFields_held (address : Nat) (root : address < 2) :
    @Holds target64 sampleCrate.toSchemaConversion sampleSchemas address (sampleFields address) := by
  refine @Holds.mk target64 _ _ _ _ ?_ ⟨_, rfl⟩ ⟨_, rfl, rfl, fun _ => rfl⟩
  obtain rfl | rfl : address = 0 ∨ address = 1 := by omega
  · exact (@preflight_isOk target64 _ _ "").mp ⟨[2, 0], rfl⟩
  · exact (@preflight_isOk target64 _ _ "").mp ⟨[3, 1], rfl⟩

theorem samplePq_trained :
    @Trainer.trainPqModelInner _ target64 sampleLibrary sampleCrate sampleSchemas
      (some sampleSnapshot) (.text "vector") 1 4 0 none 0 (some 0) (some true) (some true)
      (some (exportModel sampleCentroids.toModelArray)) =
        (.returned (.ok ⟨exportModel sampleCodebook.toModelArray, sampleFields 1⟩),
          some (exportModel sampleCentroids.toModelArray)) := by
  let _ := target64
  have recorded : modelProvenance sampleLibrary.parseStr sampleCrate.toSchemaConversion
      sampleSchemas (some 0) "ivf_centroids" = .ok ⟨"ivf", 0, 1, 7, none, none⟩ :=
    @modelProvenance_ivfMetadata target64 _ _ _ _ .l2 1 7 _ (sampleFields_held 0 (by decide))
      (sampleLibrary_contract.identified 7) (by decide) "ivf_centroids"
  refine Body.ofExcept_bind_eq_ok.mpr ⟨(), rfl, ?_⟩
  refine Body.ofExcept_bind_eq_ok.mpr ⟨(), rfl, ?_⟩
  refine Body.ofExcept_bind_eq_ok.mpr ⟨⟨sampleSnapshot, "vector", 1, .l2, none⟩, rfl, ?_⟩
  refine Body.ofExcept_bind_eq_ok.mpr ⟨(), rfl, ?_⟩
  refine Body.ofExcept_bind_eq_ok.mpr ⟨_, recorded, ?_⟩
  refine Body.ofExcept_bind_eq_ok.mpr ⟨(), rfl, ?_⟩
  refine Body.bind_eq_ok.mpr ⟨sampleCentroids.toModelArray, _, rfl, ?_⟩
  refine Body.ofExcept_bind_eq_ok.mpr ⟨sampleCentroids, rfl, ?_⟩
  refine Body.ofExcept_bind_eq_ok.mpr ⟨(), rfl, ?_⟩
  refine Body.ofUnwind_bind_eq_ok.mpr ⟨_, rfl, ?_⟩
  exact Body.ofExcept_bind_eq_ok.mpr ⟨sampleCodebook, rfl, rfl⟩

def sampleModels : @TrainedModels _ target64 sampleLibrary sampleCrate (.text "vector") 0 :=
  letI := target64
  { numPartitions := 1, numSubVectors := 1, numBits := 4
    ivfSnapshot := sampleSnapshot, ivfFragmentIds := none, ivfFragmentCount := 0
    pqSnapshot := sampleSnapshot, pqFragmentIds := none, pqFragmentCount := 0
    memory := sampleSchemas, address := 0
    ivf := ⟨exportModel sampleCentroids.toModelArray, sampleFields 0⟩
    pq := ⟨exportModel sampleCodebook.toModelArray, sampleFields 1⟩
    centroids := exportModel sampleCentroids.toModelArray
    narrow := by decide
    ivfTrained := rfl
    held := sampleFields_held 0 (by decide)
    pqTrained := samplePq_trained }

/-- An IVF-HNSW-PQ index over the one fragment, in mode PRECOMPUTED. -/
def sampleOptions : LanceIndexSegmentBuildOptions Nat where
  fragmentIds := some fun _ => 0
  fragmentCount := 1
  indexUuid := none
  ivfCentroids := some (exportModel sampleCentroids.toModelArray)
  ivfCentroidsSchema := some 0
  pqCodebook := some (exportModel sampleCodebook.toModelArray)
  pqCodebookSchema := some 1
  mode := 2

theorem models_gated_sample :
    letI := target64
    let params : LanceVectorIndexSegmentParams := ⟨105, 0, 1, 1, 4, 0, 16, 0, 0⟩
    let crate := sampleCrate
    Accepts sampleLibrary crate sampleSchemas sampleSnapshot (.text "vector") .null params sampleOptions ∧
      ∃ dim ivf pq, CodebookAgrees sampleLibrary crate sampleSchemas sampleSnapshot (.text "vector") params
        sampleOptions sampleModels.pq.array dim ivf pq := by
  let _ := target64
  have interchange : Interchange sampleCrate := referenceCrate_interchange sampleFields
  obtain ⟨_, trained, agrees⟩ := models_gated sampleLibrary_contract interchange interchange sampleSchemas
  have injects : Injects sampleModels sampleCrate sampleSchemas sampleOptions :=
    ⟨rfl, ⟨0, rfl, sampleFields_held 0 (by decide)⟩, rfl, ⟨1, rfl, sampleFields_held 1 (by decide)⟩⟩
  have accepted := (trained _ _ sampleModels sampleSnapshot .null ⟨105, 0, 1, 1, 4, 0, 16, 0, 0⟩ sampleOptions injects
    (fun _ _ => rfl)).mpr {
      indexType := .inr rfl, mode := .inr rfl, metric := rfl, numPartitions := rfl, numSubVectors := rfl
      numBits := rfl, hnsw := by decide, indexName := rfl, dot := nofun
      fragments := ⟨by decide, by decide, fun id member => ⟨_, List.mem_cons_self, by
        simpa [U32Pointer.slice, sampleOptions, eq_comm] using member⟩⟩ }
  exact ⟨accepted, agrees _ _ _ _ _ _ rfl accepted⟩

end Sample

end LanceC.Index
