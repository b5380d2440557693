import LanceC.Index.ModelInterchange

/-! What the two trainers leave with the caller. -/

namespace LanceC.Index

open Ffi Logic Machine

variable {Value : Type}

/-- What is known of Lance and of the uuid crate: a vector column's dimension is an `i32`, a model of a `Float32`
column is one of `Float32` without NULLs, and a printed id is read back. -/
structure TrainingContract [Target] (library : VectorLibrary Value) : Prop where
  dimension : ∀ schema column dim, library.getVectorDim schema column = .ok dim → dim ≤ i32Max
  centroids : ∀ dataset column dim metric numPartitions fragments model,
    library.getVectorType dataset.schema column = .ok .float32 →
    library.buildIvfModel dataset column dim metric numPartitions fragments = .returned (.ok (some model)) →
    model.elementType = .float32 ∧ (∀ row ∈ model.array.rows, ∃ values, row = some values ∧ none ∉ values) ∧
      model.array.rows.length * model.array.listSize ≤ usizeMax
  codebook : ∀ dataset column dim metric numSubVectors numBits residual fragments model,
    library.getVectorType dataset.schema column = .ok .float32 →
    library.buildPqModelInFragments dataset column dim metric numSubVectors numBits residual fragments =
      .returned (.ok model) →
    model.elementType = .float32 ∧ none ∉ model.values ∧ model.values.length ≤ usizeMax
  identified : ∀ uuid : Uuid, library.parseStr uuid.text = .ok uuid

/-- Centroids and a codebook as the two trainers left them with the caller: the centroids' slot is the one that the
second training borrowed from, while their schema was at `address`. -/
structure TrainedModels [Target] (library : VectorLibrary Value) (arrow : ModelCrate Value) (column : CString)
    (metric : Int) where
  numPartitions : Nat
  numSubVectors : Nat
  numBits : Nat
  ivfSnapshot : Dataset
  ivfFragmentIds : Option U32Pointer
  ivfFragmentCount : Nat
  pqSnapshot : Dataset
  pqFragmentIds : Option U32Pointer
  pqFragmentCount : Nat
  memory : SchemaMemory
  address : Nat
  ivf : ExportedModel Value
  pq : ExportedModel Value
  centroids : FfiArrowArray Value
  narrow : numSubVectors ≤ u32Max
  ivfTrained : Trainer.trainIvfModelInner library arrow (some ivfSnapshot) column numPartitions metric ivfFragmentIds
    ivfFragmentCount (some true) (some true) () = (.returned (.ok ivf), ())
  held : Holds arrow.toSchemaConversion memory address ivf.field
  pqTrained : Trainer.trainPqModelInner library arrow memory (some pqSnapshot) column numSubVectors numBits metric
    pqFragmentIds pqFragmentCount (some address) (some true) (some true) (some ivf.array) =
      (.returned (.ok pq), some centroids)

section Training

variable [Target] {library : VectorLibrary Value} {arrow : ModelCrate Value} {dataset : Dataset} {column : CString}
variable {metric : Int} {fragmentIds : Option U32Pointer} {fragmentCount : Nat}

theorem parseCommon_eq_ok {debug : DataType → String} {input : CommonTrainerInput}
    (success : parseCommon library debug (some dataset) column metric fragmentIds fragmentCount (some true)
      (some true) = .ok input) :
    input.dataset = dataset ∧ parseColumn column = .ok input.column ∧ metric = input.metric.code ∧
      library.getVectorDim dataset.schema input.column = .ok input.dim ∧
      library.getVectorType dataset.schema input.column = .ok .float32 := by
  obtain ⟨_, _, success⟩ := bind_eq_ok.mp success
  obtain ⟨_, _, success⟩ := bind_eq_ok.mp success
  obtain ⟨known, metric, success⟩ := bind_eq_ok.mp success
  obtain ⟨name, named, success⟩ := bind_eq_ok.mp success
  obtain ⟨dim, sized, success⟩ := bind_eq_ok.mp success
  obtain ⟨elementType, typed, success⟩ := bind_eq_ok.mp success
  obtain ⟨_, float, success⟩ := bind_eq_ok.mp success
  obtain ⟨_, _, success⟩ := bind_eq_ok.mp success
  obtain ⟨_, _, success⟩ := bind_eq_ok.mp success
  obtain rfl := Except.ok.inj success
  obtain rfl := Classical.not_not.mp (refuseIf_ok.mp float)
  exact ⟨rfl, named, LanceMetricType.fromC_eq_ok.mp metric, sized, typed⟩

omit [Target] in
theorem exportModel_eq_ok {elementType : DataType} {model : ModelArray Value} {metadata : List (String × String)}
    {exported : ExportedModel Value} (success : Trainer.exportModel arrow elementType model metadata = .ok exported) :
    arrow.toFfi model = .ok exported.array ∧
      exported.field = ⟨.fixedSizeList elementType model.listSize, metadata⟩ := by
  obtain ⟨array, written, success⟩ := bind_eq_ok.mp success
  obtain ⟨_, _, success⟩ := bind_eq_ok.mp success
  obtain rfl := Except.ok.inj success
  exact ⟨written, rfl⟩

/-- A successful training of centroids. -/
theorem trainIvfModelInner_eq_ok {σ : Type} {state reached : σ} {numPartitions : Nat}
    {exported : ExportedModel Value}
    (success : Trainer.trainIvfModelInner library arrow (some dataset) column numPartitions metric fragmentIds
      fragmentCount (some true) (some true) state = (.returned (.ok exported), reached)) :
    ∃ input model,
      parseCommon library arrow.debug (some dataset) column metric fragmentIds fragmentCount (some true) (some true) =
        .ok input ∧
      library.buildIvfModel input.dataset input.column input.dim input.metric.toDistance numPartitions
        input.fragments = .returned (.ok (some model)) ∧
      numPartitions ≠ 0 ∧ model.array.rows.length = numPartitions ∧
      (model.array.listSize : Int) = asI32 input.dim ∧
      Trainer.exportModel arrow model.elementType model.array (ivfMetadata input.metric input.dim library.newV4) =
        .ok exported := by
  obtain ⟨_, positive, success⟩ := Body.ofExcept_bind_eq_ok.mp success
  obtain ⟨input, accepted, success⟩ := Body.ofExcept_bind_eq_ok.mp success
  obtain ⟨trained, built, success⟩ := Body.ofUnwind_bind_eq_ok.mp success
  cases trained with
  | none => cases (Body.ofExcept_eq_ok.mp success).1
  | some model =>
    obtain ⟨_, shape, success⟩ := Body.ofExcept_bind_eq_ok.mp success
    have shape := refuseIf_ok.mp shape
    simp only [not_or, Classical.not_not] at shape
    exact ⟨input, model, accepted, built, refuseIf_ok.mp positive, shape.1, shape.2,
      (Body.ofExcept_eq_ok.mp success).1⟩

/-- A successful training of a codebook, which leaves in the slot what the borrow of the centroids does. -/
theorem trainPqModelInner_eq_ok {memory : SchemaMemory} {slot reached : Option (FfiArrowArray Value)}
    {numSubVectors numBits : Nat} {schema : Option Nat} {exported : ExportedModel Value}
    (success : Trainer.trainPqModelInner library arrow memory (some dataset) column numSubVectors numBits metric
      fragmentIds fragmentCount schema (some true) (some true) slot = (.returned (.ok exported), reached)) :
    ∃ input provenance model centroids trained codebook,
      parseCommon library arrow.debug (some dataset) column metric fragmentIds fragmentCount (some true) (some true) =
        .ok input ∧
      (numSubVectors ≠ 0 ∧ input.dim % numSubVectors = 0 ∧ (numBits = 4 ∨ numBits = 8)) ∧
      modelProvenance library.parseStr arrow.toSchemaConversion memory schema "ivf_centroids" = .ok provenance ∧
      (provenance.metric = input.metric.code ∧ provenance.dimension = input.dim) ∧
      borrowModelArray arrow.toArrowCrate memory slot schema "ivf_centroids" = (.returned (.ok model), reached) ∧
      fixedSizeListModel arrow model "ivf_centroids" = .ok centroids ∧
      library.buildPqModelInFragments input.dataset input.column input.dim input.metric.toDistance numSubVectors
        numBits (Trainer.ivfResidual input.metric centroids) input.fragments = .returned (.ok trained) ∧
      Trainer.makeCodebook arrow input.dim numSubVectors numBits trained.values = .ok codebook ∧
      Trainer.exportModel arrow trained.elementType codebook.toModelArray
        (pqMetadata input.metric input.dim provenance.ivfId numSubVectors numBits) = .ok exported := by
  obtain ⟨_, positive, success⟩ := Body.ofExcept_bind_eq_ok.mp success
  obtain ⟨_, bits, success⟩ := Body.ofExcept_bind_eq_ok.mp success
  obtain ⟨input, accepted, success⟩ := Body.ofExcept_bind_eq_ok.mp success
  obtain ⟨_, divides, success⟩ := Body.ofExcept_bind_eq_ok.mp success
  obtain ⟨provenance, recorded, success⟩ := Body.ofExcept_bind_eq_ok.mp success
  obtain ⟨_, agrees, success⟩ := Body.ofExcept_bind_eq_ok.mp success
  obtain ⟨model, slot', borrowed, success⟩ := Body.bind_eq_ok.mp success
  obtain ⟨centroids, whole, success⟩ := Body.ofExcept_bind_eq_ok.mp success
  obtain ⟨_, _, success⟩ := Body.ofExcept_bind_eq_ok.mp success
  obtain ⟨trained, built, success⟩ := Body.ofUnwind_bind_eq_ok.mp success
  obtain ⟨codebook, made, success⟩ := Body.ofExcept_bind_eq_ok.mp success
  obtain ⟨written, rfl⟩ := Body.ofExcept_eq_ok.mp success
  have agrees := refuseIf_ok.mp agrees
  simp only [not_or, Classical.not_not] at agrees
  refine ⟨input, provenance, model, centroids, trained, codebook, accepted,
    ⟨refuseIf_ok.mp positive, Classical.not_not.mp (refuseIf_ok.mp divides), ?_⟩, recorded, agrees.2, borrowed, whole,
    built, made, written⟩
  have known := refuseIf_ok.mp bits
  omega

/-- A codebook that is made is a row for each codeword of each sub-vector. -/
theorem makeCodebook_eq_ok (interchange : Interchange arrow) {dim numSubVectors numBits : Nat}
    {values : List (Option Value)} {codebook : FixedSizeListArray (Option Value)}
    (success : Trainer.makeCodebook arrow dim numSubVectors numBits values = .ok codebook) :
    (codebook.valueLength : Int) = asI32 (dim / numSubVectors) ∧ codebook.values <+: values ∧
      codebook.len = numSubVectors * 2 ^ numBits ∧ numSubVectors * 2 ^ numBits ≤ usizeMax := by
  rw [Trainer.makeCodebook] at success
  cases tried : arrow.tryNew (asI32 (dim / numSubVectors)) values with
  | error error =>
    rw [tried] at success
    cases success
  | ok made =>
    obtain ⟨size, inside⟩ := interchange.made _ _ _ tried
    rw [tried] at success
    obtain ⟨given, same, success⟩ := bind_eq_ok.mp success
    obtain rfl := Except.ok.inj same
    dsimp only at success
    split at success
    · rename_i codewords shifted
      split at success
      · rename_i expectedLen multiplied
        obtain ⟨_, length, success⟩ := bind_eq_ok.mp success
        obtain rfl := Except.ok.inj success
        obtain ⟨rfl, fits⟩ := checkedMul_eq_some.mp multiplied
        obtain ⟨_, rfl⟩ := checkedShlOne_eq_some.mp shifted
        exact ⟨size, inside, Classical.not_not.mp (refuseIf_ok.mp length), fits⟩
      · cases success
    · cases success

end Training

/-- Centroids and a codebook of the shapes that these numbers ask for. -/
structure ModelShapes [Target] (dim numPartitions numSubVectors numBits : Nat)
    (centroids codebook : FixedSizeListArray (Option Value)) : Prop where
  partitions : numPartitions ≠ 0
  centroidsSize : centroids.valueLength = dim
  centroidsLen : centroids.len = numPartitions
  subVectors : numSubVectors ≠ 0
  divides : dim % numSubVectors = 0
  bits : numBits = 4 ∨ numBits = 8
  codebookSize : codebook.valueLength = dim / numSubVectors
  codebookLen : codebook.len = numSubVectors * 2 ^ numBits
  fits : numSubVectors * 2 ^ numBits ≤ usizeMax

theorem ModelShapes.codebook_positive [Target] {dim numPartitions numSubVectors numBits : Nat}
    {centroids codebook : FixedSizeListArray (Option Value)}
    (shapes : ModelShapes dim numPartitions numSubVectors numBits centroids codebook) (positive : 0 < dim) :
    0 < codebook.valueLength := by
  have divides := Nat.dvd_of_mod_eq_zero shapes.divides
  rw [shapes.codebookSize]
  exact Nat.div_pos (Nat.le_of_dvd positive divides) (Nat.pos_of_ne_zero shapes.subVectors)

section Delivery

variable [Target] {library : VectorLibrary Value} {arrow : ModelCrate Value} {column : CString} {metric : Int}

/-- What the caller holds of two trainings. -/
structure Delivered (models : TrainedModels library arrow column metric) (name : String) (known : LanceMetricType)
    (dim : Nat) (centroids codebook : FixedSizeListArray (Option Value)) : Prop where
  named : parseColumn column = .ok name
  metric : metric = known.code
  sized : library.getVectorDim models.pqSnapshot.schema name = .ok dim
  positive : 0 < dim
  shapes : ModelShapes dim models.numPartitions models.numSubVectors models.numBits centroids codebook
  free : centroids.NullFree ∧ codebook.NullFree
  ivfField : models.ivf.field =
    ⟨.fixedSizeList .float32 (centroids.valueLength : Nat), ivfMetadata known dim library.newV4⟩
  pqField : models.pq.field = ⟨.fixedSizeList .float32 (codebook.valueLength : Nat),
    pqMetadata known dim library.newV4 models.numSubVectors models.numBits⟩
  ivfCarried : Carries models.centroids centroids.valueLength (centroids.rows.map fun row => some row.toList)
  pqCarried : Carries models.pq.array codebook.valueLength (codebook.rows.map fun row => some row.toList)

theorem i32Max_le_usizeMax : i32Max ≤ usizeMax := Nat.le_trans (by decide) u32Max_le_usizeMax

/-- The centroids as the first training leaves them. -/
theorem TrainedModels.centroids_exported (contract : TrainingContract library) (interchange : Interchange arrow)
    (models : TrainedModels library arrow column metric) :
    ∃ name known dim, ∃ centroids : FixedSizeListArray (Option Value), parseColumn column = .ok name ∧
      metric = known.code ∧ dim ≤ i32Max ∧ centroids.valueLength = dim ∧ models.numPartitions ≠ 0 ∧
      centroids.len = models.numPartitions ∧ centroids.NullFree ∧
      models.ivf.field =
        ⟨.fixedSizeList .float32 (centroids.valueLength : Nat), ivfMetadata known dim library.newV4⟩ ∧
      (0 < centroids.valueLength →
        Carries models.ivf.array centroids.valueLength (centroids.rows.map fun row => some row.toList)) := by
  obtain ⟨input, model, common, built, partitions, length, size, exported⟩ :=
    trainIvfModelInner_eq_ok models.ivfTrained
  obtain ⟨same, named, metric, sized, typed⟩ := parseCommon_eq_ok common
  have narrow := contract.dimension _ _ _ sized
  rw [asI32_eq narrow, Int.natCast_inj] at size
  rw [← same] at typed
  obtain ⟨float, present, fits⟩ := contract.centroids _ _ _ _ _ _ _ typed built
  obtain ⟨written, field⟩ := exportModel_eq_ok exported
  obtain ⟨vectors, rows⟩ := exists_list_of_rows model.array.rows
    (fun row member missing => by
      obtain ⟨values, given, _⟩ := present row member
      rw [missing] at given
      cases given) model.array.whole
  refine ⟨input.column, input.metric, input.dim, ⟨model.array.listSize, vectors⟩, named, metric, narrow, size,
    partitions, ?_, ?_, ?_, fun positive =>
    rows ▸ interchange.exported model.array _ written positive (size ▸ Nat.le_trans narrow i32Max_le_usizeMax) fits⟩
  · rw [← length, rows, List.length_map]
    rfl
  · intro row member missing
    obtain ⟨values, given, free⟩ := present (some row.toList) (rows ▸ List.mem_map_of_mem member)
    exact free (Option.some.inj given ▸ missing)
  · rw [field, float]

theorem TrainedModels.delivered (contract : TrainingContract library) (interchange : Interchange arrow)
    (models : TrainedModels library arrow column metric) :
    ∃ name known dim centroids codebook, Delivered models name known dim centroids codebook := by
  obtain ⟨name, known, dim, centroids, named, metric, narrow, size, partitions, length, free, ivfField, ivfCarried⟩ :=
    models.centroids_exported contract interchange
  obtain ⟨input, provenance, model, borrowedCentroids, trained, codebook, common, ⟨subVectors, divides, bits⟩, recorded,
    ⟨sameMetric, sameDim⟩, borrowed, _, built, made, exported⟩ := trainPqModelInner_eq_ok models.pqTrained
  obtain ⟨same, named', metric', sized, typed⟩ := parseCommon_eq_ok common
  obtain rfl := Except.ok.inj (named.symm.trans named')
  have held := models.held
  rw [ivfField] at held
  have identified := contract.identified library.newV4
  rw [modelProvenance_ivfMetadata held identified (Nat.le_trans narrow i32Max_le_usizeMax) "ivf_centroids"] at recorded
  obtain rfl := Except.ok.inj recorded
  obtain rfl : dim = input.dim := sameDim
  obtain rfl : known = input.metric := LanceMetricType.code_injective (Int.natCast_inj.mp sameMetric)
  -- The borrow has checked that the list size is positive.
  have positive : 0 < centroids.valueLength := by
    obtain ⟨_, field, _, described, borrowedType, positive, _⟩ := borrowModelArray_eq_ok interchange borrowed
    obtain ⟨read, passed, _, sameType, _⟩ := held.validate "ivf_centroids"
    obtain rfl := Except.ok.inj (described.symm.trans passed)
    injection borrowedType.symm.trans sameType with _ sameSize
    rwa [Int.natCast_inj.mp sameSize] at positive
  obtain ⟨_, replacement, again, _, _, carried⟩ :=
    borrowModelArray_carried interchange held rfl positive (ivfCarried positive) "ivf_centroids"
  obtain rfl := Option.some.inj (Prod.mk.inj (borrowed.symm.trans again)).2
  obtain ⟨codeSize, inside, codeLength, fits⟩ := makeCodebook_eq_ok interchange made
  rw [asI32_eq (Nat.le_trans (Nat.div_le_self _ _) narrow), Int.natCast_inj] at codeSize
  rw [← same] at typed
  obtain ⟨float, present, bounded⟩ := contract.codebook _ _ _ _ _ _ _ _ _ typed built
  obtain ⟨written, pqField⟩ := exportModel_eq_ok exported
  have codeFree : codebook.NullFree := fun row member missing =>
    present (inside.subset (List.mem_flatMap.mpr ⟨row, member, missing⟩))
  have shapes : ModelShapes input.dim models.numPartitions models.numSubVectors models.numBits centroids codebook :=
    ⟨partitions, size, length, subVectors, divides, bits, codeSize, codeLength, fits⟩
  have codeNarrow : codebook.valueLength ≤ usizeMax :=
    codeSize ▸ Nat.le_trans (Nat.div_le_self _ _) (Nat.le_trans narrow i32Max_le_usizeMax)
  have pqCarried := interchange.exported codebook.toModelArray _ written (shapes.codebook_positive (size ▸ positive))
    codeNarrow (by
    have within := Nat.le_trans inside.length_le bounded
    rw [FixedSizeListArray.length_values] at within
    simpa [FixedSizeListArray.toModelArray, FixedSizeListArray.len] using within)
  exact ⟨input.column, _, _, centroids, codebook, {
    named := named', metric := metric, sized := sized, positive := size ▸ positive
    shapes := shapes
    free := ⟨free, codeFree⟩, ivfField := ivfField, pqField := by rw [pqField, float]; rfl
    ivfCarried := carried, pqCarried := pqCarried }⟩

end Delivery

end LanceC.Index
