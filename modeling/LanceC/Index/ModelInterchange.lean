import LanceC.Index.ModelCoverage
import LanceC.Index.ModelTrainer
import LanceC.Index.SchemaGraph

/-! What survives of a model on its way through the C structs: an exported array is borrowed
with the same rows, and its schema is read with the same metadata. -/

namespace LanceC.Index

open Logic Machine

variable {Value : Type}

/-- The struct at an address is what a caller holds of an exported field. -/
structure Holds [Target] (arrow : SchemaConversion) (memory : SchemaMemory) (address : Nat) (field : ArrowField) :
    Prop where
  wellFormed : WellFormedSchema memory (some address)
  typed : ∃ dataType, arrow.dataType address = .ok dataType
  recorded : ∃ read, arrow.field address = .ok read ∧ read.dataType = field.dataType ∧
    ∀ key, read.metadata.lookup key = field.metadata.lookup key

/-- The struct passes the checks, its child covers it from within its buffers, and these are its rows. -/
structure Carries [Target] (array : FfiArrowArray Value) (listSize : Nat)
    (rows : List (Option (List (Option Value)))) :
    Prop where
  valid : ∀ name, validateArray array listSize name = .ok ()
  covered : ∃ child, array.firstChild = some child ∧ array.InBuffers child ∧
    array.requiredElements listSize ≤ child.length.toNat
  rows : array.rows listSize = rows

def FixedSizeListArray.NullFree (array : FixedSizeListArray (Option Value)) : Prop :=
  ∀ row ∈ array.rows, none ∉ row.toList

def FixedSizeListArray.values (array : FixedSizeListArray (Option Value)) : List (Option Value) :=
  array.rows.flatMap Vector.toList

/-- What is known of arrow-rs: besides its import and its export, a list array over the values of
another one, end to end, is that one again, and holds no values but the given ones. -/
structure Interchange [Target] (arrow : ModelCrate Value) : Prop where
  borrowed : ∀ address field listSize, arrow.field address = .ok field →
    field.dataType = .fixedSizeList .float32 (listSize : Nat) → ArrowContract arrow.toArrowCrate address listSize
  exported : ∀ model array, arrow.toFfi model = .ok array → 0 < model.listSize →
    model.listSize ≤ usizeMax → model.rows.length * model.listSize ≤ usizeMax →
    Carries array model.listSize model.rows
  rebuilt : ∀ array : FixedSizeListArray (Option Value), array.NullFree → 0 < array.valueLength →
    arrow.tryNew array.valueLength array.values = .ok array
  made : ∀ size values array, arrow.tryNew size values = .ok array →
    (array.valueLength : Int) = size ∧ array.values <+: values

section Schemas

variable [Target] {arrow : SchemaConversion} {memory : SchemaMemory} {address : Nat} {field : ArrowField}

theorem Holds.validate (holds : Holds arrow memory address field) (name : String) :
    ∃ read, validateModelSchema arrow memory (some address) name = .ok read ∧ arrow.field address = .ok read ∧
      read.dataType = field.dataType ∧ ∀ key, read.metadata.lookup key = field.metadata.lookup key := by
  obtain ⟨wellFormed, ⟨dataType, typed⟩, read, recorded, sameType, sameMetadata⟩ := holds
  obtain ⟨visited, passed⟩ := (@preflight_isOk _ memory (some address) s!"{name}_schema").mpr wellFormed
  refine ⟨read, ?_, recorded, sameType, sameMetadata⟩
  rw [validateModelSchema, passed]
  simp only [Option.getD_some, bind, Except.bind, typed, recorded]

theorem validateModelSchema_field {schema : Option Nat} {name : String} {read : ArrowField}
    (passed : validateModelSchema arrow memory schema name = .ok read) :
    arrow.field (schema.getD 0) = .ok read := by
  obtain ⟨_, _, passed⟩ := bind_eq_ok.mp passed
  dsimp only at passed
  cases typed : arrow.dataType (schema.getD 0) with
  | error error =>
    rw [typed] at passed
    cases passed
  | ok dataType =>
    rw [typed] at passed
    cases found : arrow.field (schema.getD 0) with
    | error error =>
      rw [found] at passed
      cases passed
    | ok field =>
      rw [found] at passed
      change Except.ok field = Except.ok read at passed
      rw [Except.ok.inj passed]

variable {parseStr : String → Except String Uuid} {metric : LanceMetricType}
variable {dim numSubVectors numBits : Nat} {ivfId : Uuid} {dataType : DataType}

theorem modelProvenance_ivfMetadata (holds : Holds arrow memory address ⟨dataType, ivfMetadata metric dim ivfId⟩)
    (identified : parseStr ivfId.text = .ok ivfId) (narrow : dim ≤ usizeMax) (name : String) :
    modelProvenance parseStr arrow memory (some address) name =
      .ok ⟨"ivf", metric.code, dim, ivfId, none, none⟩ := by
  obtain ⟨read, passed, _, _, same⟩ := holds.validate name
  exact bind_eq_ok.mpr ⟨read, passed, fieldProvenance_ivfMetadata identified narrow same⟩

theorem modelProvenance_pqMetadata
    (holds : Holds arrow memory address ⟨dataType, pqMetadata metric dim ivfId numSubVectors numBits⟩)
    (identified : parseStr ivfId.text = .ok ivfId) (narrow : dim ≤ usizeMax) (subVectors : numSubVectors ≤ u32Max)
    (bits : numBits ≤ u32Max) (name : String) :
    modelProvenance parseStr arrow memory (some address) name =
      .ok ⟨"pq", metric.code, dim, ivfId, some numSubVectors, some numBits⟩ := by
  obtain ⟨read, passed, _, _, same⟩ := holds.validate name
  exact bind_eq_ok.mpr ⟨read, passed, fieldProvenance_pqMetadata identified narrow subVectors bits same⟩

end Schemas

section Arrays

variable [Target] {arrow : ModelCrate Value} {memory : SchemaMemory} {name : String} {listSize : Nat}
variable {rows : List (Option (List (Option Value)))} {array : FfiArrowArray Value}

/-- The rows of a struct that passes the checks fit into memory. -/
theorem Carries.fits (carries : Carries array listSize rows) : rows.length * listSize ≤ usizeMax := by
  obtain ⟨child, first, _⟩ := carries.covered
  have bounded := (validateCoverage_ok (validateArray_ok (carries.valid "") first)).2.2.2.2.1
  rw [← carries.rows, FfiArrowArray.length_rows first]
  exact Nat.le_trans (Nat.mul_le_mul_right listSize (Nat.le_add_left _ _)) bounded

theorem Carries.narrow (carries : Carries array listSize rows) : listSize ≤ usizeMax := by
  obtain ⟨child, first, _⟩ := carries.covered
  have passed := validateArray_ok (carries.valid "") first
  obtain ⟨_, _, passed⟩ := bind_eq_ok.mp passed
  obtain ⟨_, _, passed⟩ := bind_eq_ok.mp passed
  obtain ⟨size, sized, _⟩ := bind_eq_ok.mp passed
  obtain ⟨same, narrow⟩ := fitUsize_ok.mp sized
  rwa [← Int.natCast_inj.mp same] at narrow

/-- An exported array is borrowed with its rows, and so is what the borrow leaves in the slot. -/
theorem borrowModelArray_carried (interchange : Interchange arrow) {address : Nat} {field : ArrowField}
    (holds : Holds arrow.toSchemaConversion memory address field)
    (typed : field.dataType = .fixedSizeList .float32 (listSize : Nat)) (positive : 0 < listSize)
    (carries : Carries array listSize rows) (name : String) :
    ∃ model replacement,
      borrowModelArray arrow.toArrowCrate memory (some array) (some address) name =
        (.returned (.ok model), some replacement) ∧
      model.listSize = listSize ∧ model.rows = rows ∧ Carries replacement listSize rows := by
  obtain ⟨read, passed, recorded, sameType, _⟩ := holds.validate name
  obtain ⟨child, first, inside, covered⟩ := carries.covered
  have contract := interchange.borrowed address read listSize recorded (sameType.trans typed)
  have checked : checkModelArray arrow.toArrowCrate memory (some array) (some address) name =
      .ok (array, listSize) := by
    simp only [checkModelArray, passed, bind, Except.bind, sameType.trans typed]
    rw [refuseIf, if_neg (by simpa using Nat.ne_of_gt positive)]
    simp only [carries.valid]
    rfl
  obtain ⟨model, replacement, borrowed, size, same, written⟩ :=
    borrowModelArray_exact contract checked first inside covered
  refine ⟨model, replacement, borrowed, size, same.trans carries.rows, ?_⟩
  have kept := interchange.exported model replacement written (size ▸ positive) (size ▸ carries.narrow) (by
    rw [size, same, carries.rows]
    exact carries.fits)
  rwa [size, same, carries.rows] at kept

/-- What a borrow that returns has seen of the struct and its schema. -/
theorem borrowModelArray_eq_ok (interchange : Interchange arrow) {slot reached : Option (FfiArrowArray Value)}
    {schema : Option Nat} {model : ModelArray Value}
    (success : borrowModelArray arrow.toArrowCrate memory slot schema name = (.returned (.ok model), reached)) :
    ∃ owned field, slot = some owned ∧
      validateModelSchema arrow.toSchemaConversion memory schema name = .ok field ∧
      field.dataType = .fixedSizeList .float32 (model.listSize : Nat) ∧ 0 < model.listSize ∧
      (model.rows.length : Int) = owned.length := by
  cases passed : checkModelArray arrow.toArrowCrate memory slot schema name with
  | error error =>
    rw [borrowModelArray, passed] at success
    cases success
  | ok checked =>
    obtain ⟨owned, size⟩ := checked
    obtain ⟨rfl, valid, field, described, typed, positive⟩ := checkModelArray_ok passed
    obtain ⟨child, first⟩ := validateArray_firstChild valid
    have contract := interchange.borrowed _ field size (validateModelSchema_field described) typed
    have nonneg := (validateCoverage_ok (validateArray_ok valid first)).2.1
    obtain ⟨data, read, made⟩ := borrowModelArray_imported passed success
    obtain ⟨rfl, rows⟩ := contract.shaped owned name data model valid read made
    exact ⟨owned, field, rfl, described, typed, positive, rows ▸ Int.toNat_of_nonneg nonneg⟩

omit [Target] in
theorem FixedSizeListArray.length_values (list : FixedSizeListArray (Option Value)) :
    list.values.length = list.len * list.valueLength := by
  simp [FixedSizeListArray.values, FixedSizeListArray.len, List.length_flatMap]

omit [Target] in
/-- Rows without NULLs are those of a list array. -/
theorem exists_list_of_rows {size : Nat} (rows : List (Option (List (Option Value))))
    (present : ∀ row ∈ rows, row ≠ none) (whole : ∀ row ∈ rows, ∀ values, row = some values → values.length = size) :
    ∃ vectors : List (Vector (Option Value) size), rows = vectors.map fun row => some row.toList := by
  refine ⟨rows.pmap (fun row given => ⟨((row.getD []).toArray), given⟩) fun row member => ?_, ?_⟩
  · cases row with
    | none => exact absurd rfl (present _ member)
    | some values => simpa using whole _ member values rfl
  · rw [List.map_pmap]
    refine (List.ext_getElem (by simp) fun index _ _ => ?_)
    cases found : rows[index] with
    | none => exact absurd found (present _ (List.getElem_mem _))
    | some values => simp [found]

omit [Target] in
theorem values_eq {model : ModelArray Value} {list : FixedSizeListArray (Option Value)}
    (same : model.rows = list.rows.map fun row => some row.toList) :
    (model.rows.flatMap fun row => row.getD []) = list.values := by
  rw [same, List.flatMap_map, FixedSizeListArray.values]
  rfl

omit [Target] in
theorem nullFree_iff {list : FixedSizeListArray (Option Value)} :
    list.NullFree ↔ list.values.countP Option.isNone = 0 := by
  simp only [FixedSizeListArray.NullFree, FixedSizeListArray.values, List.countP_eq_zero, List.mem_flatMap]
  constructor
  · rintro free value ⟨row, member, inside⟩ missing
    exact free row member (Option.isNone_iff_eq_none.mp missing ▸ inside)
  · intro present row member inside
    exact present none ⟨row, member, inside⟩ rfl

/-- A borrowed model is a list array exactly where it has no NULLs at either level and fits into memory. -/
theorem fixedSizeListModel_eq_ok (interchange : Interchange arrow) {model : ModelArray Value}
    {list : FixedSizeListArray (Option Value)} (positive : 0 < model.listSize)
    (name : String) :
    fixedSizeListModel arrow model name = .ok list ↔
      (list.valueLength = model.listSize ∧ model.rows = list.rows.map fun row => some row.toList) ∧
        list.NullFree ∧ model.rows.length * model.listSize ≤ usizeMax := by
  constructor
  · intro success
    obtain ⟨_, lists, success⟩ := bind_eq_ok.mp success
    have present := Classical.not_not.mp (refuseIf_ok.mp lists)
    split at success
    · rename_i product multiplied
      obtain ⟨rfl, fits⟩ := checkedMul_eq_some.mp multiplied
      obtain ⟨_, elements, success⟩ := bind_eq_ok.mp success
      have free := Classical.not_not.mp (refuseIf_ok.mp elements)
      obtain ⟨vectors, same⟩ := exists_list_of_rows model.rows
        (fun row member missing => List.countP_eq_zero.mp present row member (missing ▸ rfl)) model.whole
      have rebuilt := interchange.rebuilt ⟨model.listSize, vectors⟩
      rw [← values_eq same] at rebuilt
      rw [@values_eq _ model ⟨model.listSize, vectors⟩ same, ← nullFree_iff] at free
      rw [rebuilt free positive] at success
      obtain rfl := Except.ok.inj success
      exact ⟨⟨rfl, same⟩, free, fits⟩
    · cases success
  · rintro ⟨⟨size, same⟩, free, fits⟩
    have present : model.rows.countP Option.isNone = 0 := by
      rw [same, List.countP_eq_zero]
      simp
    have product := checkedMul_eq_some.mpr ⟨rfl, fits⟩
    have rebuilt := interchange.rebuilt list free (size ▸ positive)
    rw [size] at rebuilt
    simp only [fixedSizeListModel, present, product, values_eq same, nullFree_iff.mp free, rebuilt]
    rfl

end Arrays

section Reference

/-- Values laid end to end, cut into rows again. -/
def splitRows {Item : Type} (size : Nat) : Nat → List Item → List (Vector Item size)
  | 0, _ => []
  | count + 1, values =>
    if whole : (values.take size).length = size then
      ⟨(values.take size).toArray, whole⟩ :: splitRows size count (values.drop size)
    else []

theorem splitRows_values {Item : Type} {size : Nat} (rows : List (Vector Item size)) :
    splitRows size rows.length (rows.flatMap Vector.toList) = rows := by
  induction rows with
  | nil => rfl
  | cons row rest ih =>
    have first : (row.toList ++ rest.flatMap Vector.toList).take size = row.toList :=
      List.take_left' row.length_toList
    have others : (row.toList ++ rest.flatMap Vector.toList).drop size = rest.flatMap Vector.toList :=
      List.drop_left' row.length_toList
    simp only [List.length_cons, List.flatMap_cons, splitRows, first, others, ih, Vector.length_toList, ↓reduceDIte]
    rfl

theorem splitRows_prefix {Item : Type} (size count : Nat) (values : List Item) :
    (splitRows size count values).flatMap Vector.toList <+: values := by
  induction count generalizing values with
  | zero => exact List.nil_prefix
  | succ count ih =>
    rw [splitRows]
    split
    · have joined := (List.prefix_append_right_inj (values.take size)).mpr (ih (values.drop size))
      rwa [List.take_append_drop] at joined
    · exact List.nil_prefix

def ArrowField.listSize (field : ArrowField) : Nat :=
  match field.dataType with
  | .fixedSizeList _ size => size.toNat
  | _ => 0

/-- An import by slicing and an export of what fits into memory, over schemas that are given by their fields. -/
def referenceCrate [Target] (fields : Nat → ArrowField) : ModelCrate Nat where
  dataType address := .ok (fields address).dataType
  field address := .ok (fields address)
  debug _ := "FixedSizeList"
  Data := FfiArrowArray Nat × Nat
  fromFfi array schema := .ok (array, (fields schema).listSize)
  makeArray data :=
    match data.1.firstChild with
    | none => .panicked (.text "index out of bounds")
    | some child =>
      if data.1.requiredElements data.2 ≤ child.length.toNat then .returned (data.1.model data.2)
      else .panicked (.text "the length + offset of the sliced ArrayData cannot exceed the existing length")
  toFfi model :=
    if model.rows.length * model.listSize * 32 ≤ usizeMax then .ok (exportModel model)
    else .error ⟨.other, "offset overflow"⟩
  tryNew size values :=
    if 0 < size then .ok ⟨size.toNat, splitRows size.toNat (values.length / size.toNat) values⟩
    else .error "Size cannot be negative"
  schemaTryFrom _ := .ok ()
  arrowError message := ⟨.other, message⟩

theorem exportModel_inBuffers [Target] (model : ModelArray Nat)
    (addressable : model.rows.length * model.listSize * 32 ≤ usizeMax) :
    (exportModel model).InBuffers (exportedChild model) := by
  have elements : (exportedChild model).extent = model.rows.length * model.listSize := by
    rw [FfiArrowArray.extent, exportedChild, ← Int.natCast_mul, Int.toNat_natCast]
    exact Nat.zero_add _
  refine ⟨⟨?_, .inl rfl⟩, ⟨?_, .inl rfl⟩, ?_, elements ▸ addressable⟩
  · rintro _ ⟨⟩
    exact ⟨_, rfl, by simp [FfiArrowArray.extent, exportModel]⟩
  · rintro _ ⟨⟩
    exact ⟨_, rfl, by simp [elements]⟩
  · rw [elements]
    simp [FfiArrowArray.valueCount, FfiArrowArray.buffer, exportedChild]

theorem exportModel_carries [Target] (model : ModelArray Nat) (positive : 0 < model.listSize)
    (narrow : model.listSize ≤ usizeMax) (fits : model.rows.length * model.listSize ≤ usizeMax)
    (addressable : model.rows.length * model.listSize * 32 ≤ usizeMax) :
    Carries (exportModel model) model.listSize model.rows := by
  have short : model.rows.length ≤ usizeMax := Nat.le_trans (Nat.le_mul_of_pos_right _ positive) fits
  have parent : ∀ name, validateParent (exportModel model) name = .ok () := by
    intro name
    simp [validateParent, validateCommon, exportModel, bind_eq_ok]
  have child : ∀ name, validateChild (exportedChild model) name = .ok () := by
    intro name
    have nonneg : (0 : Int) ≤ model.rows.length * model.listSize := Int.natCast_mul .. ▸ Int.natCast_nonneg _
    simp [validateChild, validateCommon, exportedChild, FfiArrowArray.buffer, bind_eq_ok, nonneg]
    omega
  have coverage : ∀ name, validateCoverage (exportModel model) (exportedChild model) model.listSize name = .ok () := by
    intro name
    have sum : checkedAdd 0 model.rows.length = some model.rows.length :=
      checkedAdd_eq_some.mpr ⟨(Nat.zero_add _).symm, (Nat.zero_add _).symm ▸ short⟩
    have reach : checkedAdd 0 (model.rows.length * model.listSize) = some (model.rows.length * model.listSize) :=
      checkedAdd_eq_some.mpr ⟨(Nat.zero_add _).symm, (Nat.zero_add _).symm ▸ fits⟩
    refine bind_eq_ok.mpr ⟨0, fitUsize_ok.mpr ⟨rfl, Nat.zero_le _⟩, ?_⟩
    refine bind_eq_ok.mpr ⟨model.rows.length, fitUsize_ok.mpr ⟨rfl, short⟩, ?_⟩
    refine bind_eq_ok.mpr ⟨model.listSize, fitUsize_ok.mpr ⟨rfl, narrow⟩, ?_⟩
    rw [sum, Option.bind_some, checkedMul_eq_some.mpr ⟨rfl, fits⟩]
    refine bind_eq_ok.mpr ⟨0, fitUsize_ok.mpr ⟨rfl, Nat.zero_le _⟩, ?_⟩
    refine bind_eq_ok.mpr ⟨model.rows.length * model.listSize, fitUsize_ok.mpr ⟨Int.natCast_mul .., fits⟩, ?_⟩
    rw [reach]
    exact refuseIf_ok.mpr (Nat.lt_irrefl _)
  refine ⟨fun name => bind_eq_ok.mpr ⟨(), parent name, ?_⟩,
    ⟨exportedChild model, rfl, exportModel_inBuffers model addressable, ?_⟩, rows_exportModel model⟩
  · exact bind_eq_ok.mpr ⟨(), child name, coverage name⟩
  · have size : (exportedChild model).length.toNat = model.rows.length * model.listSize := by
      rw [exportedChild, ← Int.natCast_mul, Int.toNat_natCast]
    simp [FfiArrowArray.requiredElements, exportModel, size]

theorem referenceCrate_interchange [Target] (fields : Nat → ArrowField) : Interchange (referenceCrate fields) where
  borrowed address field listSize given typed := by
    obtain rfl := Except.ok.inj given
    have size : (fields address).listSize = listSize := by
      rw [ArrowField.listSize, typed]
      rfl
    constructor
    · intro array child name _ first _ covered
      refine ⟨(array, listSize), array.model listSize, size ▸ rfl, ?_, rfl, rfl⟩
      simp [referenceCrate, first, covered]
    · intro array child name _ first _ short
      refine ⟨(array, listSize), .text "the length + offset of the sliced ArrayData cannot exceed the existing length",
        size ▸ rfl, ?_⟩
      simp [referenceCrate, first, Nat.not_le_of_lt short]
    · intro array name data model _ read made
      obtain rfl := Except.ok.inj read
      simp only [referenceCrate, size] at made
      split at made
      · cases made
      · rename_i child first
        split at made
        · obtain rfl := Unwind.returned.inj made
          exact ⟨rfl, FfiArrowArray.length_rows first⟩
        · cases made
    · intro model same addressable
      rw [← same] at addressable
      exact ⟨exportModel model, if_pos addressable, rfl, same ▸ rows_exportModel model⟩
  exported model array written positive narrow fits := by
    simp only [referenceCrate] at written
    split at written
    · rename_i addressable
      obtain rfl := Except.ok.inj written
      exact exportModel_carries model positive narrow fits addressable
    · cases written
  rebuilt array _ positive := by
    have count : array.values.length / array.valueLength = array.rows.length := by
      rw [array.length_values, Nat.mul_div_cancel _ positive]
      rfl
    simp only [referenceCrate, Int.natCast_pos, positive, ↓reduceIte, Int.toNat_natCast, count]
    exact congrArg Except.ok (congrArg (FixedSizeListArray.mk array.valueLength) (splitRows_values array.rows))
  made size values array built := by
    simp only [referenceCrate] at built
    split at built
    · obtain rfl := Except.ok.inj built
      exact ⟨Int.toNat_of_nonneg (by omega), splitRows_prefix ..⟩
    · cases built

end Reference

end LanceC.Index
