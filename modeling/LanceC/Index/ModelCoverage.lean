import LanceC.Index.ModelArray
import LanceC.Logic.Except

/-! When borrowing a model that passes the checks leaves the caller with a live model. -/

namespace LanceC.Index

open Logic Machine

variable {Value : Type}

namespace FfiArrowArray

/-- Without a validity buffer every slot is valid. -/
def isValid (array : FfiArrowArray Value) (index : Nat) : Bool :=
  match array.buffer 0 with
  | some (.bits bits) => bits.getD (array.offset.toNat + index) true
  | _ => true

/-- The element of a child in its own coordinates, which begin at its offset. -/
def elementAt (child : FfiArrowArray Value) (index : Nat) : Option Value :=
  if child.isValid index then
    match child.buffer 1 with
    | some (.values values) => values[child.offset.toNat + index]?
    | _ => none
  else none

def rowAt (array child : FfiArrowArray Value) (listSize row : Nat) : Option (List (Option Value)) :=
  if array.isValid row then
    some ((List.range listSize).map fun i => child.elementAt ((array.offset.toNat + row) * listSize + i))
  else none

/-- What the array means. -/
def rows (array : FfiArrowArray Value) (listSize : Nat) : List (Option (List (Option Value))) :=
  match array.firstChild with
  | none => []
  | some child => (List.range array.length.toNat).map (array.rowAt child listSize)

/-- The number of child elements that a parent of this offset and length refers to. -/
def requiredElements (array : FfiArrowArray Value) (listSize : Nat) : Nat :=
  (array.offset.toNat + array.length.toNat) * listSize

/-- Where the range of an array ends in its buffers. -/
def extent (array : FfiArrowArray Value) : Nat :=
  array.offset.toNat + array.length.toNat

/-- The floats behind a child's values pointer; behind NULL there are none. -/
def valueCount (child : FfiArrowArray Value) : Nat :=
  match child.buffer 1 with
  | some (.values values) => values.length
  | _ => 0

/-- A validity buffer covers the range, and the null count is unknown or that of the range. -/
structure ValidityInside (array : FfiArrowArray Value) : Prop where
  bits : ∀ buffer, array.buffer 0 = some buffer → ∃ bits, buffer = .bits bits ∧ array.extent ≤ bits.length
  counted : array.nullCount = -1 ∨
    array.nullCount = (List.range array.length.toNat).countP fun index => !array.isValid index

/-- The declared ranges lie in their buffers, as in every valid tree of the Arrow C data
interface; that of the child, counted in bits of 32-bit floats, fits `usize`. -/
structure InBuffers [Target] (array child : FfiArrowArray Value) : Prop where
  lists : array.ValidityInside
  elements : child.ValidityInside
  values : child.extent ≤ child.valueCount
  addressable : child.extent * 32 ≤ usizeMax

/-- A covering child's range holds the rows, however they are counted. -/
theorem InBuffers.fits [Target] {array child : FfiArrowArray Value} {listSize : Nat} (inside : array.InBuffers child)
    (covered : array.requiredElements listSize ≤ child.length.toNat) :
    array.length.toNat * listSize * 32 ≤ usizeMax := by
  have rows : array.length.toNat * listSize ≤ child.extent :=
    calc array.length.toNat * listSize
      _ ≤ array.requiredElements listSize := Nat.mul_le_mul_right listSize (Nat.le_add_left _ _)
      _ ≤ child.length.toNat := covered
      _ ≤ child.extent := Nat.le_add_left _ _
  exact Nat.le_trans (Nat.mul_le_mul_right 32 rows) inside.addressable

theorem length_rows {array child : FfiArrowArray Value} {listSize : Nat} (first : array.firstChild = some child) :
    (array.rows listSize).length = array.length.toNat := by
  simp [rows, first]

end FfiArrowArray

/-- What is known of arrow-rs. Where the declared ranges lie in their buffers, the import slices
the child by the parent's offset and length and panics where the child is too short for that;
whatever it returns has the parent's length. The export is a live array of the same rows. -/
structure ArrowContract [Target] (arrow : ArrowCrate Value) (schema listSize : Nat) : Prop where
  imported : ∀ array child name, validateArray array listSize name = .ok () → array.firstChild = some child →
    array.InBuffers child → array.requiredElements listSize ≤ child.length.toNat →
    ∃ data model, arrow.fromFfi array schema = .ok data ∧ arrow.makeArray data = .returned model ∧
      model.listSize = listSize ∧ model.rows = array.rows listSize
  sliced : ∀ array child name, validateArray array listSize name = .ok () → array.firstChild = some child →
    array.InBuffers child → child.length.toNat < array.requiredElements listSize →
    ∃ data payload, arrow.fromFfi array schema = .ok data ∧ arrow.makeArray data = .panicked payload
  shaped : ∀ array name data model, validateArray array listSize name = .ok () →
    arrow.fromFfi array schema = .ok data → arrow.makeArray data = .returned model →
    model.listSize = listSize ∧ model.rows.length = array.length.toNat
  exported : ∀ model, model.listSize = listSize → model.rows.length * listSize * 32 ≤ usizeMax →
    ∃ replacement, arrow.toFfi model = .ok replacement ∧ replacement.isReleased = false ∧
      replacement.rows listSize = model.rows

section Checks

variable [Target] {array child : FfiArrowArray Value} {name : String}

theorem fitUsize_ok {value : Int} {path : String} {fitted : Nat} :
    fitUsize value path = .ok fitted ↔ value = fitted ∧ fitted ≤ usizeMax := by
  rw [← usizeTryFrom_eq_some, fitUsize]
  cases usizeTryFrom value <;> simp

/-- What the coverage check comes to: a child range that wraps around passes only where nothing is required. -/
theorem validateCoverage_ok {listSize : Nat} (passed : validateCoverage array child listSize name = .ok ()) :
    0 ≤ array.offset ∧ 0 ≤ array.length ∧ 0 ≤ child.offset ∧ 0 ≤ child.length ∧
      array.requiredElements listSize ≤ usizeMax ∧
      (array.requiredElements listSize = 0 ∨
        array.requiredElements listSize ≤ child.offset.toNat + child.length.toNat) := by
  obtain ⟨parentOffset, offset, afterOffset⟩ := bind_eq_ok.mp passed
  obtain ⟨parentLen, length, afterLength⟩ := bind_eq_ok.mp afterOffset
  obtain ⟨size, sized, rest⟩ := bind_eq_ok.mp afterLength
  obtain ⟨offset, _⟩ := fitUsize_ok.mp offset
  obtain ⟨length, _⟩ := fitUsize_ok.mp length
  obtain rfl : size = listSize := by
    have := (fitUsize_ok.mp sized).1
    omega
  split at rest
  · rename_i required product
    obtain ⟨sum, added, multiplied⟩ := Option.bind_eq_some_iff.mp product
    obtain ⟨rfl, _⟩ := checkedAdd_eq_some.mp added
    obtain ⟨rfl, fits⟩ := checkedMul_eq_some.mp multiplied
    obtain ⟨childOffset, start, afterStart⟩ := bind_eq_ok.mp rest
    obtain ⟨childLen, extent, last⟩ := bind_eq_ok.mp afterStart
    obtain ⟨start, _⟩ := fitUsize_ok.mp start
    obtain ⟨extent, _⟩ := fitUsize_ok.mp extent
    have covers := refuseIf_ok.mp last
    have needed : array.requiredElements size = (parentOffset + parentLen) * size := by
      simp [FfiArrowArray.requiredElements, offset, length]
    rw [needed]
    refine ⟨by omega, by omega, by omega, by omega, fits, ?_⟩
    cases reach : checkedAdd childOffset childLen with
    | none =>
      rw [reach, Option.getD_none] at covers
      exact .inl (Nat.eq_zero_of_not_pos covers)
    | some reached =>
      obtain ⟨rfl, _⟩ := checkedAdd_eq_some.mp reach
      rw [reach, Option.getD_some] at covers
      exact .inr (by simp only [start, extent, Int.toNat_natCast]; omega)
  · cases rest

theorem validateArray_ok {listSize : Nat} (passed : validateArray array listSize name = .ok ())
    (first : array.firstChild = some child) : validateCoverage array child listSize name = .ok () := by
  obtain ⟨_, _, passed⟩ := bind_eq_ok.mp passed
  rw [first] at passed
  obtain ⟨_, _, passed⟩ := bind_eq_ok.mp passed
  exact passed

theorem validateArray_firstChild {listSize : Int} (passed : validateArray array listSize name = .ok ()) :
    ∃ child, array.firstChild = some child := by
  obtain ⟨_, _, passed⟩ := bind_eq_ok.mp passed
  cases first : array.firstChild with
  | none =>
    rw [first] at passed
    cases passed
  | some child => exact ⟨child, rfl⟩

end Checks

section Borrow

variable [Target] {arrow : ArrowCrate Value} {memory : SchemaMemory} {array : Option (FfiArrowArray Value)}
variable {schema : Option Nat} {name : String} {owned child : FfiArrowArray Value} {listSize : Nat}

/-- The slot's array and its schema have been validated where the checks pass. -/
theorem checkModelArray_ok (passed : checkModelArray arrow memory array schema name = .ok (owned, listSize)) :
    array = some owned ∧ validateArray owned listSize name = .ok () ∧
      ∃ field, validateModelSchema arrow.toSchemaConversion memory schema name = .ok field ∧
        field.dataType = .fixedSizeList .float32 (listSize : Nat) ∧ 0 < listSize := by
  unfold checkModelArray at passed
  split at passed
  · obtain ⟨field, valid, passed⟩ := bind_eq_ok.mp passed
    split at passed
    · rename_i element dimension typed
      obtain ⟨_, positive, passed⟩ := bind_eq_ok.mp passed
      obtain ⟨_, checked, passed⟩ := bind_eq_ok.mp passed
      obtain ⟨rfl, rfl⟩ := Prod.mk.inj (Except.ok.inj passed)
      obtain ⟨large, rfl⟩ := not_or.mp (refuseIf_ok.mp positive) |>.imp_right Classical.not_not.mp
      have size : ((dimension.toNat : Nat) : Int) = dimension := by omega
      exact ⟨rfl, size ▸ checked, field, valid, size ▸ typed, by omega⟩
    · cases passed
  · cases passed

/-- The child covers the parent in its own coordinates, and the borrow leaves a live array of
the same rows in the slot. -/
def Preserved (owned child : FfiArrowArray Value) (listSize : Nat)
    (outcome : Unwind (Except LanceError (ModelArray Value)) × Option (FfiArrowArray Value)) : Prop :=
  owned.requiredElements listSize ≤ child.length.toNat ∧ owned.requiredElements listSize ≤ usizeMax ∧
    ∃ model replacement, outcome = (.returned (.ok model), some replacement) ∧
      model.rows = owned.rows listSize ∧ replacement.isReleased = false ∧
      replacement.rows listSize = owned.rows listSize

/-- The borrow of a covered array, in full: the slot gets what the export makes of the model. -/
theorem borrowModelArray_exact (contract : ArrowContract arrow (schema.getD 0) listSize)
    (passed : checkModelArray arrow memory array schema name = .ok (owned, listSize))
    (first : owned.firstChild = some child) (inside : owned.InBuffers child)
    (covered : owned.requiredElements listSize ≤ child.length.toNat) :
    ∃ model replacement, borrowModelArray arrow memory array schema name = (.returned (.ok model), some replacement) ∧
      model.listSize = listSize ∧ model.rows = owned.rows listSize ∧ arrow.toFfi model = .ok replacement := by
  obtain ⟨_, checked, field, valid, _⟩ := checkModelArray_ok passed
  obtain ⟨data, model, read, made, size, rows⟩ := contract.imported owned child name checked first inside covered
  have fits : model.rows.length * listSize * 32 ≤ usizeMax := by
    rw [rows, FfiArrowArray.length_rows first]
    exact inside.fits covered
  obtain ⟨replacement, written, _⟩ := contract.exported model size fits
  refine ⟨model, replacement, ?_, size, rows, written⟩
  simp [borrowModelArray, passed, replaceModelArray, importModelArray, valid, read, made, Unwind.bind, written]

theorem borrowModelArray_of_covered (contract : ArrowContract arrow (schema.getD 0) listSize)
    (passed : checkModelArray arrow memory array schema name = .ok (owned, listSize))
    (first : owned.firstChild = some child) (inside : owned.InBuffers child)
    (covered : owned.requiredElements listSize ≤ child.length.toNat) :
    ∃ model replacement, borrowModelArray arrow memory array schema name = (.returned (.ok model), some replacement) ∧
      model.rows = owned.rows listSize ∧ replacement.isReleased = false ∧
      replacement.rows listSize = owned.rows listSize := by
  obtain ⟨model, replacement, borrowed, size, rows, written⟩ :=
    borrowModelArray_exact contract passed first inside covered
  have fits : model.rows.length * listSize * 32 ≤ usizeMax := by
    rw [rows, FfiArrowArray.length_rows first]
    exact inside.fits covered
  obtain ⟨other, written', live, same⟩ := contract.exported model size fits
  obtain rfl := Except.ok.inj (written.symm.trans written')
  exact ⟨model, replacement, borrowed, rows, live, same.trans rows⟩

/-- A borrow that returns has imported the array. -/
theorem borrowModelArray_imported {reached : Option (FfiArrowArray Value)} {model : ModelArray Value}
    (passed : checkModelArray arrow memory array schema name = .ok (owned, listSize))
    (success : borrowModelArray arrow memory array schema name = (.returned (.ok model), reached)) :
    ∃ data, arrow.fromFfi owned (schema.getD 0) = .ok data ∧ arrow.makeArray data = .returned model := by
  obtain ⟨_, _, field, valid, _⟩ := checkModelArray_ok passed
  simp only [borrowModelArray, passed, replaceModelArray, importModelArray, valid] at success
  cases read : arrow.fromFfi owned (schema.getD 0) with
  | error error =>
    rw [read] at success
    cases success
  | ok data =>
    refine ⟨data, rfl, ?_⟩
    cases made : arrow.makeArray data with
    | panicked payload =>
      simp only [read, made, Unwind.bind] at success
      cases success
    | returned imported =>
      simp only [read, made, Unwind.bind] at success
      cases written : arrow.toFfi imported with
      | error error =>
        simp only [written] at success
        cases success
      | ok replacement =>
        simp only [written] at success
        rw [Except.ok.inj (Unwind.returned.inj (Prod.mk.inj success).1)]

/-- A child too short for the parent is found out only after the slot has been emptied. -/
theorem borrowModelArray_of_uncovered (contract : ArrowContract arrow (schema.getD 0) listSize)
    (passed : checkModelArray arrow memory array schema name = .ok (owned, listSize))
    (first : owned.firstChild = some child) (inside : owned.InBuffers child)
    (short : child.length.toNat < owned.requiredElements listSize) :
    ∃ payload, borrowModelArray arrow memory array schema name = (.panicked payload, some .empty) := by
  obtain ⟨_, checked, field, valid, _⟩ := checkModelArray_ok passed
  obtain ⟨data, payload, read, made⟩ := contract.sliced owned child name checked first inside short
  refine ⟨payload, ?_⟩
  simp [borrowModelArray, passed, replaceModelArray, importModelArray, valid, read, made, Unwind.bind]

/-- Among the arrays that pass the checks, the child covers the parent where it either begins at
its buffer's start or reaches beyond the required elements by at least its own offset. Where
the declared ranges lie in their buffers, exactly these arrays are preserved; with any other the
call panics and the slot is left empty. -/
theorem borrowModelArray_preserved_iff (contract : ArrowContract arrow (schema.getD 0) listSize)
    (passed : checkModelArray arrow memory array schema name = .ok (owned, listSize))
    (first : owned.firstChild = some child) :
    let covering := child.offset = 0 ∨
      child.offset ≤ child.offset + child.length - (owned.offset + owned.length) * listSize
    let outcome := borrowModelArray arrow memory array schema name
    (owned.requiredElements listSize ≤ child.length.toNat ∧ owned.requiredElements listSize ≤ usizeMax ↔ covering) ∧
      (owned.InBuffers child → (Preserved owned child listSize outcome ↔ covering) ∧
        (¬Preserved owned child listSize outcome → ∃ payload, outcome = (.panicked payload, some .empty))) := by
  intro covering outcome
  obtain ⟨offset, length, start, extent, fits, reach⟩ :=
    validateCoverage_ok (validateArray_ok (checkModelArray_ok passed).2.1 first)
  have required : ((owned.requiredElements listSize : Nat) : Int) = (owned.offset + owned.length) * listSize := by
    rw [FfiArrowArray.requiredElements, Int.natCast_mul, Int.natCast_add, Int.toNat_of_nonneg offset,
      Int.toNat_of_nonneg length]
  have covers : owned.requiredElements listSize ≤ child.length.toNat ∧
      owned.requiredElements listSize ≤ usizeMax ↔ covering := by
    simp only [covering, ← required, fits, and_true]
    omega
  refine ⟨covers, fun inside => ?_⟩
  have preserved (covered : owned.requiredElements listSize ≤ child.length.toNat) :
      Preserved owned child listSize outcome :=
    ⟨covered, fits, borrowModelArray_of_covered contract passed first inside covered⟩
  constructor
  · constructor
    · rintro ⟨covered, bounded, _⟩
      exact covers.mp ⟨covered, bounded⟩
    · intro surplus
      exact preserved (covers.mpr surplus).1
  · intro lost
    exact borrowModelArray_of_uncovered contract passed first inside (Nat.lt_of_not_le (lost ∘ preserved))

end Borrow

section Export

/-- The element of a model at a place in its child. -/
def ModelArray.elementOf (model : ModelArray Value) (place : Nat) : Option Value := do
  let row ← model.rows[place / model.listSize]?.join
  row[place % model.listSize]?.join

theorem elementOf_eq (model : ModelArray Value) {row place : Nat} (within : place < model.listSize)
    {values : List (Option Value)} (found : model.rows[row]? = some (some values)) :
    model.elementOf (row * model.listSize + place) = values[place]?.join := by
  have positive : 0 < model.listSize := Nat.zero_lt_of_lt within
  have which : (row * model.listSize + place) / model.listSize = row := by
    rw [Nat.mul_comm, Nat.mul_add_div positive, Nat.div_eq_of_lt within, Nat.add_zero]
  have inner : (row * model.listSize + place) % model.listSize = place := by
    rw [Nat.mul_comm, Nat.mul_add_mod, Nat.mod_eq_of_lt within]
  simp [ModelArray.elementOf, which, inner, found]

variable [Inhabited Value]

def exportedChild (model : ModelArray Value) : FfiArrowArray Value where
  length := model.rows.length * model.listSize
  nullCount := -1
  offset := 0
  nBuffers := 2
  nChildren := 0
  buffers := some
    [some (.bits ((List.range (model.rows.length * model.listSize)).map fun place => (model.elementOf place).isSome)),
      some (.values ((List.range (model.rows.length * model.listSize)).map fun place =>
        (model.elementOf place).getD default))]
  children := none
  hasDictionary := false
  isReleased := false

/-- A fresh array of the same rows. -/
def exportModel (model : ModelArray Value) : FfiArrowArray Value where
  length := model.rows.length
  nullCount := -1
  offset := 0
  nBuffers := 1
  nChildren := 1
  buffers := some [some (.bits (model.rows.map Option.isSome))]
  children := some [some (exportedChild model)]
  hasDictionary := false
  isReleased := false

theorem elementAt_exportedChild (model : ModelArray Value) {place : Nat}
    (inside : place < model.rows.length * model.listSize) :
    (exportedChild model).elementAt place = model.elementOf place := by
  cases element : model.elementOf place <;>
    simp [FfiArrowArray.elementAt, FfiArrowArray.isValid, FfiArrowArray.buffer, exportedChild, inside, element]

theorem isValid_exportModel (model : ModelArray Value) {row : Nat} (inside : row < model.rows.length) :
    (exportModel model).isValid row = model.rows[row].isSome := by
  simp [FfiArrowArray.isValid, FfiArrowArray.buffer, exportModel, inside]

theorem rowAt_exportModel (model : ModelArray Value) {row : Nat} (inside : row < model.rows.length) :
    (exportModel model).rowAt (exportedChild model) model.listSize row = model.rows[row] := by
  rw [FfiArrowArray.rowAt, isValid_exportModel model inside]
  cases found : model.rows[row] with
  | none => rfl
  | some values =>
    have size := model.whole _ (List.getElem_mem inside) values found
    refine congrArg some (List.ext_getElem (by simp [size]) fun place _ within => ?_)
    have reach : row * model.listSize + place < model.rows.length * model.listSize := by
      calc row * model.listSize + place
        _ < row * model.listSize + model.listSize := Nat.add_lt_add_left (size ▸ within) _
        _ = (row + 1) * model.listSize := (Nat.succ_mul _ _).symm
        _ ≤ model.rows.length * model.listSize := Nat.mul_le_mul_right _ inside
    have element := elementOf_eq model (size ▸ within) (List.getElem?_eq_some_iff.mpr ⟨inside, found⟩)
    simp only [List.getElem_map, List.getElem_range, exportModel, Int.toNat_zero, Nat.zero_add]
    rw [elementAt_exportedChild model reach, element]
    simp [List.getElem?_eq_getElem within]

theorem rows_exportModel (model : ModelArray Value) : (exportModel model).rows model.listSize = model.rows := by
  refine List.ext_getElem (by simp [FfiArrowArray.rows, FfiArrowArray.firstChild, exportModel]) ?_
  intro row _ inside
  rw [← rowAt_exportModel model inside]
  simp [FfiArrowArray.rows, FfiArrowArray.firstChild, exportModel]

end Export

section Sample

/-- The rows of an array as a model. -/
def FfiArrowArray.model (array : FfiArrowArray Value) (listSize : Nat) : ModelArray Value where
  listSize := listSize
  rows := array.rows listSize
  whole := by
    intro row member values found
    unfold FfiArrowArray.rows at member
    split at member
    · cases member
    · obtain ⟨_, _, rfl⟩ := List.mem_map.mp member
      unfold FfiArrowArray.rowAt at found
      split at found
      · rw [← Option.some.inj found]
        simp
      · cases found

/-- An import by slicing, at a list size of 4. -/
def sampleArrow : ArrowCrate Nat where
  dataType _ := .ok (.fixedSizeList .float32 4)
  field _ := .ok ⟨.fixedSizeList .float32 4, []⟩
  debug _ := "FixedSizeList"
  Data := FfiArrowArray Nat
  fromFfi array _ := .ok array
  makeArray data :=
    match data.firstChild with
    | none => .panicked (.text "index out of bounds")
    | some child =>
      if data.requiredElements 4 ≤ child.length.toNat then .returned (data.model 4)
      else .panicked (.text "the length + offset of the sliced ArrayData cannot exceed the existing length")
  toFfi model := .ok (exportModel model)

theorem sampleArrow_contract [Target] (schema : Nat) : ArrowContract sampleArrow schema 4 where
  imported array child name _ first _ covered :=
    ⟨array, array.model 4, rfl, by simp [sampleArrow, first, covered], rfl, rfl⟩
  sliced array child name _ first _ short :=
    ⟨array, .text "the length + offset of the sliced ArrayData cannot exceed the existing length", rfl,
      by simp [sampleArrow, first, Nat.not_le_of_lt short]⟩
  shaped array name data model _ read made := by
    obtain rfl := Except.ok.inj read
    simp only [sampleArrow] at made
    split at made
    · cases made
    · rename_i child first
      split at made
      · obtain rfl := Unwind.returned.inj made
        exact ⟨rfl, FfiArrowArray.length_rows first⟩
      · cases made
  exported model size _ := ⟨exportModel model, rfl, rfl, size ▸ rows_exportModel model⟩

/-- A child of eight floats in its buffer. -/
def sampleChild (offset length : Int) : FfiArrowArray Nat where
  length := length
  nullCount := 0
  offset := offset
  nBuffers := 2
  nChildren := 0
  buffers := some [none, some (.values (List.range 8))]
  children := none
  hasDictionary := false
  isReleased := false

/-- Two rows of four floats. -/
def sampleModel (child : FfiArrowArray Nat) : FfiArrowArray Nat where
  length := 2
  nullCount := 0
  offset := 0
  nBuffers := 1
  nChildren := 1
  buffers := some [none]
  children := some [some child]
  hasDictionary := false
  isReleased := false

def sampleMemory : SchemaMemory := fun address =>
  { hasRelease := true
    format := .text "+w:4"
    name := .null
    nChildren := if address = 0 then 1 else 0
    children := if address = 0 then some fun _ => some 1 else none
    dictionary := none }

theorem sampleModel_inBuffers {offset length : Int} (within : offset.toNat + length.toNat ≤ 8) :
    letI := target64
    (sampleModel (sampleChild offset length)).InBuffers (sampleChild offset length) := by
  let _ := target64
  have elements : (sampleChild offset length).extent ≤ 8 := within
  refine ⟨⟨nofun, .inr rfl⟩, ⟨nofun, .inr ?_⟩, elements, ?_⟩
  · simp [sampleChild, FfiArrowArray.isValid, FfiArrowArray.buffer]
  · exact Nat.le_trans (Nat.mul_le_mul_right 32 elements) (by decide)

/-- Four elements from the fourth on are taken for the eight required ones. -/
theorem borrowModelArray_loses_slot :
    letI := target64
    let child := sampleChild 4 4
    checkModelArray sampleArrow sampleMemory (some (sampleModel child)) (some 0) "ivf_centroids" =
        .ok (sampleModel child, 4) ∧
      (sampleModel child).firstChild = some child ∧ (sampleModel child).InBuffers child ∧
      child.length.toNat < (sampleModel child).requiredElements 4 ∧
      borrowModelArray sampleArrow sampleMemory (some (sampleModel child)) (some 0) "ivf_centroids" =
        (.panicked (.text "the length + offset of the sliced ArrayData cannot exceed the existing length"),
          some .empty) :=
  ⟨rfl, rfl, sampleModel_inBuffers (by decide), by decide, rfl⟩

theorem sampleModel_passes :
    letI := target64
    checkModelArray sampleArrow sampleMemory (some (sampleModel (sampleChild 0 8))) (some 0) "ivf_centroids" =
      .ok (sampleModel (sampleChild 0 8), 4) :=
  rfl

theorem borrowModelArray_preserved_sample :
    letI := target64
    Preserved (sampleModel (sampleChild 0 8)) (sampleChild 0 8) 4
      (borrowModelArray sampleArrow sampleMemory (some (sampleModel (sampleChild 0 8))) (some 0) "ivf_centroids") :=
  letI := target64
  ((borrowModelArray_preserved_iff (sampleArrow_contract 0) sampleModel_passes rfl).2
    (sampleModel_inBuffers (by decide))).1.mpr (.inl rfl)

end Sample

end LanceC.Index
