import LanceC.Index.ModelSchema
import LanceC.Machine.Unwind

/-! Borrowing an injected index model through the Arrow C data interface
(`borrow_model_array` of index_segment.rs). -/

namespace LanceC.Index

open Machine

inductive Buffer (Value : Type) where
  | bits (bits : List Bool)
  | values (values : List Value)

/-- An `ArrowArray` struct; `none` is a NULL pointer, also inside the pointer arrays. -/
structure FfiArrowArray (Value : Type) where
  length : Int
  nullCount : Int
  offset : Int
  nBuffers : Int
  nChildren : Int
  buffers : Option (List (Option (Buffer Value)))
  children : Option (List (Option (FfiArrowArray Value)))
  hasDictionary : Bool
  isReleased : Bool

namespace FfiArrowArray

variable {Value : Type}

def empty : FfiArrowArray Value where
  length := 0
  nullCount := 0
  offset := 0
  nBuffers := 0
  nChildren := 0
  buffers := none
  children := none
  hasDictionary := false
  isReleased := true

/-- The pointer at an index of the buffers array. -/
def buffer (array : FfiArrowArray Value) (index : Nat) : Option (Buffer Value) :=
  array.buffers.bind fun buffers => buffers[index]?.join

def firstChild (array : FfiArrowArray Value) : Option (FfiArrowArray Value) :=
  array.children.bind fun children => children[0]?.join

end FfiArrowArray

/-- An imported model: rows of `listSize` floats, NULLs included. -/
structure ModelArray (Value : Type) where
  listSize : Nat
  rows : List (Option (List (Option Value)))
  whole : ∀ row ∈ rows, ∀ values, row = some values → values.length = listSize

/-- The parts of arrow-rs that the import and the export consist of. -/
structure ArrowCrate (Value : Type) extends SchemaConversion where
  Data : Type
  fromFfi : FfiArrowArray Value → Nat → Except String Data
  makeArray : Data → Unwind (ModelArray Value)
  toFfi : ModelArray Value → Except LanceError (FfiArrowArray Value)

section Checks

variable {Value : Type}

def validateCommon (value : FfiArrowArray Value) (path : String) : Except LanceError Unit := do
  refuseIf (value.length < 0 ∨ value.offset < 0) (.invalidInput
    s!"{path} length and offset must be non-negative; length={value.length}, offset={value.offset}")
  refuseIf (value.nullCount < -1 ∨ value.nullCount > value.length) (.invalidInput
    s!"{path}.null_count {value.nullCount} is invalid for length {value.length}")
  refuseIf (value.nBuffers < 0 ∨ value.nChildren < 0) (.invalidInput (String.join
    [path, ".n_buffers and n_children must be non-negative; n_buffers=", toString value.nBuffers,
      ", n_children=", toString value.nChildren]))

def validateParent (array : FfiArrowArray Value) (name : String) : Except LanceError Unit := do
  refuseIf array.isReleased (.invalidInput s!"{name} is uninitialized or already released")
  validateCommon array name
  refuseIf (array.nBuffers ≠ 1 ∨ array.buffers.isNone) (.invalidInput (String.join
    [name, " FixedSizeList must have one buffer and a non-NULL buffers pointer; n_buffers=",
      toString array.nBuffers]))
  refuseIf (array.nChildren ≠ 1 ∨ array.children.isNone) (.invalidInput (String.join
    [name, " FixedSizeList must have one child and a non-NULL children pointer; n_children=",
      toString array.nChildren]))
  refuseIf array.hasDictionary (.invalidInput s!"{name} FixedSizeList dictionary must be NULL")
  refuseIf (array.nullCount > 0 ∧ (array.buffer 0).isNone) (.invalidInput
    s!"{name} has null_count {array.nullCount} but no validity buffer")

def validateChild (child : FfiArrowArray Value) (name : String) : Except LanceError Unit := do
  refuseIf child.isReleased (.invalidInput s!"{name}.children[0] is uninitialized or already released")
  validateCommon child s!"{name}.children[0]"
  refuseIf (child.nBuffers ≠ 2 ∨ child.buffers.isNone) (.invalidInput (String.join
    [name, ".children[0] Float32 must have two buffers and a non-NULL buffers pointer; n_buffers=",
      toString child.nBuffers]))
  refuseIf (child.nChildren ≠ 0 ∨ child.hasDictionary) (.invalidInput
    s!"{name}.children[0] must have no children or dictionary")
  refuseIf (child.nullCount > 0 ∧ (child.buffer 0).isNone) (.invalidInput
    s!"{name}.children[0] has null_count {child.nullCount} but no validity buffer")
  refuseIf (child.length > 0 ∧ (child.buffer 1).isNone) (.invalidInput
    s!"{name}.children[0] has length {child.length} but a NULL values buffer")

/-- The conversion to `usize`, or the refusal of the field. -/
def fitUsize [Target] (value : Int) (path : String) : Except LanceError Nat :=
  match usizeTryFrom value with
  | some value => .ok value
  | none => .error (.invalidInput s!"{path} does not fit usize")

def validateCoverage [Target] (array child : FfiArrowArray Value) (listSize : Int) (name : String) :
    Except LanceError Unit := do
  let parentOffset ← fitUsize array.offset s!"{name}.offset"
  let parentLen ← fitUsize array.length s!"{name}.length"
  let listSize ← fitUsize listSize s!"{name} list_size"
  let some requiredChildLen := (checkedAdd parentOffset parentLen).bind (checkedMul · listSize)
    | throw (.invalidInput s!"{name} (offset + length) * list_size overflows usize")
  let childOffset ← fitUsize child.offset s!"{name}.children[0].offset"
  let childLen ← fitUsize child.length s!"{name}.children[0].length"
  refuseIf ((checkedAdd childOffset childLen).getD 0 < requiredChildLen) (.invalidInput (String.join
    [name, ".children[0] does not cover the parent range: child offset=", toString child.offset,
      ", length=", toString child.length, ", required elements=", toString requiredChildLen]))

/-- Everything that is checked of the array before the caller's slot is touched. -/
def validateArray [Target] (array : FfiArrowArray Value) (listSize : Int) (name : String) :
    Except LanceError Unit := do
  validateParent array name
  let some child := array.firstChild | throw (.invalidInput s!"{name}.children[0] is NULL")
  validateChild child name
  validateCoverage array child listSize name

end Checks

section Borrow

variable {Value : Type} [Target]

def importModelArray (arrow : ArrowCrate Value) (memory : SchemaMemory) (array : FfiArrowArray Value)
    (schema : Option Nat) (name : String) : Unwind (Except LanceError (ModelArray Value)) :=
  match validateModelSchema arrow.toSchemaConversion memory schema name with
  | .error error => .returned (.error error)
  | .ok _ =>
    match arrow.fromFfi array (schema.getD 0) with
    | .error error => .returned (.error (.invalidInput s!"invalid {name} Arrow C data: {error}"))
    | .ok data => (arrow.makeArray data).bind fun array => .returned (.ok array)

/-- The import and the replacement, once the array has been moved out of the slot. -/
def replaceModelArray (arrow : ArrowCrate Value) (memory : SchemaMemory) (owned : FfiArrowArray Value)
    (schema : Option Nat) (name : String) : Unwind (Except LanceError (ModelArray Value)) × FfiArrowArray Value :=
  match importModelArray arrow memory owned schema name with
  | .panicked payload => (.panicked payload, .empty)
  | .returned (.error error) => (.returned (.error error), .empty)
  | .returned (.ok imported) =>
    match arrow.toFfi imported with
    | .error error => (.returned (.error error), .empty)
    | .ok replacement => (.returned (.ok imported), replacement)

/-- The checks, which leave the caller's slot alone; `array` is a NULL pointer or what its slot holds. -/
def checkModelArray (arrow : ArrowCrate Value) (memory : SchemaMemory) (array : Option (FfiArrowArray Value))
    (schema : Option Nat) (name : String) : Except LanceError (FfiArrowArray Value × Nat) := do
  let some array := array | throw (.invalidInput s!"{name} must not be NULL")
  let field ← validateModelSchema arrow.toSchemaConversion memory schema name
  match field.dataType with
  | .fixedSizeList element listSize =>
    refuseIf (listSize ≤ 0 ∨ element ≠ .float32) (.invalidInput (String.join
      [name, "_schema must describe FixedSizeList<Float32> with positive list_size, got ",
        arrow.debug field.dataType]))
    validateArray array listSize name
    return (array, listSize.toNat)
  | dataType => throw (.invalidInput s!"{name}_schema must describe FixedSizeList, got {arrow.debug dataType}")

/-- The result and what the caller's slot holds afterwards. -/
def borrowModelArray (arrow : ArrowCrate Value) (memory : SchemaMemory) (array : Option (FfiArrowArray Value))
    (schema : Option Nat) (name : String) :
    Unwind (Except LanceError (ModelArray Value)) × Option (FfiArrowArray Value) :=
  match checkModelArray arrow memory array schema name with
  | .error error => (.returned (.error error), array)
  | .ok (owned, _) =>
    let (result, slot) := replaceModelArray arrow memory owned schema name
    (result, some slot)

end Borrow

end LanceC.Index
