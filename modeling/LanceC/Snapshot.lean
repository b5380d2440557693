import LanceC.Machine.Integer

/-! The immutable dataset snapshot the C API works on, cut down to the parts
its functions read. -/

namespace LanceC

open Machine

/-- Sixteen bytes; byte order is numeric order. -/
abbrev Uuid := BitVec 128

/-- The last `width` hexadecimal digits, the most significant first. -/
def hexDigits : Nat → Nat → List Char
  | 0, _ => []
  | width + 1, value => hexDigits width (value / 16) ++ [Nat.digitChar (value % 16)]

/-- The hyphenated form in which messages print a UUID. -/
def Uuid.text (uuid : Uuid) : String :=
  let digits := hexDigits 32 uuid.toNat
  let part (start length : Nat) := String.ofList ((digits.drop start).take length)
  "-".intercalate [part 0 8, part 8 4, part 12 4, part 16 4, part 20 12]

/-- The Arrow types the C API tells apart. `primitive` covers the remaining
types of fixed width (dates, times, decimals and the other integers) by that width. -/
inductive DataType where
  | null
  | boolean
  | int8
  | uint8
  | uint64
  | float16
  | float32
  | float64
  | primitive (width : Nat)
  | fixedSizeBinary (width : Int)
  | variable (name : String)
  | fixedSizeList (element : DataType) (dimension : Int)
  | list (child : DataType) (nullable : Bool)
  deriving DecidableEq, Repr

structure Field where
  id : Int
  name : String
  dataType : DataType
  deriving DecidableEq, Repr

/-- A top-level field with its nested fields in pre-order. -/
structure RootField where
  field : Field
  nested : List Field
  deriving DecidableEq, Repr

structure Schema where
  roots : List RootField
  deriving DecidableEq, Repr

namespace Schema

def fields (schema : Schema) : List Field :=
  schema.roots.map RootField.field

def fieldsPreOrder (schema : Schema) : List Field :=
  schema.roots.flatMap fun root => root.field :: root.nested

def fieldById (schema : Schema) (id : Int) : Option Field :=
  schema.fieldsPreOrder.find? (·.id == id)

theorem fieldById_some {schema : Schema} {id : Int} {field : Field}
    (found : schema.fieldById id = some field) : field ∈ schema.fieldsPreOrder ∧ field.id = id :=
  ⟨List.mem_of_find?_eq_some found, by simpa using List.find?_some found⟩

theorem fields_subset_preOrder {schema : Schema} {field : Field} (member : field ∈ schema.fields) :
    field ∈ schema.fieldsPreOrder := by
  obtain ⟨root, present, same⟩ := List.mem_map.mp member
  exact List.mem_flatMap.mpr ⟨root, present, by simp [← same]⟩

end Schema

structure Fragment where
  id : Nat
  physicalRows : Option Nat
  overlays : List Nat
  deriving DecidableEq, Repr

inductive FileVersion where
  | v1
  | v2
  deriving DecidableEq, Repr

structure IndexFile where
  path : String
  sizeBytes : Nat
  deriving DecidableEq, Repr

/-- One physical index segment. `keyedField` is the single key field, where the
segment has one; `fragmentBitmap` is absent when its coverage is unknown. -/
structure IndexMetadata where
  uuid : Uuid
  name : String
  keyedField : Option Int
  fragmentBitmap : Option (List Nat)
  files : Option (List IndexFile)
  deriving DecidableEq, Repr

/-- A segment with the rest of its manifest entry: the columns it indexes and
the dataset version it was built from. -/
structure ManifestIndex extends IndexMetadata where
  fields : List Int
  datasetVersion : Nat
  deriving DecidableEq, Repr

structure Dataset where
  uri : String
  version : Nat
  fragments : List Fragment
  schema : Schema
  storageFormat : FileVersion
  usesStableRowIds : Bool
  fragReuseIndex : Option Uuid
  deriving DecidableEq, Repr

/-- Some fragment of the read domain is outside a coverage bitmap, whose
entries are 32-bit. -/
def outsideCoverage (coverage fragmentIds : List Nat) : Bool :=
  fragmentIds.any fun id =>
    match u32TryFrom id with
    | none => true
    | some id => !coverage.contains id

theorem covers_of_not_outside {coverage fragmentIds : List Nat}
    (inside : outsideCoverage coverage fragmentIds = false) (id : Nat) (member : id ∈ fragmentIds) :
    id ≤ u32Max ∧ id ∈ coverage := by
  have covered := List.any_eq_false.mp inside id member
  cases converted : u32TryFrom id with
  | none => simp [converted] at covered
  | some narrow =>
    obtain ⟨same, small⟩ := u32TryFrom_eq_some.mp converted
    subst same
    exact ⟨small, by simpa [converted] using covered⟩

end LanceC
