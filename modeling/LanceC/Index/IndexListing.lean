import LanceC.Dataset.Handle
import LanceC.Index.QuoteEscape
import LanceC.Index.UuidText
import LanceC.Logic.HashMap

/-! The JSON listing of the user indexes (index.rs), and its reading. -/

namespace LanceC.Index

open Logic

/-- What the listing calls in Lance. -/
structure IndexCatalog where
  loadIndices : Dataset → Except LanceError (List ManifestIndex)
  describeIndices : Dataset → Except LanceError (List (String × String))
  isSystemIndex : ManifestIndex → Bool

/-- The type of each described name; a later description replaces an earlier one. -/
def typeByName (descriptions : List (String × String)) : HashMap String String :=
  descriptions.foldl (fun map description => map.insert description.1 description.2) ∅

def columnNames (schema : Schema) (index : ManifestIndex) : List String :=
  index.fields.filterMap fun id => (schema.fieldById id).map Field.name

def typeName (types : HashMap String String) (index : ManifestIndex) : String :=
  (types.lookup index.name).getD "Unknown"

def replaceQuotes (text : String) : String := String.ofList (escapeQuotes text.toList)

def columnsJson (columns : List String) : String :=
  ",".intercalate (columns.map fun column => "\"" ++ replaceQuotes column ++ "\"")

def indexEntry (schema : Schema) (types : HashMap String String) (index : ManifestIndex) : String :=
  String.join ["\x7b\"name\":\"", replaceQuotes index.name, "\",\"uuid\":\"", index.uuid.text, "\",\"columns\":[",
    columnsJson (columnNames schema index), "],\"type\":\"", typeName types index, "\",\"dataset_version\":",
    index.datasetVersion.repr, "\x7d"]

/-- The indexes that the listing shows. -/
def userIndices (catalog : IndexCatalog) (indices : List ManifestIndex) : List ManifestIndex :=
  indices.filter fun index => !catalog.isSystemIndex index

def listingText (schema : Schema) (types : HashMap String String) (listed : List ManifestIndex) : String :=
  "[" ++ ",".intercalate (listed.map (indexEntry schema types)) ++ "]"

/-- `none` in the result is NULL: a text with a NUL byte is no C string. -/
def indexListJsonInner (catalog : IndexCatalog) (dataset : Option LanceDataset) :
    Except LanceError (Option String) :=
  match dataset with
  | none => .error (.invalidInput "dataset is NULL")
  | some handle => do
    let snapshot := handle.snapshot.value
    let indices ← catalog.loadIndices snapshot
    let descriptions ← catalog.describeIndices snapshot
    let json := listingText snapshot.schema (typeByName descriptions) (userIndices catalog indices)
    return if Char.ofNat 0 ∈ json.toList then none else some json

/-- One index as a reader of the listing sees it. -/
structure IndexEntry where
  name : String
  uuid : Uuid
  columns : List String
  type : String
  datasetVersion : Nat
  deriving DecidableEq, Repr

def describedEntry (schema : Schema) (types : HashMap String String) (index : ManifestIndex) : IndexEntry :=
  ⟨index.name, index.uuid, columnNames schema index, typeName types index, index.datasetVersion⟩

def decodeColumns (json : Json) : Option (List String) := do
  (← json.asArray).mapM Json.asString

def decodeEntry (json : Json) : Option IndexEntry := do
  let name ← (← json.member "name").asString
  let uuid ← Uuid.ofText (← (← json.member "uuid").asString)
  let columns ← decodeColumns (← json.member "columns")
  let type ← (← json.member "type").asString
  let datasetVersion ← (← json.member "dataset_version").asNat
  some { name, uuid, columns, type, datasetVersion }

def decodeListing (text : String) : Option (List IndexEntry) := do
  (← (← Json.parse text.toList).asArray).mapM decodeEntry

end LanceC.Index
