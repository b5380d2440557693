import LanceC.Fts.SegmentSelection
import LanceC.Index.SegmentBuilder
import Mathlib.Data.List.Dedup

/-! Segment metadata between the processes of a distributed index build: decoding, the parsed
handle and its accessors (index_segment.rs). The protobuf codec and Lance's conversion of its
messages are parameters. -/

namespace LanceC.Index

open Machine

/-- A protobuf `Any`. -/
structure AnyMessage where
  typeUrl : String
  value : List UInt8
  deriving DecidableEq, Repr

/-- A segment as Lance's table format has it. -/
structure SegmentRecord extends ManifestIndex where
  indexDetails : Option AnyMessage
  indexVersion : Int
  deriving DecidableEq, Repr

/-- `pb::IndexMetadata`: the fields that are checked before Lance converts it, and all others. -/
structure SegmentProto (Rest : Type) where
  fields : List Int
  indexVersion : Option Int
  createdAt : Option Nat
  rest : Rest

inductive Compression where
  | flat
  | sq
  | pq
  | rq
  deriving DecidableEq, Repr

structure VectorIndexDetails where
  hnswIndexConfig : Bool
  compression : Option Compression
  deriving DecidableEq, Repr

/-- What the C layer calls in prost, chrono and Lance; `fromTimestampMillis` tells the
timestamps that chrono can represent. -/
structure MetadataCodec (Rest : Type) where
  encodeToVec : SegmentProto Rest → List UInt8
  decode : List UInt8 → Except String (SegmentProto Rest)
  ofMetadata : SegmentRecord → SegmentProto Rest
  tryFrom : SegmentProto Rest → Except LanceError SegmentRecord
  fromTimestampMillis : Int → Bool
  decodeVectorDetails : List UInt8 → Except String VectorIndexDetails

/-- A `const uint8_t *` with the memory behind it; address 0 is NULL. -/
structure BytePointer where
  address : Nat
  read : Nat → UInt8

/-- `slice::from_raw_parts(pointer, len)`. -/
def BytePointer.slice (pointer : BytePointer) (len : Nat) : List UInt8 := (List.range len).map pointer.read

/-- `{:p}`. -/
def pointerText (address : Nat) : String := "0x" ++ String.ofList (Nat.toDigits 16 address)

/-- The ids of a `RoaringBitmap` in the order of its iterator. -/
def bitmapIter (bitmap : List Nat) : List Nat := bitmap.dedup.mergeSort

/-- The parsed handle, with the C strings that it lends. -/
structure LanceIndexSegmentMetadata where
  metadata : SegmentRecord
  name : String
  indexDetailsTypeUrl : Option String
  fragmentIds : List Nat
  deriving DecidableEq, Repr

variable {Rest : Type}

section Decoding

variable (codec : MetadataCodec Rest)

def checkCreatedAt : Option Nat → Except LanceError Unit
  | none => .ok ()
  | some createdAt => do
    refuseIf (2 ^ 63 ≤ createdAt) (.invalidInput
      s!"IndexMetadata created_at {createdAt} exceeds i64::MAX milliseconds")
    refuseIf (codec.fromTimestampMillis createdAt = false) (.invalidInput
      s!"IndexMetadata created_at {createdAt} is outside chrono's supported range")

def checkIndexVersion : Option Int → Except LanceError Unit
  | none => .ok ()
  | some indexVersion =>
    refuseIf (indexVersion < 0) (.invalidInput s!"IndexMetadata index_version must be >= 0, got {indexVersion}")

/-- The first negative field id, with its position. -/
def checkFieldIds (fields : List Int) : Except LanceError Unit :=
  match fields.zipIdx.find? fun entry => entry.1 < 0 with
  | none => .ok ()
  | some (fieldId, position) =>
    .error (.invalidInput s!"IndexMetadata fields[{position}] must be >= 0, got {fieldId}")

def decodeSegmentMetadata (bytes : List UInt8) : Except LanceError SegmentRecord :=
  match codec.decode bytes with
  | .error error => .error (.invalidInput s!"invalid IndexMetadata protobuf: {error}")
  | .ok proto => do
    checkCreatedAt codec proto.createdAt
    checkIndexVersion proto.indexVersion
    checkFieldIds proto.fields
    codec.tryFrom proto

/-- The C string of the details' type URL. -/
def detailsTypeUrl (details : Option AnyMessage) : Except LanceError (Option String) :=
  match details with
  | none => .ok none
  | some details => do
    return some (← cStringNew details.typeUrl (.invalidInput
      "index details type_url contains an embedded NUL byte"))

/-- `outAddress` is `out_metadata`, which receives the handle. -/
def parseMetadataInner [Target] (bytes : BytePointer) (len : Nat) (outAddress : Nat) :
    Except LanceError LanceIndexSegmentMetadata := do
  refuseIf (bytes.address = 0 ∨ len = 0 ∨ outAddress = 0) (.invalidInput (String.join
    ["bytes must be non-NULL, len must be > 0, and out_metadata must be non-NULL; bytes=", pointerText bytes.address,
      ", len=", toString len, ", out_metadata=", pointerText outAddress]))
  refuseIf (isizeMax < len) (.invalidInput s!"len {len} exceeds the maximum addressable byte slice length")
  let metadata ← decodeSegmentMetadata codec (bytes.slice len)
  let name ← cStringNew metadata.name (.invalidInput "index metadata name contains an embedded NUL byte")
  let indexDetailsTypeUrl ← detailsTypeUrl metadata.indexDetails
  let fragmentIds := (metadata.fragmentBitmap.map bitmapIter).getD []
  return { metadata, name, indexDetailsTypeUrl, fragmentIds }

end Decoding

section Accessors

variable {α : Type}

def metadataUuidInner (metadata : Option LanceIndexSegmentMetadata) (outNull : Bool) :
    Except LanceError (List Byte) :=
  match metadata, outNull with
  | some metadata, false => .ok metadata.metadata.uuid.toBytes
  | _, _ => .error (.invalidInput "metadata and out_uuid must not be NULL")

/-- The accessors that read one value and refuse a NULL handle. -/
def readMetadata (metadata : Option LanceIndexSegmentMetadata) (read : LanceIndexSegmentMetadata → α) :
    Except LanceError α :=
  match metadata with
  | none => .error (.invalidInput "metadata is NULL")
  | some metadata => .ok (read metadata)

def metadataName (metadata : Option LanceIndexSegmentMetadata) : Except LanceError String :=
  readMetadata metadata LanceIndexSegmentMetadata.name

def metadataDatasetVersion (metadata : Option LanceIndexSegmentMetadata) : Except LanceError Nat :=
  readMetadata metadata (·.metadata.datasetVersion)

def metadataIndexVersion (metadata : Option LanceIndexSegmentMetadata) : Except LanceError Int :=
  readMetadata metadata (·.metadata.indexVersion)

def metadataFieldCount (metadata : Option LanceIndexSegmentMetadata) : Except LanceError Nat :=
  readMetadata metadata (·.metadata.fields.length)

def metadataFragmentCount (metadata : Option LanceIndexSegmentMetadata) : Except LanceError Nat :=
  readMetadata metadata (·.fragmentIds.length)

def metadataTypeUrl (metadata : Option LanceIndexSegmentMetadata) : Except LanceError String :=
  match metadata with
  | none => .error (.invalidInput "metadata is NULL")
  | some metadata =>
    match metadata.indexDetailsTypeUrl with
    | none => .error ⟨.indexNotFound, "index metadata does not contain index_details"⟩
    | some typeUrl => .ok typeUrl

/-- `str::ends_with`. -/
def endsWith (text ending : String) : Bool := ending.toList.isSuffixOf text.toList

/-- The enum value of a vector index's details. -/
def vectorDetailsType (details : VectorIndexDetails) : Except LanceError Int :=
  match details.hnswIndexConfig, details.compression with
  | false, none | false, some .flat => .ok 101
  | false, some .sq => .ok 102
  | false, some .pq => .ok 103
  | true, some .sq => .ok 104
  | true, some .pq => .ok 105
  | true, none | true, some .flat => .ok 106
  | _, some .rq => .error ⟨.notSupported, "Rabit-quantized vector metadata has no LanceVectorIndexType value"⟩

def metadataIndexTypeInner (codec : MetadataCodec Rest) (metadata : Option LanceIndexSegmentMetadata) :
    Except LanceError Int :=
  match metadata with
  | none => .error (.invalidInput "metadata must not be NULL")
  | some metadata =>
    match metadata.metadata.indexDetails with
    | none => .error (.invalidInput "index metadata does not contain index_details")
    | some details =>
      if endsWith details.typeUrl "BTreeIndexDetails" then .ok 1
      else if endsWith details.typeUrl "BitmapIndexDetails" then .ok 2
      else if endsWith details.typeUrl "LabelListIndexDetails" then .ok 3
      else if endsWith details.typeUrl "InvertedIndexDetails" then .ok 4
      else if endsWith details.typeUrl "VectorIndexDetails" then
        match codec.decodeVectorDetails details.value with
        | .error error => .error (.invalidInput s!"invalid VectorIndexDetails protobuf: {error}")
        | .ok details => vectorDetailsType details
      else .error ⟨.notSupported, s!"unsupported index_details type_url '{details.typeUrl}'"⟩

/-- What the caller passes for a list: its buffer, `none` where that is NULL, and the slot of
the count, `none` where that is NULL. -/
structure ListSlots (α : Type) where
  buffer : Option (List α)
  count : Option Nat
  deriving DecidableEq, Repr

/-- `ptr::copy_nonoverlapping` to the start of a buffer, which has room for the items. -/
def copyInto (items buffer : List α) : List α := items ++ buffer.drop items.length

/-- The copy of a list into a buffer of `capacity` elements, all or nothing. -/
def copyList (label : String) (read : LanceIndexSegmentMetadata → List α) (metadata : Option LanceIndexSegmentMetadata)
    (capacity : Nat) (slots : ListSlots α) : Except LanceError (ListSlots α) :=
  match metadata, slots.count with
  | some metadata, some _ =>
    let items := read metadata
    if capacity < items.length then
      .error (.invalidInput s!"capacity {capacity} is smaller than {label}_count {items.length}")
    else
      match slots.buffer with
      | none =>
        if items ≠ [] then .error (.invalidInput s!"out_{label}_ids is NULL but {label}_count is {items.length}")
        else .ok { slots with count := some items.length }
      | some buffer => .ok { buffer := some (copyInto items buffer), count := some items.length }
  | _, _ => .error (.invalidInput "metadata and out_count must not be NULL")

def metadataFieldIdsInner (metadata : Option LanceIndexSegmentMetadata) (capacity : Nat) (slots : ListSlots Int) :
    Except LanceError (ListSlots Int) :=
  copyList "field" (·.metadata.fields) metadata capacity slots

def metadataFragmentIdsInner (metadata : Option LanceIndexSegmentMetadata) (capacity : Nat) (slots : ListSlots Nat) :
    Except LanceError (ListSlots Nat) :=
  copyList "fragment" LanceIndexSegmentMetadata.fragmentIds metadata capacity slots

end Accessors

end LanceC.Index
