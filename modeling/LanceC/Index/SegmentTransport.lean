import LanceC.Index.SegmentMetadata
import LanceC.Index.VectorBuilder

/-! What a process reads from the metadata bytes that another one's build returned. -/

namespace LanceC.Index

open Logic Machine

variable {Rest : Type} {codec : MetadataCodec Rest}

/-- The bytes of a record, as `execute_uncommitted` makes them. -/
def MetadataCodec.bytes (codec : MetadataCodec Rest) (record : SegmentRecord) : List UInt8 :=
  codec.encodeToVec (codec.ofMetadata record)

/-- The codec carries a record: prost decodes what it has encoded, Lance converts its own message
back, and the message, which has a UUID in it, is neither empty nor too long for a slice. -/
structure MetadataCodec.Carries [Target] (codec : MetadataCodec Rest) (record : SegmentRecord) : Prop where
  decode : codec.decode (codec.bytes record) = .ok (codec.ofMetadata record)
  tryFrom : codec.tryFrom (codec.ofMetadata record) = .ok record
  nonempty : codec.bytes record ≠ []
  addressable : (codec.bytes record).length ≤ isizeMax

/-- The ranges that a decoded message has to keep. -/
structure MetadataCodec.InRange (codec : MetadataCodec Rest) (proto : SegmentProto Rest) : Prop where
  createdAt : ∀ createdAt ∈ proto.createdAt, createdAt < 2 ^ 63 ∧ codec.fromTimestampMillis createdAt = true
  indexVersion : ∀ indexVersion ∈ proto.indexVersion, 0 ≤ indexVersion
  fields : ∀ fieldId ∈ proto.fields, 0 ≤ fieldId

/-- The texts that the parsed handle lends are C strings. -/
structure SegmentRecord.Lendable (record : SegmentRecord) : Prop where
  name : nul ∉ record.name.toList
  typeUrl : ∀ details ∈ record.indexDetails, nul ∉ details.typeUrl.toList

/-- The handle of a record. -/
def LanceIndexSegmentMetadata.ofRecord (record : SegmentRecord) : LanceIndexSegmentMetadata where
  metadata := record
  name := record.name
  indexDetailsTypeUrl := record.indexDetails.map AnyMessage.typeUrl
  fragmentIds := (record.fragmentBitmap.map bitmapIter).getD []

/-- The pointer shows these bytes. -/
structure BytePointer.Shows (pointer : BytePointer) (bytes : List UInt8) : Prop where
  given : pointer.address ≠ 0
  slice : pointer.slice bytes.length = bytes

section Decoding

theorem checkCreatedAt_ok {createdAt : Option Nat} {done : Unit} : checkCreatedAt codec createdAt = .ok done ↔
    ∀ value ∈ createdAt, value < 2 ^ 63 ∧ codec.fromTimestampMillis value = true := by
  cases createdAt with
  | none => simp [checkCreatedAt]
  | some value => simp [checkCreatedAt, bind_eq_ok]

theorem checkIndexVersion_ok {indexVersion : Option Int} {done : Unit} : checkIndexVersion indexVersion = .ok done ↔
    ∀ value ∈ indexVersion, 0 ≤ value := by
  cases indexVersion with
  | none => simp [checkIndexVersion]
  | some value => simp [checkIndexVersion]

theorem checkFieldIds_ok {fields : List Int} {done : Unit} :
    checkFieldIds fields = .ok done ↔ ∀ fieldId ∈ fields, 0 ≤ fieldId := by
  unfold checkFieldIds
  split
  · next none =>
    have absent := List.find?_eq_none.mp none
    refine iff_of_true rfl fun fieldId member => ?_
    obtain ⟨position, inside, same⟩ := List.getElem_of_mem member
    have entry : (fieldId, position) ∈ fields.zipIdx := by
      rw [List.mem_zipIdx_iff_getElem?, ← same]
      exact List.getElem?_eq_getElem inside
    simpa using absent _ entry
  · next fieldId position found =>
    have negative : fieldId < 0 := by simpa using List.find?_some found
    have entry := List.mem_zipIdx_iff_getElem?.mp (List.mem_of_find?_eq_some found)
    refine iff_of_false nofun fun nonnegative => ?_
    exact absurd (nonnegative fieldId (List.mem_of_getElem? entry)) (not_le.mpr negative)

/-- Bytes are accepted that decode to a message in range which Lance converts. -/
theorem decodeSegmentMetadata_ok {bytes : List UInt8} {record : SegmentRecord} :
    decodeSegmentMetadata codec bytes = .ok record ↔
      ∃ proto, codec.decode bytes = .ok proto ∧ codec.InRange proto ∧ codec.tryFrom proto = .ok record := by
  unfold decodeSegmentMetadata
  cases codec.decode bytes with
  | error error => simp
  | ok proto =>
    simp only [bind_eq_ok, checkCreatedAt_ok, checkIndexVersion_ok, checkFieldIds_ok, Except.ok.injEq,
      exists_eq_left']
    constructor
    · rintro ⟨_, created, _, version, _, ids, converted⟩
      exact ⟨⟨created, version, ids⟩, converted⟩
    · rintro ⟨⟨created, version, ids⟩, converted⟩
      exact ⟨(), created, (), version, (), ids, converted⟩

/-- Of a record's own bytes the ranges decide. -/
theorem decodeSegmentMetadata_bytes [Target] {record decoded : SegmentRecord} (carries : codec.Carries record) :
    decodeSegmentMetadata codec (codec.bytes record) = .ok decoded ↔
      codec.InRange (codec.ofMetadata record) ∧ decoded = record := by
  rw [decodeSegmentMetadata_ok, carries.decode]
  simp [carries.tryFrom, eq_comm]

theorem cStringNew_ok {value text : String} {error : LanceError} :
    cStringNew value error = .ok text ↔ nul ∉ value.toList ∧ value = text := by
  simp [cStringNew, bind_eq_ok, pure, Except.pure]

theorem detailsTypeUrl_ok {details : Option AnyMessage} {typeUrl : Option String} :
    detailsTypeUrl details = .ok typeUrl ↔
      (∀ message ∈ details, nul ∉ message.typeUrl.toList) ∧ details.map AnyMessage.typeUrl = typeUrl := by
  cases details with
  | none => simp [detailsTypeUrl]
  | some message => simp [detailsTypeUrl, bind_eq_ok, cStringNew_ok, pure, Except.pure]

/-- The bytes of a build are parsed exactly where they can be represented. -/
theorem parseMetadataInner_bytes [Target] {record : SegmentRecord} {pointer : BytePointer} {outAddress : Nat}
    {handle : LanceIndexSegmentMetadata} (carries : codec.Carries record)
    (shows : pointer.Shows (codec.bytes record)) (out : outAddress ≠ 0) :
    parseMetadataInner codec pointer (codec.bytes record).length outAddress = .ok handle ↔
      (codec.InRange (codec.ofMetadata record) ∧ record.Lendable) ∧ handle = .ofRecord record := by
  have given : ¬(pointer.address = 0 ∨ (codec.bytes record).length = 0 ∨ outAddress = 0) := by
    simp [shows.given, carries.nonempty, out]
  simp only [parseMetadataInner, bind_eq_ok, refuseIf_ok, given, not_false_eq_true, not_lt, carries.addressable,
    shows.slice, decodeSegmentMetadata_bytes carries, cStringNew_ok, detailsTypeUrl_ok, pure, Except.pure,
    Except.ok.injEq]
  constructor
  · rintro ⟨_, _, _, _, _, ⟨inRange, rfl⟩, _, ⟨clean, rfl⟩, _, ⟨url, rfl⟩, rfl⟩
    exact ⟨⟨inRange, clean, url⟩, rfl⟩
  · rintro ⟨⟨inRange, clean, url⟩, rfl⟩
    exact ⟨(), trivial, (), trivial, _, ⟨inRange, rfl⟩, _, ⟨clean, rfl⟩, _, ⟨url, rfl⟩, rfl⟩

end Decoding

section Lists

variable {α : Type} {label : String} {read : LanceIndexSegmentMetadata → List α}
  {metadata : LanceIndexSegmentMetadata} {capacity : Nat} {slots next : ListSlots α}

theorem bitmapIter_ascending (bitmap : List Nat) : (bitmapIter bitmap).Pairwise (· < ·) := by
  have sorted : (bitmapIter bitmap).Pairwise (· ≤ ·) := List.pairwise_mergeSort' _ _
  have distinct : (bitmapIter bitmap).Nodup := (List.mergeSort_perm _ _).nodup_iff.mpr (List.nodup_dedup bitmap)
  exact (sorted.and distinct).imp fun ⟨ordered, different⟩ => lt_of_le_of_ne ordered different

@[simp] theorem mem_bitmapIter {bitmap : List Nat} {id : Nat} : id ∈ bitmapIter bitmap ↔ id ∈ bitmap := by
  simp [bitmapIter]

/-- A list is copied where it fits; then the buffer starts with it, and is as before behind it. -/
theorem copyList_ok : copyList label read (some metadata) capacity slots = .ok next ↔
    slots.count.isSome ∧ (read metadata).length ≤ capacity ∧ (slots.buffer = none → read metadata = []) ∧
      next = ⟨slots.buffer.map (copyInto (read metadata)), some (read metadata).length⟩ := by
  obtain ⟨buffer, count⟩ := slots
  cases count with
  | none => simp [copyList]
  | some value =>
    by_cases fits : capacity < (read metadata).length
    · simp [copyList, fits]
    · cases buffer with
      | none =>
        by_cases empty : read metadata = []
        · simp [copyList, empty, eq_comm]
        · simp [copyList, fits, empty]
      | some buffer => simp [copyList, fits, not_lt.mp fits, eq_comm]

/-- The copy stays within the buffer and leaves what is behind the list. -/
theorem copyInto_fits {items buffer : List α} (fits : items.length ≤ buffer.length) :
    (copyInto items buffer).length = buffer.length ∧ (copyInto items buffer).take items.length = items ∧
      (copyInto items buffer).drop items.length = buffer.drop items.length := by
  unfold copyInto
  refine ⟨?_, ?_, ?_⟩
  · rw [List.length_append, List.length_drop]
    omega
  · exact List.take_left
  · exact List.drop_left

end Lists

section TypeCodes

/-- The message in which Lance describes a scalar index. -/
def LanceScalarIndexType.detailsName : LanceScalarIndexType → String
  | bTree => "BTreeIndexDetails"
  | bitmap => "BitmapIndexDetails"
  | labelList => "LabelListIndexDetails"
  | inverted => "InvertedIndexDetails"

def AnyMessage.DescribesScalar (details : AnyMessage) (scalarType : LanceScalarIndexType) : Prop :=
  endsWith details.typeUrl scalarType.detailsName = true

/-- The details of a vector index: an HNSW graph and a quantizer where its type has them. -/
structure VectorIndexDetails.Describes (details : VectorIndexDetails) (indexType : LanceVectorIndexType) : Prop where
  hnsw : details.hnswIndexConfig = true ↔ indexType.UsesHnsw
  pq : details.compression = some .pq ↔ indexType.UsesPq
  sq : details.compression = some .sq ↔ indexType.UsesSq
  known : details.compression ≠ some .rq

def AnyMessage.DescribesVector (codec : MetadataCodec Rest) (details : AnyMessage)
    (indexType : LanceVectorIndexType) : Prop :=
  endsWith details.typeUrl "VectorIndexDetails" = true ∧
    ∃ vector, codec.decodeVectorDetails details.value = .ok vector ∧ vector.Describes indexType

/-- A text has at most one of two endings of which neither ends with the other. -/
theorem endsWith_apart {text ending other : String} (ends : endsWith text ending = true)
    (apart : endsWith ending other = false ∧ endsWith other ending = false) : endsWith text other = false := by
  unfold endsWith at ends apart ⊢
  by_contra both
  rw [Bool.not_eq_false] at both
  rw [List.isSuffixOf_iff_suffix] at ends both
  rcases List.suffix_or_suffix_of_suffix ends both with inner | inner
  · exact absurd (List.isSuffixOf_iff_suffix.mpr inner) (by rw [apart.2]; decide)
  · exact absurd (List.isSuffixOf_iff_suffix.mpr inner) (by rw [apart.1]; decide)

variable {metadata : LanceIndexSegmentMetadata} {details : AnyMessage} {code : Int}

theorem fromC_code {scalarType : LanceScalarIndexType} (created : LanceScalarIndexType.fromC code = .ok scalarType) :
    code = scalarType.code := by
  unfold LanceScalarIndexType.fromC at created
  split at created <;> cases created <;> rfl

/-- The type that a scalar builder was created with is read back. -/
theorem metadataIndexType_scalar {scalarType : LanceScalarIndexType}
    (created : LanceScalarIndexType.fromC code = .ok scalarType) (given : metadata.metadata.indexDetails = some details)
    (describes : details.DescribesScalar scalarType) : metadataIndexTypeInner codec (some metadata) = .ok code := by
  have others : ∀ other, other ≠ scalarType → endsWith details.typeUrl other.detailsName = false := by
    intro other different
    apply endsWith_apart describes
    revert different
    cases scalarType <;> cases other <;> decide
  obtain rfl := fromC_code created
  unfold AnyMessage.DescribesScalar at describes
  have first := others .bTree
  have second := others .bitmap
  have third := others .labelList
  cases scalarType <;>
    simp_all [metadataIndexTypeInner, LanceScalarIndexType.detailsName, LanceScalarIndexType.code]

theorem vectorDetailsType_describes {indexType : LanceVectorIndexType} {vector : VectorIndexDetails}
    (created : LanceVectorIndexType.fromC code = .ok indexType) (describes : vector.Describes indexType) :
    vectorDetailsType vector = .ok code := by
  obtain ⟨hnsw, compression⟩ := vector
  obtain ⟨graph, pq, sq, known⟩ := describes
  dsimp only at graph pq sq known
  unfold LanceVectorIndexType.fromC at created
  split at created
  case h_7 => cases created
  all_goals
    cases created
    rcases hnsw with _ | _ <;> rcases compression with _ | _ | _ | _ | _ <;>
      simp_all [vectorDetailsType, LanceVectorIndexType.UsesHnsw, LanceVectorIndexType.UsesPq,
        LanceVectorIndexType.UsesSq]

/-- So is the type of a vector builder. -/
theorem metadataIndexType_vector {indexType : LanceVectorIndexType}
    (created : LanceVectorIndexType.fromC code = .ok indexType) (given : metadata.metadata.indexDetails = some details)
    (describes : details.DescribesVector codec indexType) :
    metadataIndexTypeInner codec (some metadata) = .ok code := by
  obtain ⟨ends, vector, decoded, same⟩ := describes
  have others : ∀ scalarType : LanceScalarIndexType, endsWith details.typeUrl scalarType.detailsName = false := by
    intro scalarType
    apply endsWith_apart ends
    cases scalarType <;> decide
  have first := others .bTree
  have second := others .bitmap
  have third := others .labelList
  have fourth := others .inverted
  unfold LanceScalarIndexType.detailsName at first second third fourth
  simp only [metadataIndexTypeInner, given, first, second, third, fourth, ends, decoded, if_true, Bool.false_eq_true,
    if_false]
  exact vectorDetailsType_describes created same

end TypeCodes

section RoundTrip

/-- A list is handed out whole: within the capacity, with its length in the count's slot, into a
buffer that may be missing for no entries only, and with nothing behind it in the buffer changed. -/
structure Fills {α : Type} (items : List α) (capacity : Nat) (slots next : ListSlots α) : Prop where
  fits : items.length ≤ capacity
  count : next.count = some items.length
  null : slots.buffer = none → items = [] ∧ next.buffer = none
  whole : ∀ buffer ∈ slots.buffer, capacity ≤ buffer.length → ∃ filled ∈ next.buffer, filled.length = buffer.length ∧
    filled.take items.length = items ∧ filled.drop items.length = buffer.drop items.length

theorem copyList_fills {α : Type} {label : String} {read : LanceIndexSegmentMetadata → List α}
    {metadata : LanceIndexSegmentMetadata} {capacity : Nat} {slots next : ListSlots α}
    (copied : copyList label read (some metadata) capacity slots = .ok next) :
    Fills (read metadata) capacity slots next := by
  obtain ⟨_, fits, empty, rfl⟩ := copyList_ok.mp copied
  refine ⟨fits, rfl, fun missing => ⟨empty missing, ?_⟩, fun buffer given room =>
    ⟨copyInto (read metadata) buffer, ?_, copyInto_fits (fits.trans room)⟩⟩
  · rw [missing]
    rfl
  · rw [Option.mem_def.mp given]
    rfl

/-- The fragments of a record, ascending. -/
def SegmentRecord.Covers (record : SegmentRecord) (ids : List Nat) : Prop :=
  ids.Pairwise (· < ·) ∧ ∀ id, id ∈ ids ↔ ∃ bitmap ∈ record.fragmentBitmap, id ∈ bitmap

theorem covers_ofRecord (record : SegmentRecord) :
    record.Covers (LanceIndexSegmentMetadata.ofRecord record).fragmentIds := by
  unfold SegmentRecord.Covers LanceIndexSegmentMetadata.ofRecord
  cases record.fragmentBitmap with
  | none => simp
  | some bitmap => exact ⟨bitmapIter_ascending bitmap, by simp⟩

/-- The accessors of a handle report a record. -/
structure LanceIndexSegmentMetadata.Reports (codec : MetadataCodec Rest) (handle : LanceIndexSegmentMetadata)
    (record : SegmentRecord) : Prop where
  uuid : ∃ bytes, metadataUuidInner (some handle) false = .ok bytes ∧ bytes.length = 16 ∧
    Uuid.fromBytes bytes = record.uuid
  name : metadataName (some handle) = .ok record.name
  datasetVersion : metadataDatasetVersion (some handle) = .ok record.datasetVersion
  indexVersion : metadataIndexVersion (some handle) = .ok record.indexVersion
  typeUrl : ∀ details ∈ record.indexDetails, metadataTypeUrl (some handle) = .ok details.typeUrl
  scalarType : ∀ details ∈ record.indexDetails, ∀ code scalarType,
    LanceScalarIndexType.fromC code = .ok scalarType → details.DescribesScalar scalarType →
      metadataIndexTypeInner codec (some handle) = .ok code
  vectorType : ∀ details ∈ record.indexDetails, ∀ code indexType,
    LanceVectorIndexType.fromC code = .ok indexType → details.DescribesVector codec indexType →
      metadataIndexTypeInner codec (some handle) = .ok code
  fields : metadataFieldCount (some handle) = .ok record.fields.length ∧ ∀ capacity slots next,
    metadataFieldIdsInner (some handle) capacity slots = .ok next → Fills record.fields capacity slots next
  fragments : ∃ ids, record.Covers ids ∧ metadataFragmentCount (some handle) = .ok ids.length ∧
    ∀ capacity slots next,
      metadataFragmentIdsInner (some handle) capacity slots = .ok next → Fills ids capacity slots next

theorem reports_ofRecord (record : SegmentRecord) :
    (LanceIndexSegmentMetadata.ofRecord record).Reports codec record where
  uuid := ⟨record.uuid.toBytes, rfl, Uuid.length_toBytes _, Uuid.fromBytes_toBytes _⟩
  name := rfl
  datasetVersion := rfl
  indexVersion := rfl
  typeUrl details given := by
    simp [metadataTypeUrl, LanceIndexSegmentMetadata.ofRecord, Option.mem_def.mp given]
  scalarType details given code scalarType created describes := metadataIndexType_scalar created given describes
  vectorType details given code indexType created describes := metadataIndexType_vector created given describes
  fields := ⟨rfl, fun capacity slots next => copyList_fills⟩
  fragments := ⟨_, covers_ofRecord record, rfl, fun capacity slots next => copyList_fills⟩

/-- A BTree segment of field 0 over fragments 0 and 2. -/
def sampleSegment : SegmentRecord where
  uuid := 7
  name := "id_idx"
  keyedField := some 0
  fragmentBitmap := some [2, 0]
  files := none
  fields := [0]
  datasetVersion := 3
  indexDetails := some ⟨"/lance.table.BTreeIndexDetails", []⟩
  indexVersion := 0

/-- A codec that knows the bytes of one segment. -/
def sampleCodec : MetadataCodec SegmentRecord where
  encodeToVec proto := if proto.rest = sampleSegment then [10] else [11]
  decode bytes :=
    if bytes = [10] then .ok ⟨[0], some 0, none, sampleSegment⟩ else .error "invalid wire type"
  ofMetadata record := ⟨record.fields, some record.indexVersion, none, record⟩
  tryFrom proto := .ok proto.rest
  fromTimestampMillis _ := true
  decodeVectorDetails _ := .error "buffer underflow"

theorem sampleCodec_carries : @MetadataCodec.Carries _ target64 sampleCodec sampleSegment := by
  let _ := target64
  exact ⟨rfl, rfl, by decide, by decide⟩

def samplePointer : BytePointer := ⟨4096, fun _ => 10⟩

theorem samplePointer_shows : samplePointer.Shows (sampleCodec.bytes sampleSegment) := ⟨by decide, rfl⟩

end RoundTrip

end LanceC.Index
