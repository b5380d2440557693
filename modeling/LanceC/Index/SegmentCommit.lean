import LanceC.Index.SegmentTransport
import LanceC.Machine.Body

/-! The two ends of a distributed index build: the scalar segment builder's constructor and the
commit of the segments that other processes built (index_segment.rs). -/

namespace LanceC.Index

open Ffi Logic Machine

variable {Rest Value Callback Context Gate : Type}

/-- A builder of this API, whose vector models are injected arrays. -/
abbrev SegmentBuilder (Callback Context Gate Value : Type) :=
  LanceIndexSegmentBuilder Callback Context Gate (Option Value) (List (Option Value))

/-- `dataset` is a NULL handle or its snapshot. -/
def newScalarBuilderInner [Target] (dataset : Option Dataset) (column indexName : CString) (indexType : Int)
    (paramsJson : CString) (options : Option (LanceIndexSegmentBuildOptions Value)) :
    Except LanceError (SegmentBuilder Callback Context Gate Value) :=
  match dataset with
  | none => .error (.invalidInput "dataset and column must not be NULL")
  | some dataset => do
    refuseIf (column = .null) (.invalidInput "dataset and column must not be NULL")
    let column ← parseColumn column
    let indexName ← parseCString indexName
    let paramsJson ← parseCString paramsJson
    let scalarType ← LanceScalarIndexType.fromC indexType
    let parsed ← parseOptions options dataset true
    return .new dataset column indexName (.scalar scalarType paramsJson) parsed.fragmentIds parsed.indexUuid

/-- What a commit meets: Lance's own, the printing of its errors, the snapshots that are alive
elsewhere and the memory of the next one. -/
structure CommitUpstream where
  commitExistingIndexSegments : String → String → List SegmentRecord → Mutation Unit
  display : LanceError → String
  held : List (Arc Dataset)
  allocator : Allocator

/-- The segments of a commit as the caller passes them; a NULL array is `none`. -/
structure SegmentSlots where
  bytes : Option (List BytePointer)
  lens : Option (List Nat)
  count : Nat

/-- A name that is neither NULL nor empty. -/
def requireName (name : CString) (label : String) : Except LanceError String :=
  requireText name s!"{label} must not be NULL or empty"

section Commit

variable [Target] (codec : MetadataCodec Rest) (upstream : CommitUpstream)

def decodeSlot (slot : (BytePointer × Nat) × Nat) : Except LanceError SegmentRecord := do
  refuseIf (slot.1.1.address = 0 ∨ slot.1.2 = 0) (.invalidInput (String.join
    ["segment_metadata_bytes[", toString slot.2, "] must be non-NULL and segment_metadata_lens[", toString slot.2,
      "] must be > 0; bytes=", pointerText slot.1.1.address, ", len=", toString slot.1.2]))
  refuseIf (isizeMax < slot.1.2) (.invalidInput
    s!"segment_metadata_lens[{slot.2}]={slot.1.2} exceeds the maximum addressable byte slice length")
  match decodeSegmentMetadata codec (slot.1.1.slice slot.1.2) with
  | .ok metadata => return metadata
  | .error error => .error (.invalidInput s!"segment_metadata_bytes[{slot.2}]: {upstream.display error}")

/-- The segments in the order of the caller's arrays. -/
def decodeSlots (slots : SegmentSlots) : Except LanceError (List SegmentRecord) := do
  refuseIf (slots.count = 0) (.invalidInput
    "segment_count must be > 0; at least one index segment is required to commit an index")
  match slots.bytes, slots.lens with
  | some bytes, some lens =>
    refuseIf (isizeMax / (Target.usizeBits / 8) < slots.count) (.invalidInput
      s!"segment_count {slots.count} exceeds the maximum addressable pointer slice length")
    (((bytes.take slots.count).zip (lens.take slots.count)).zipIdx).mapM (decodeSlot codec upstream)
  | _, _ => .error (.invalidInput
      s!"segment_metadata_bytes and segment_metadata_lens must not be NULL when segment_count is {slots.count}")

/-- `with_mut` around Lance's commit. -/
def commitSegments (handle : LanceDataset) (indexName column : String) (segments : List SegmentRecord) :
    Unwind (Except LanceError Unit) × LanceDataset :=
  handle.withMut upstream.held upstream.allocator (upstream.commitExistingIndexSegments indexName column segments)

/-- The state is the handle behind `dataset`, if that is not NULL. -/
def commitIndexSegmentsInner (indexName column : CString) (slots : SegmentSlots) :
    Body (Option LanceDataset) LanceError Int := do
  match ← Body.get with
  | none => Body.ofExcept (.error (.invalidInput "dataset, index_name, and column must not be NULL"))
  | some handle =>
    Body.ofExcept (refuseIf (indexName = .null ∨ column = .null)
      (.invalidInput "dataset, index_name, and column must not be NULL"))
    let indexName ← Body.ofExcept (requireName indexName "index_name")
    let column ← Body.ofExcept (requireName column "column")
    let segments ← Body.ofExcept (decodeSlots codec upstream slots)
    fun _ =>
      let (outcome, next) := commitSegments upstream handle indexName column segments
      (outcome, some next)
    return 0

end Commit

section Spec

variable [Target] {codec : MetadataCodec Rest} {upstream : CommitUpstream}

omit [Target] in
theorem requireName_text {label name : String} (given : name ≠ "") :
    requireName (.text name) label = .ok name := by
  simp [requireName, requireText, parseCString, bind, Except.bind, refuseIf, given, pure, Except.pure]

/-- The caller's arrays show some payloads, in their order. -/
structure SegmentSlots.Show (slots : SegmentSlots) (payloads : List (List UInt8)) : Prop where
  bytes : ∃ pointers, slots.bytes = some pointers ∧ List.Forall₂ BytePointer.Shows pointers payloads
  lens : slots.lens = some (payloads.map List.length)
  count : slots.count = payloads.length
  nonempty : payloads ≠ []
  addressable : payloads.length ≤ isizeMax / (Target.usizeBits / 8)

theorem decodeSlot_shows {pointer : BytePointer} {record : SegmentRecord} {position : Nat}
    (carries : codec.Carries record) (shows : pointer.Shows (codec.bytes record)) :
    (codec.InRange (codec.ofMetadata record) →
      decodeSlot codec upstream ((pointer, (codec.bytes record).length), position) = .ok record) ∧
    (¬codec.InRange (codec.ofMetadata record) → ∃ refusal,
      decodeSegmentMetadata codec (codec.bytes record) = .error refusal ∧
      decodeSlot codec upstream ((pointer, (codec.bytes record).length), position) =
        .error (.invalidInput s!"segment_metadata_bytes[{position}]: {upstream.display refusal}")) := by
  have given : ¬(pointer.address = 0 ∨ (codec.bytes record).length = 0) := by
    simp [shows.given, carries.nonempty]
  have short : ¬isizeMax < (codec.bytes record).length := not_lt.mpr carries.addressable
  simp only [decodeSlot, refuseIf, given, short, if_false, shows.slice]
  constructor
  · intro inRange
    rw [(decodeSegmentMetadata_bytes carries).mpr ⟨inRange, rfl⟩]
    rfl
  · intro outside
    cases decoded : decodeSegmentMetadata codec (codec.bytes record) with
    | ok other => exact absurd ((decodeSegmentMetadata_bytes carries).mp decoded).1 outside
    | error refusal => exact ⟨refusal, rfl, rfl⟩

/-- The first record out of range stops the decoding, under its own position. -/
def Refused (codec : MetadataCodec Rest) (upstream : CommitUpstream) (start : Nat) (records : List SegmentRecord)
    (error : LanceError) : Prop :=
  ∃ before record after refusal, records = before ++ record :: after ∧
    (∀ earlier ∈ before, codec.InRange (codec.ofMetadata earlier)) ∧ ¬codec.InRange (codec.ofMetadata record) ∧
    decodeSegmentMetadata codec (codec.bytes record) = .error refusal ∧
    error = .invalidInput s!"segment_metadata_bytes[{start + before.length}]: {upstream.display refusal}"

theorem decodeSlot_mapM {pointers : List BytePointer} {records : List SegmentRecord} (start : Nat)
    (carries : ∀ record ∈ records, codec.Carries record)
    (shows : List.Forall₂ (fun pointer record => pointer.Shows (codec.bytes record)) pointers records) :
    ((∀ record ∈ records, codec.InRange (codec.ofMetadata record)) →
      ((pointers.zip (records.map fun record => (codec.bytes record).length)).zipIdx start).mapM
        (decodeSlot codec upstream) = .ok records) ∧
    (¬(∀ record ∈ records, codec.InRange (codec.ofMetadata record)) → ∃ error,
      ((pointers.zip (records.map fun record => (codec.bytes record).length)).zipIdx start).mapM
        (decodeSlot codec upstream) = .error error ∧ Refused codec upstream start records error) := by
  induction shows generalizing start with
  | nil => exact ⟨fun _ => rfl, fun outside => absurd (by simp) outside⟩
  | @cons pointer record pointers records first rest ih =>
    obtain ⟨here, others⟩ := List.forall_mem_cons.mp carries
    obtain ⟨accepted, refused⟩ := @decodeSlot_shows _ _ codec upstream _ _ start here first
    obtain ⟨passed, failed⟩ := ih (start + 1) others
    simp only [List.map_cons, List.zip_cons_cons, List.zipIdx_cons, List.mapM_cons]
    constructor
    · intro inRange
      obtain ⟨head, tail⟩ := List.forall_mem_cons.mp inRange
      rw [accepted head, passed tail]
      rfl
    · intro outside
      by_cases head : codec.InRange (codec.ofMetadata record)
      · obtain ⟨error, stopped, before, bad, after, refusal, rfl, clean, broken, decoded, rfl⟩ :=
          failed fun tail => outside (List.forall_mem_cons.mpr ⟨head, tail⟩)
        rw [accepted head, stopped]
        refine ⟨_, rfl, record :: before, bad, after, refusal, rfl, List.forall_mem_cons.mpr ⟨head, clean⟩, broken,
          decoded, ?_⟩
        rw [List.length_cons, Nat.add_right_comm, Nat.add_assoc]
      · obtain ⟨refusal, decoded, stopped⟩ := refused head
        rw [stopped]
        exact ⟨_, rfl, [], record, records, refusal, rfl, by simp, head, decoded, rfl⟩

theorem decodeSlots_show {slots : SegmentSlots} {records : List SegmentRecord}
    (carries : ∀ record ∈ records, codec.Carries record) (shown : slots.Show (records.map codec.bytes)) :
    ((∀ record ∈ records, codec.InRange (codec.ofMetadata record)) →
      decodeSlots codec upstream slots = .ok records) ∧
    (¬(∀ record ∈ records, codec.InRange (codec.ofMetadata record)) → ∃ error,
      decodeSlots codec upstream slots = .error error ∧ Refused codec upstream 0 records error) := by
  obtain ⟨pointers, given, shows⟩ := shown.bytes
  have decoded : decodeSlots codec upstream slots =
      ((pointers.zip (records.map fun record => (codec.bytes record).length)).zipIdx).mapM
        (decodeSlot codec upstream) := by
    have some : (records.map codec.bytes).length ≠ 0 := fun none => shown.nonempty (List.length_eq_zero_iff.mp none)
    have room : ¬isizeMax / (Target.usizeBits / 8) < (records.map codec.bytes).length := not_lt.mpr shown.addressable
    have whole : pointers.take (records.map codec.bytes).length = pointers :=
      List.take_of_length_le shows.length_eq.le
    have lengths : ((records.map codec.bytes).map List.length).take (records.map codec.bytes).length =
        records.map fun record => (codec.bytes record).length := by
      rw [List.take_of_length_le (by simp), List.map_map]
      rfl
    simp only [decodeSlots, given, shown.lens, shown.count, refuseIf, some, room, if_false, whole, lengths]
    rfl
  rw [decoded]
  exact decodeSlot_mapM 0 carries (List.forall₂_map_right_iff.mp shows)

/-- Every segment is committed or none: Lance gets exactly the records, in the order of the caller's
arrays, or the handle stays as it was and the error names the first record out of range. -/
theorem commitIndexSegmentsInner_show {handle : LanceDataset} {slots : SegmentSlots} {records : List SegmentRecord}
    {indexName column : String} (carries : ∀ record ∈ records, codec.Carries record)
    (shown : slots.Show (records.map codec.bytes)) (named : indexName ≠ "") (placed : column ≠ "") :
    ((∀ record ∈ records, codec.InRange (codec.ofMetadata record)) →
      (commitIndexSegmentsInner codec upstream (.text indexName) (.text column) slots (some handle)).2 =
          some (commitSegments upstream handle indexName column records).2 ∧
        ((commitIndexSegmentsInner codec upstream (.text indexName) (.text column) slots (some handle)).1 =
            .returned (.ok 0) ↔
          (commitSegments upstream handle indexName column records).1 = .returned (.ok ()))) ∧
    (¬(∀ record ∈ records, codec.InRange (codec.ofMetadata record)) → ∃ error,
      commitIndexSegmentsInner codec upstream (.text indexName) (.text column) slots (some handle) =
        (.returned (.error error), some handle) ∧ Refused codec upstream 0 records error) := by
  obtain ⟨accepted, refused⟩ := @decodeSlots_show _ _ codec upstream _ _ carries shown
  have given : refuseIf ((CString.text indexName) = .null ∨ (CString.text column) = .null)
      (.invalidInput "dataset, index_name, and column must not be NULL") = .ok () := by
    simp
  simp only [commitIndexSegmentsInner, Body.get_bind, given, Body.ofExcept, Body.bind_ofUnwind_ok,
    requireName_text named, requireName_text placed]
  constructor
  · intro inRange
    rw [accepted inRange, Body.bind_ofUnwind_ok]
    rcases commitSegments upstream handle indexName column records with ⟨outcome, next⟩
    rcases outcome with (error | done) | payload
    · exact ⟨rfl, iff_of_false (fun same => by cases same) (fun same => by cases same)⟩
    · exact ⟨rfl, iff_of_true rfl rfl⟩
    · exact ⟨rfl, iff_of_false (fun same => by cases same) (fun same => by cases same)⟩
  · intro outside
    obtain ⟨error, stopped, first⟩ := refused outside
    rw [stopped]
    exact ⟨error, Body.bind_of_error rfl, first⟩

end Spec

end LanceC.Index
