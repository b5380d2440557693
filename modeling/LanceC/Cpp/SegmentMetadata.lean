import LanceC.Cpp.Errors
import LanceC.Index.SegmentTransport

/-! `IndexSegmentMetadata` (lance.hpp): what the class throws and returns for what the C API parses
and reports. -/

namespace LanceC.Cpp

open ErrorState Ffi Index Logic Machine

variable {ω S T α Rest : Type}

/-- What the class reaches: the decoders behind the C API, how errors print, the memory it finds,
whether `data()` of an empty vector is NULL, and where `parse` has its `metadata`. -/
structure MetadataUpstream (Rest : Type) where
  codec : MetadataCodec Rest
  display : LanceError → Unwind String
  memory : Nat → Bool
  emptyNull : Bool
  outAddress : Nat
  placed : outAddress ≠ 0

/-- A `std::vector<uint8_t>`. -/
structure ByteVector where
  data : BytePointer
  size : Nat

/-- The class; `none` is a handle that was moved from. -/
structure IndexSegmentMetadata where
  handle : Option LanceIndexSegmentMetadata
  deriving DecidableEq, Repr

section Locals

/-- The scope of a variable that the C API fills. -/
def withLocal (start : S) (rest : Threaded (ω × S) α) : Threaded ω α := fun thread =>
  let (outcome, reached) := rest ⟨thread.lastError, (thread.world, start)⟩
  (outcome, ⟨reached.lastError, reached.world.1⟩)

def readLocal : Threaded (ω × S) S := fun thread => (.returned (.ok thread.world.2), thread)

/-- A function of the C API that reads a handle. -/
def reading (display : LanceError → Unwind String) (result : Except LanceError T) (sentinel : T) : Entry ω T where
  body := Body.ofExcept result
  display
  sentinel

/-- One that fills the variable, and leaves it alone where it fails. -/
def filling (display : LanceError → Unwind String) (fill : S → Except LanceError S) : Entry (ω × S) Unit where
  body world :=
    match fill world.2 with
    | .ok next => (.returned (.ok ()), (world.1, next))
    | .error error => (.returned (.error error), world)
  display
  sentinel := ()

end Locals

namespace MetadataUpstream

variable (upstream : MetadataUpstream Rest)

/-- `std::string(value)`. -/
def string (value : String) : Threaded ω String := do
  reserve upstream.memory value.utf8ByteSize
  return value

/-- `out.data()` and the slot of the count. -/
def slots (zero : α) (count : Nat) : ListSlots α where
  buffer := if count = 0 ∧ upstream.emptyNull then none else some (List.replicate count zero)
  count := some 0

/-- The body that `field_ids()` and `fragment_ids()` share. -/
def list (zero : α) (count : Except LanceError Nat) (fill : Nat → ListSlots α → Except LanceError (ListSlots α)) :
    Threaded ω (List α) := do
  let count ← byValue (reading upstream.display count 0)
  reserve upstream.memory count
  withLocal (upstream.slots zero count) do
    byCode (filling upstream.display (fill count))
    let slots ← readLocal
    return resized zero (slots.count.getD 0) (slots.buffer.getD [])

end MetadataUpstream

namespace IndexSegmentMetadata

section Parse

variable [Target] (upstream : MetadataUpstream Rest)

def parse (bytes : BytePointer) (len : Nat) : Threaded ω IndexSegmentMetadata :=
  withLocal (none : Option LanceIndexSegmentMetadata) do
    byCode (filling upstream.display fun _ => do
      return some (← parseMetadataInner upstream.codec bytes len upstream.outAddress))
    match ← readLocal with
    | none =>
      throwing (.error .internal "lance_index_segment_metadata_parse returned success with null metadata")
    | some metadata => return ⟨some metadata⟩

/-- The overload for a vector. -/
def parseVector (bytes : ByteVector) : Threaded ω IndexSegmentMetadata := parse upstream bytes.data bytes.size

end Parse

section Getters

variable (upstream : MetadataUpstream Rest) (metadata : IndexSegmentMetadata)

def uuid : Threaded ω (List Byte) :=
  withLocal (List.replicate 16 0) do
    byCode (filling upstream.display fun out => do
      return copyInto (← metadataUuidInner metadata.handle false) out)
    readLocal

def name : Threaded ω String := do
  upstream.string (← byPointer (reading upstream.display (metadataName metadata.handle) ""))

def datasetVersion : Threaded ω Nat := byValue (reading upstream.display (metadataDatasetVersion metadata.handle) 0)

def indexVersion : Threaded ω Int := bySign (reading upstream.display (metadataIndexVersion metadata.handle) (-1))

def indexType : Threaded ω Int :=
  bySign (reading upstream.display (metadataIndexTypeInner upstream.codec metadata.handle) (-1))

def indexDetailsTypeUrl : Threaded ω String := do
  upstream.string (← byPointer (reading upstream.display (metadataTypeUrl metadata.handle) ""))

def fieldIds : Threaded ω (List Int) :=
  upstream.list 0 (metadataFieldCount metadata.handle) (metadataFieldIdsInner metadata.handle)

def fragmentIds : Threaded ω (List Nat) :=
  upstream.list 0 (metadataFragmentCount metadata.handle) (metadataFragmentIdsInner metadata.handle)

end Getters

end IndexSegmentMetadata

/-- Whatever error is pending before, the code ends in this way, and leaves no error and the rest
of the world as it was. -/
def Delivers (code : Threaded ω α) (outcome : Except Exception α) : Prop :=
  ∀ thread, code thread = (.returned outcome, ⟨none, thread.world⟩)

namespace MetadataUpstream

variable (upstream : MetadataUpstream Rest)

/-- The exception for an error of C. -/
def raised (error : LanceError) : Exception :=
  match upstream.display error with
  | .returned text => .ofLast (.of (errorCodeFromLance error) text)
  | .panicked payload => .ofLast (.of .panic (panicInCall payload))

/-- What C returns, or the exception for its error. -/
def thrown (result : Except LanceError α) : Except Exception α := result.mapError upstream.raised

/-- A value that takes memory. -/
def granted (size : Nat) (value : α) : Except Exception α :=
  if upstream.memory size then .ok value else .error .allocation

end MetadataUpstream

section Delivered

variable {upstream : MetadataUpstream Rest}

theorem thrown_eq (result : Except LanceError α) :
    (guardedResult upstream.display (.returned result)).mapError .ofLast = upstream.thrown result := by
  cases result with
  | ok value => rfl
  | error error =>
    rw [guardedResult, MetadataUpstream.thrown, Except.mapError, MetadataUpstream.raised]
    cases upstream.display error <;> rfl

theorem reading_thrown (result : Except LanceError T) (sentinel : T) (world : ω) :
    (reading upstream.display result sentinel).thrown world = (.returned (upstream.thrown result), world) :=
  congrArg (fun outcome => (Unwind.returned outcome, world)) (thrown_eq result)

theorem byValue_delivers (upstream : MetadataUpstream Rest) (result : Except LanceError T) (sentinel : T) :
    Delivers (byValue (reading upstream.display result sentinel) : Threaded ω T) (upstream.thrown result) := by
  intro thread
  rw [byValue_apply, reading_thrown]

theorem byPointer_delivers (result : Except LanceError T) (sentinel : T) :
    Delivers (byPointer (reading upstream.display result sentinel) : Threaded ω T) (upstream.thrown result) := by
  intro thread
  rw [byPointer_apply, reading_thrown]

theorem bySign_delivers (result : Except LanceError Int) :
    Delivers (bySign (reading upstream.display result (-1)) : Threaded ω Int) (upstream.thrown result) := by
  intro thread
  rw [bySign_apply (Int.negSucc_lt_zero 0), reading_thrown]

theorem Delivers.returned {code : Threaded ω α} {result : Except LanceError T} {value : T}
    {rest : T → Except Exception α} (delivered : Delivers code (upstream.thrown result >>= rest))
    (returned : result = .ok value) : Delivers code (rest value) := by
  subst returned
  exact delivered

/-- What follows a checked call starts without an error. -/
theorem Delivers.bind {first : Threaded ω T} {next : T → Threaded ω α} {outcome : Except Exception T}
    {rest : T → Except Exception α} (head : Delivers first outcome)
    (tail : ∀ value, outcome = .ok value → ∀ world,
      next value ⟨none, world⟩ = (.returned (rest value), ⟨none, world⟩)) :
    Delivers (first >>= next) (outcome >>= rest) := by
  intro thread
  cases outcome with
  | error exception => exact Body.bind_of_error (head thread)
  | ok value => exact (Body.bind_of_ok (head thread)).trans (tail value rfl _)

theorem reserve_bind {size : Nat} {rest : Threaded ω α} {value : α} {world : ω}
    (tail : rest ⟨none, world⟩ = (.returned (.ok value), ⟨none, world⟩)) :
    (do reserve upstream.memory size; rest) ⟨none, world⟩ =
      (.returned (upstream.granted size value), ⟨none, world⟩) := by
  rw [reserve, MetadataUpstream.granted]
  split
  · exact tail
  · rfl

theorem byCode_filling (upstream : MetadataUpstream Rest) (fill : S → Except LanceError S)
    (slot : Option LastError) (world : ω) (start : S) :
    byCode (filling upstream.display fill) ⟨slot, (world, start)⟩ =
      match fill start with
      | .ok next => (.returned (.ok ()), ⟨none, (world, next)⟩)
      | .error error => (.returned (.error (upstream.raised error)), ⟨none, (world, start)⟩) := by
  rw [byCode_apply, Entry.thrown, Entry.ends, filling]
  dsimp only
  cases fill start with
  | ok next => rfl
  | error error => exact congrArg (fun outcome => (Unwind.returned outcome, _)) (thrown_eq (.error error))

theorem withLocal_delivers {start : S} {fill : S → Except LanceError S} {rest : Threaded (ω × S) α}
    {outcome : Except Exception α}
    (failed : ∀ error, fill start = .error error → outcome = .error (upstream.raised error))
    (tail : ∀ next, fill start = .ok next → ∀ world : ω,
      rest ⟨none, (world, next)⟩ = (.returned outcome, ⟨none, (world, next)⟩)) :
    Delivers (withLocal start do byCode (filling upstream.display fill); rest) outcome := by
  rintro ⟨slot, world⟩
  have called := byCode_filling upstream fill slot world start
  rw [withLocal]
  cases filled : fill start with
  | error error =>
    rw [filled] at called
    rw [Body.bind_of_error called, failed error filled]
  | ok next =>
    rw [filled] at called
    rw [Body.bind_of_ok called, tail next filled]

theorem string_delivers {code : Threaded ω String} {result : Except LanceError String}
    (head : Delivers code (upstream.thrown result)) :
    Delivers (do upstream.string (← code))
      (upstream.thrown result >>= fun value => upstream.granted value.utf8ByteSize value) :=
  head.bind fun _ _ _ => reserve_bind rfl

end Delivered

section Members

variable {upstream : MetadataUpstream Rest}

theorem metadataUuidInner_length {handle : Option LanceIndexSegmentMetadata} {bytes : List Byte}
    (read : metadataUuidInner handle false = .ok bytes) : bytes.length = 16 := by
  cases handle with
  | none => cases read
  | some metadata =>
    rw [← Except.ok.inj read]
    exact Uuid.length_toBytes _

theorem parse_delivers [Target] (bytes : BytePointer) (len : Nat) :
    Delivers (IndexSegmentMetadata.parse upstream bytes len : Threaded ω IndexSegmentMetadata)
      ((upstream.thrown (parseMetadataInner upstream.codec bytes len upstream.outAddress)).map fun handle =>
        ⟨some handle⟩) := by
  cases parsed : parseMetadataInner upstream.codec bytes len upstream.outAddress with
  | error error =>
    refine withLocal_delivers ?_ ?_
    · rw [parsed]
      rintro _ ⟨⟩
      rfl
    · rw [parsed]
      nofun
  | ok handle =>
    refine withLocal_delivers ?_ ?_
    · rw [parsed]
      nofun
    · rw [parsed]
      rintro _ ⟨⟩ world
      rfl

theorem uuid_delivers (metadata : IndexSegmentMetadata) :
    Delivers (metadata.uuid upstream : Threaded ω (List Byte))
      (upstream.thrown (metadataUuidInner metadata.handle false)) := by
  cases read : metadataUuidInner metadata.handle false with
  | error error =>
    refine withLocal_delivers ?_ ?_
    · rw [read]
      rintro _ ⟨⟩
      rfl
    · rw [read]
      nofun
  | ok bytes =>
    have whole : copyInto bytes (List.replicate 16 0) = bytes := by
      simp [copyInto, metadataUuidInner_length read]
    refine withLocal_delivers ?_ ?_
    · rw [read]
      nofun
    · rw [read]
      intro out copied world
      rw [← Except.ok.inj copied, whole]
      rfl

theorem name_delivers (metadata : IndexSegmentMetadata) :
    Delivers (metadata.name upstream : Threaded ω String)
      (upstream.thrown (metadataName metadata.handle) >>= fun value => upstream.granted value.utf8ByteSize value) :=
  string_delivers (byPointer_delivers _ _)

theorem indexType_delivers (metadata : IndexSegmentMetadata) :
    Delivers (metadata.indexType upstream : Threaded ω Int)
      (upstream.thrown (metadataIndexTypeInner upstream.codec metadata.handle) >>= .ok) := by
  have whole : ∀ outcome : Except Exception Int, outcome >>= .ok = outcome := by rintro (_ | _) <;> rfl
  rw [whole]
  exact bySign_delivers _

theorem indexDetailsTypeUrl_delivers (metadata : IndexSegmentMetadata) :
    Delivers (metadata.indexDetailsTypeUrl upstream : Threaded ω String)
      (upstream.thrown (metadataTypeUrl metadata.handle) >>= fun value => upstream.granted value.utf8ByteSize value) :=
  string_delivers (byPointer_delivers _ _)

/-- A vector of a list's length receives the list. -/
theorem slots_filled (upstream : MetadataUpstream Rest) (label : String)
    (read : LanceIndexSegmentMetadata → List α) (zero : α) (metadata : LanceIndexSegmentMetadata) :
    ∃ next, copyList label read (some metadata) (read metadata).length (upstream.slots zero (read metadata).length) =
        .ok next ∧ resized zero (next.count.getD 0) (next.buffer.getD []) = read metadata := by
  have empty : (upstream.slots zero (read metadata).length).buffer = none → read metadata = [] := by
    unfold MetadataUpstream.slots
    split
    · next missing => exact fun _ => List.eq_nil_of_length_eq_zero missing.1
    · nofun
  refine ⟨_, copyList_ok.mpr ⟨rfl, le_refl _, empty, rfl⟩, ?_⟩
  rw [Option.getD_some]
  cases given : (upstream.slots zero (read metadata).length).buffer with
  | none =>
    rw [empty given]
    rfl
  | some buffer =>
    have room : buffer.length = (read metadata).length := by
      unfold MetadataUpstream.slots at given
      split at given <;> cases given
      exact List.length_replicate
    obtain ⟨kept, whole, _⟩ := copyInto_fits room.ge
    rw [Option.map_some, Option.getD_some, resized_of_le (kept.trans room).ge, whole]

/-- The two calls return the list that the handle has. -/
theorem list_delivers (label : String) (read : LanceIndexSegmentMetadata → List α) (zero : α)
    (handle : Option LanceIndexSegmentMetadata) :
    Delivers (upstream.list zero (readMetadata handle fun metadata => (read metadata).length)
        (copyList label read handle) : Threaded ω (List α))
      (upstream.thrown (readMetadata handle read) >>= fun items => upstream.granted items.length items) := by
  intro thread
  cases handle with
  | none => exact Body.bind_of_error (byValue_delivers upstream (.error _) 0 thread)
  | some metadata =>
    obtain ⟨next, filled, whole⟩ := slots_filled upstream label read zero metadata
    have counted := byValue_delivers upstream (.ok (read metadata).length) 0 thread
    refine (Body.bind_of_ok counted).trans (reserve_bind ?_)
    refine withLocal_delivers ?_ ?_ _
    · rw [filled]
      nofun
    · rw [filled]
      rintro _ ⟨⟩ world
      exact congrArg (fun items => (Unwind.returned (Except.ok items), _)) whole

end Members

section RoundTrip

variable (upstream : MetadataUpstream Rest)

/-- The members of the class report a record, wherever they are called. -/
structure IndexSegmentMetadata.Reports (metadata : IndexSegmentMetadata) (ω : Type) (record : SegmentRecord) :
    Prop where
  uuid : ∃ bytes, Delivers (metadata.uuid upstream : Threaded ω _) (.ok bytes) ∧ bytes.length = 16 ∧
    Uuid.fromBytes bytes = record.uuid
  name : Delivers (metadata.name upstream : Threaded ω _) (upstream.granted record.name.utf8ByteSize record.name)
  datasetVersion : Delivers (metadata.datasetVersion upstream : Threaded ω _) (.ok record.datasetVersion)
  indexVersion : Delivers (metadata.indexVersion upstream : Threaded ω _) (.ok record.indexVersion)
  typeUrl : ∀ details ∈ record.indexDetails, Delivers (metadata.indexDetailsTypeUrl upstream : Threaded ω _)
    (upstream.granted details.typeUrl.utf8ByteSize details.typeUrl)
  scalarType : ∀ details ∈ record.indexDetails, ∀ code scalarType,
    LanceScalarIndexType.fromC code = .ok scalarType → details.DescribesScalar scalarType →
      Delivers (metadata.indexType upstream : Threaded ω _) (.ok code)
  vectorType : ∀ details ∈ record.indexDetails, ∀ code indexType,
    LanceVectorIndexType.fromC code = .ok indexType → details.DescribesVector upstream.codec indexType →
      Delivers (metadata.indexType upstream : Threaded ω _) (.ok code)
  fields : Delivers (metadata.fieldIds upstream : Threaded ω _) (upstream.granted record.fields.length record.fields)
  fragments : ∃ ids, record.Covers ids ∧
    Delivers (metadata.fragmentIds upstream : Threaded ω _) (upstream.granted ids.length ids)

theorem reports_handle (record : SegmentRecord) :
    IndexSegmentMetadata.Reports upstream ⟨some (.ofRecord record)⟩ ω record := by
  have reported : (LanceIndexSegmentMetadata.ofRecord record).Reports upstream.codec record := reports_ofRecord record
  exact {
    uuid := ⟨record.uuid.toBytes, uuid_delivers _, Uuid.length_toBytes _, Uuid.fromBytes_toBytes _⟩
    name := name_delivers _
    datasetVersion := byValue_delivers _ _ _
    indexVersion := bySign_delivers _
    typeUrl := fun details given => (indexDetailsTypeUrl_delivers _).returned (reported.typeUrl details given)
    scalarType := fun details given code scalarType created describes =>
      (indexType_delivers _).returned (reported.scalarType details given code scalarType created describes)
    vectorType := fun details given code indexType created describes =>
      (indexType_delivers _).returned (reported.vectorType details given code indexType created describes)
    fields := list_delivers _ _ _ _
    fragments := ⟨_, covers_ofRecord record, list_delivers _ _ _ _⟩ }

/-- The bytes of a build are read back whole, in C and in C++: they are parsed exactly where the
record is in range and its texts are C strings, the class throws what C reports otherwise, and then
every accessor and every member reports the record. -/
theorem segmentMetadata_roundTrip [Target] (record : SegmentRecord) (bytes : ByteVector)
    (carries : upstream.codec.Carries record) (shows : bytes.data.Shows (upstream.codec.bytes record))
    (sized : bytes.size = (upstream.codec.bytes record).length) :
    let parsed := parseMetadataInner upstream.codec bytes.data bytes.size upstream.outAddress
    ((∃ handle, parsed = .ok handle) ↔
        upstream.codec.InRange (upstream.codec.ofMetadata record) ∧ record.Lendable) ∧
      (∀ ω, Delivers (IndexSegmentMetadata.parseVector upstream bytes : Threaded ω IndexSegmentMetadata)
        ((upstream.thrown parsed).map fun handle => ⟨some handle⟩)) ∧
      ∀ handle, parsed = .ok handle → handle.Reports upstream.codec record ∧
        ∀ ω, IndexSegmentMetadata.Reports upstream ⟨some handle⟩ ω record := by
  intro parsed
  have accepted : ∀ handle, parsed = .ok handle ↔ _ := fun handle =>
    sized ▸ parseMetadataInner_bytes carries shows upstream.placed
  refine ⟨?_, fun ω => parse_delivers bytes.data bytes.size, ?_⟩
  · simp only [accepted]
    exact ⟨fun ⟨_, kept, _⟩ => kept, fun kept => ⟨_, kept, rfl⟩⟩
  · intro handle returned
    obtain ⟨_, rfl⟩ := (accepted handle).mp returned
    exact ⟨reports_ofRecord record, fun ω => reports_handle upstream record⟩

def sampleUpstream : MetadataUpstream SegmentRecord where
  codec := sampleCodec
  display error := .returned error.message
  memory _ := true
  emptyNull := true
  outAddress := 8192
  placed := by decide

/-- Behind an error that is still pending the segment is parsed, and reported. -/
theorem segmentMetadata_roundTrip_sample : ∃ metadata : IndexSegmentMetadata,
    @IndexSegmentMetadata.parseVector Unit _ target64 sampleUpstream ⟨samplePointer, 1⟩
      ⟨some (.of .internal "left over"), ()⟩ = (.returned (.ok metadata), ⟨none, ()⟩) ∧
      metadata.Reports sampleUpstream Unit sampleSegment := by
  obtain ⟨accepted, delivered, reported⟩ := @segmentMetadata_roundTrip _ sampleUpstream target64 sampleSegment
    ⟨samplePointer, 1⟩ sampleCodec_carries samplePointer_shows rfl
  obtain ⟨handle, parsed⟩ := accepted.mpr ⟨⟨nofun, by decide, by decide⟩, ⟨by decide, by decide⟩⟩
  have ran := delivered Unit ⟨some (.of .internal "left over"), ()⟩
  rw [parsed] at ran
  exact ⟨_, ran, (reported handle parsed).2 Unit⟩

end RoundTrip

end LanceC.Cpp
