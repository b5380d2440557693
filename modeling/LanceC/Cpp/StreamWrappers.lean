import LanceC.Cpp.Errors
import LanceC.Stream.Consumed

/-! The C++ wrappers that consume a stream (lance.hpp): what their guards and the C API release. -/

namespace LanceC.Cpp

open ErrorState Ffi Logic Machine
open LanceC.Stream

/-- What the wrappers work on: the world of the C API, whether the stream's guard is armed, and the
release callback of the local schema with the number of its calls. -/
structure WriteWorld where
  streams : StreamWorld
  armed : Bool
  schema : Bool
  schemaReleases : Nat

namespace WriteWorld

def start (stream : Option FFIArrowArrayStream) (handle : Option LanceDataset) : WriteWorld :=
  ⟨.start stream handle, false, false, 0⟩

/-- `~StreamGuard()`. -/
def guardStream (world : WriteWorld) : WriteWorld :=
  match world.streams.caller with
  | none => world
  | some stream =>
    if world.armed ∧ stream.release then { world with streams := releaseByHand stream world.streams } else world

/-- `~SchemaGuard()`. -/
def guardSchema (world : WriteWorld) : WriteWorld :=
  if world.schema then { world with schema := false, schemaReleases := world.schemaReleases + 1 } else world

end WriteWorld

/-- How the producer answers the schema callback: its code, whether it filled the schema, which it may
do on an error too, and its last error. -/
structure SchemaAnswer where
  code : Int
  populated : Bool
  lastError : Option String
  deriving DecidableEq, Repr

/-- The parameters of `write`. -/
structure WriteOptions where
  maxRowsPerFile : Nat
  maxRowsPerGroup : Nat
  maxBytesPerFile : Nat
  dataStorageVersion : Option CString
  enableStableRowIds : Bool
  deriving DecidableEq, Repr

def WriteOptions.toC (options : WriteOptions) : LanceWriteParams where
  maxRowsPerFile := options.maxRowsPerFile
  maxRowsPerGroup := options.maxRowsPerGroup
  maxBytesPerFile := options.maxBytesPerFile
  dataStorageVersion := options.dataStorageVersion.getD .null
  enableStableRowIds := options.enableStableRowIds

/-- The keys and values in turn and a NULL; no pairs are a NULL array. -/
def toCStorageOptions (storageOpts : List (CString × CString)) : Option (List CString) :=
  if storageOpts = [] then none else some ((storageOpts.flatMap fun entry => [entry.1, entry.2]) ++ [.null])

/-- What the wrappers reach: the C API's library, how errors print, the memory they find and where the
local schema lies. -/
structure StreamUpstream where
  library : StreamLibrary
  display : LanceError → Unwind String
  memory : Nat → Bool
  schema : FFIArrowSchema

section Wrappers

variable [Target] (upstream : StreamUpstream)

def streamEntry (call : StreamCall) : Entry WriteWorld Unit where
  body world :=
    let (outcome, streams) := call.body upstream.library world.streams
    (do return (← outcome).map fun _ => (), { world with streams })
  display := upstream.display
  sentinel := ()

def setWorld (update : WriteWorld → WriteWorld) : Threaded WriteWorld Unit :=
  Body.modify fun thread => { thread with world := update thread.world }

/-- The rest of the scope of a local whose destructor is `drop`. -/
def inScope {α : Type} (drop : WriteWorld → WriteWorld) (rest : Threaded WriteWorld α) : Threaded WriteWorld α :=
  rest.dropping fun thread => { thread with world := drop thread.world }

/-- `kv`. -/
def buildOptions (storageOpts : List (CString × CString)) : Threaded WriteWorld (Option (List CString)) := do
  reserve upstream.memory (2 * storageOpts.length + 1)
  return toCStorageOptions storageOpts

def readSchema (answer : SchemaAnswer) : Threaded WriteWorld Unit := do
  setWorld fun world => { world with schema := answer.populated }
  if answer.code ≠ 0 then
    let message := "failed to read stream schema: " ++ answer.lastError.getD "unknown"
    reserve upstream.memory message.length
    throwing (.error .invalidArgument message)

def write (uri : CString) (mode : Int) (params : WriteOptions) (storageOpts : List (CString × CString))
    (answer : SchemaAnswer) : Threaded WriteWorld Dataset := do
  match (← Body.get).world.streams.caller with
  | none => throwing (.error .invalidArgument "stream must not be null")
  | some stream =>
    setWorld fun world => { world with armed := true }
    inScope WriteWorld.guardStream do
      if stream.getSchema.isNone then throwing (.error .invalidArgument "stream get_schema callback is null")
      inScope WriteWorld.guardSchema do
        readSchema upstream answer
        let opts ← buildOptions upstream storageOpts
        setWorld fun world => { world with armed := false }
        byCode (streamEntry upstream (.write uri (some upstream.schema) mode (some params.toC) opts true))
        match (← Body.get).world.streams.outDataset with
        | none =>
          throwing (.error .internal "lance_dataset_write_with_params returned success with null out_dataset")
        | some dataset => return dataset

def mergeInsert (onColumns : List CString) (params : Option LanceMergeInsertParams) :
    Threaded WriteWorld LanceMergeInsertResult := do
  reserve upstream.memory onColumns.length
  byCode (streamEntry upstream (.mergeInsert (some onColumns) onColumns.length params true))
  return (← Body.get).world.streams.outResult.getD ⟨0, 0, 0⟩

def addColumnsStream (batchSize : Nat) : Threaded WriteWorld Unit :=
  byCode (streamEntry upstream (.addColumnsStream batchSize))

def writeFragments (uri : CString) (schema : Option FFIArrowSchema) (storageOpts : List (CString × CString)) :
    Threaded WriteWorld Unit := do
  let opts ← buildOptions upstream storageOpts
  byCode (streamEntry upstream (.writeFragments uri schema opts))

end Wrappers

section Releases

variable {upstream : StreamUpstream} {stream : FFIArrowArrayStream} {handle : Option LanceDataset}
variable {answer : SchemaAnswer}

/-- The stream is the wrapper's to release and has not been touched. -/
def Guarded (stream : FFIArrowArrayStream) (handle : Option LanceDataset) (world : WriteWorld) : Prop :=
  world.armed = true ∧ world.streams = .start (some stream) handle

/-- The stream is the wrapper's to release, or has been released. -/
def Owned (stream : FFIArrowArrayStream) (handle : Option LanceDataset) (world : WriteWorld) : Prop :=
  Guarded stream handle world ∨ world.armed = false ∧ world.streams.Consumed

/-- The schema callback may have filled the schema, which has not been released. -/
def Filled (populated : Bool) (world : WriteWorld) : Prop := world.schema = populated ∧ world.schemaReleases = 0

/-- The local schema has been released as often as it was filled. -/
def Emptied (populated : Bool) (world : WriteWorld) : Prop :=
  world.schema = false ∧ world.schemaReleases = if populated then 1 else 0

theorem Owned.guardStream {world : WriteWorld} (live : stream.release = true) (owned : Owned stream handle world) :
    world.guardStream.streams.Consumed := by
  rcases owned with ⟨armed, untouched⟩ | ⟨disarmed, consumed⟩
  · have marked : world.guardStream.streams = releaseByHand stream (.start (some stream) handle) := by
      simp [WriteWorld.guardStream, untouched, armed, live, StreamWorld.start]
    rw [marked]
    exact ⟨⟨_, rfl, rfl⟩, rfl⟩
  · have kept : world.guardStream = world := by
      unfold WriteWorld.guardStream
      split <;> simp [disarmed]
    rw [kept]
    exact consumed

theorem Filled.guardSchema {world : WriteWorld} {populated : Bool} (filled : Filled populated world) :
    Emptied populated world.guardSchema := by
  obtain ⟨rfl, none⟩ := filled
  cases schema : world.schema <;> simp [WriteWorld.guardSchema, Emptied, schema, none]

theorem Owned.guardSchema {world : WriteWorld} (owned : Owned stream handle world) :
    Owned stream handle world.guardSchema := by
  unfold WriteWorld.guardSchema
  split
  · exact owned
  · exact owned

theorem Emptied.guardStream {world : WriteWorld} {populated : Bool} (emptied : Emptied populated world) :
    Emptied populated world.guardStream := by
  unfold WriteWorld.guardStream
  split
  · exact emptied
  · split
    · exact emptied
    · exact emptied

theorem byCode_world [Target] (call : StreamCall) (thread : Thread WriteWorld) :
    (byCode (streamEntry upstream call) thread).2.world =
      { thread.world with streams := (call.body upstream.library thread.world.streams).2 } := by
  rw [byCode_apply]
  rfl

theorem keeps_reserve {memory : Nat → Bool} {count : Nat} {Inv : Thread WriteWorld → Prop} :
    (reserve memory count : Threaded WriteWorld Unit).Keeps Inv := by
  unfold reserve
  split
  · exact Body.keeps_pure _
  · exact Body.keeps_ofExcept _

theorem leads_readSchema :
    Body.Leads (fun thread : Thread WriteWorld => Guarded stream handle thread.world ∧ Filled false thread.world)
      (fun thread => Guarded stream handle thread.world ∧ Filled answer.populated thread.world)
      (readSchema upstream answer) := by
  unfold readSchema
  refine Body.leads_bind ?_ fun _ => ?_
  · rintro thread ⟨guarded, filled⟩
    exact ⟨guarded, rfl, filled.2⟩
  · split
    · exact Body.leads_bind keeps_reserve fun _ => Body.keeps_ofExcept _
    · exact Body.keeps_pure _

/-- The stream goes over to the C API, which consumes it whatever it makes of the other arguments. -/
theorem leads_handOver [Target] (live : stream.release = true) (uri : CString) (mode : Int)
    (params : Option LanceWriteParams) (opts : Option (List CString)) :
    Body.Leads
      (fun thread : Thread WriteWorld => Guarded stream handle thread.world ∧ Filled answer.populated thread.world)
      (fun thread => Owned stream handle thread.world ∧ Filled answer.populated thread.world)
      (setWorld (fun world => { world with armed := false }) >>= fun _ =>
        byCode (streamEntry upstream (.write uri (some upstream.schema) mode params opts true))) := by
  rintro thread ⟨⟨_, untouched⟩, filled⟩
  have disarmed : setWorld (fun world => { world with armed := false }) thread =
      (.returned (.ok ()), { thread with world := { thread.world with armed := false } }) := rfl
  rw [Body.bind_of_ok disarmed, byCode_world]
  refine ⟨.inr ⟨rfl, ?_⟩, filled⟩
  dsimp only
  rw [untouched]
  exact takingStream_consumed live keeps_writeWithReader

/-- `write` from the schema callback on. -/
theorem leads_write [Target] (live : stream.release = true) (uri : CString) (mode : Int) (params : WriteOptions)
    (storageOpts : List (CString × CString)) :
    Body.Leads (fun thread : Thread WriteWorld => Guarded stream handle thread.world ∧ Filled false thread.world)
      (fun thread => Owned stream handle thread.world ∧ Filled answer.populated thread.world)
      (do
        readSchema upstream answer
        let opts ← buildOptions upstream storageOpts
        setWorld fun world => { world with armed := false }
        byCode (streamEntry upstream (.write uri (some upstream.schema) mode (some params.toC) opts true))
        match (← Body.get).world.streams.outDataset with
        | none =>
          throwing (.error .internal "lance_dataset_write_with_params returned success with null out_dataset")
        | some dataset => return dataset : Threaded WriteWorld Dataset) := by
  have stops : ∀ thread : Thread WriteWorld, Guarded stream handle thread.world ∧ Filled answer.populated thread.world →
      Owned stream handle thread.world ∧ Filled answer.populated thread.world :=
    fun thread holds => ⟨.inl holds.1, holds.2⟩
  refine Body.leads_trans leads_readSchema (fun _ => ?_) stops
  refine Body.leads_trans (Body.leads_bind keeps_reserve fun _ => Body.keeps_pure _) (fun opts => ?_) stops
  rw [← Body.bind_assoc]
  refine Body.leads_bind (leads_handOver live uri mode _ opts) fun _ => Body.leads_bind Body.keeps_get fun thread => ?_
  cases thread.world.streams.outDataset with
  | none => exact Body.keeps_ofExcept _
  | some dataset => exact Body.keeps_pure _

/-- `write` with a stream, from its guard on. -/
theorem write_some [Target] (slot : Option LastError) (uri : CString) (mode : Int) (params : WriteOptions)
    (storageOpts : List (CString × CString)) :
    write upstream uri mode params storageOpts answer ⟨slot, .start (some stream) handle⟩ =
      inScope WriteWorld.guardStream (do
        if stream.getSchema.isNone then throwing (.error .invalidArgument "stream get_schema callback is null")
        inScope WriteWorld.guardSchema do
          readSchema upstream answer
          let opts ← buildOptions upstream storageOpts
          setWorld fun world => { world with armed := false }
          byCode (streamEntry upstream (.write uri (some upstream.schema) mode (some params.toC) opts true))
          match (← Body.get).world.streams.outDataset with
          | none =>
            throwing (.error .internal "lance_dataset_write_with_params returned success with null out_dataset")
          | some dataset => return dataset)
        ⟨slot, { WriteWorld.start (some stream) handle with armed := true }⟩ := rfl

/-- However `write` ends, the stream is consumed and the local schema is released if it was filled. -/
theorem write_releases [Target] (live : stream.release = true) (slot : Option LastError) (uri : CString) (mode : Int)
    (params : WriteOptions) (storageOpts : List (CString × CString)) :
    let reached := (write upstream uri mode params storageOpts answer ⟨slot, .start (some stream) handle⟩).2.world
    reached.streams.Consumed ∧ Emptied (stream.getSchema.isSome && answer.populated) reached := by
  have started : Guarded stream handle { WriteWorld.start (some stream) handle with armed := true } ∧
      Filled false { WriteWorld.start (some stream) handle with armed := true } := ⟨⟨rfl, rfl⟩, rfl, rfl⟩
  rw [write_some]
  cases callback : stream.getSchema with
  | none => exact ⟨(Owned.guardStream live (.inl started.1)), Emptied.guardStream ⟨rfl, rfl⟩⟩
  | some called =>
    let thread : Thread WriteWorld := ⟨slot, { WriteWorld.start (some stream) handle with armed := true }⟩
    obtain ⟨owned, filled⟩ :=
      @leads_write upstream stream handle answer _ live uri mode params storageOpts thread started
    exact ⟨owned.guardSchema.guardStream live, filled.guardSchema.guardStream⟩

theorem leads_byCode [Target] {call : StreamCall}
    (consumed : (call.body upstream.library (.start (some stream) handle)).2.Consumed) :
    Body.Leads (fun thread : Thread WriteWorld => thread.world.streams = .start (some stream) handle)
      (fun thread => thread.world.streams.Consumed) (byCode (streamEntry upstream call)) := by
  intro thread untouched
  rw [byCode_world, untouched]
  exact consumed

theorem reserve_apply {ω : Type} (memory : Nat → Bool) (count : Nat) (thread : Thread ω) :
    reserve memory count thread = (.returned (if memory count then .ok () else .error .allocation), thread) := by
  unfold reserve
  split <;> rfl

/-- `merge_insert` consumes the stream if the list of its columns gets memory, and else leaves it alone. -/
theorem mergeInsert_consumed [Target] (live : stream.release = true) (slot : Option LastError)
    (onColumns : List CString) (params : Option LanceMergeInsertParams) :
    let reached := (mergeInsert upstream onColumns params ⟨slot, .start (some stream) handle⟩).2.world
    if upstream.memory onColumns.length then reached.streams.Consumed
    else reached.streams = .start (some stream) handle := by
  have reserved := reserve_apply upstream.memory onColumns.length
    (⟨slot, .start (some stream) handle⟩ : Thread WriteWorld)
  dsimp only
  rw [mergeInsert]
  split
  · next room =>
    rw [if_pos room] at reserved
    have consumed : ((StreamCall.mergeInsert (some onColumns) onColumns.length params true).body upstream.library
        (.start (some stream) handle)).2.Consumed :=
      takingStream_consumed live fun _ => keeps_mergeWithReader
    rw [Body.bind_of_ok reserved]
    exact Body.leads_bind (leads_byCode consumed) (fun _ => Body.leads_bind Body.keeps_get fun _ => Body.keeps_pure _)
      _ rfl
  · next full =>
    rw [if_neg full] at reserved
    rw [Body.bind_of_error reserved]
    rfl

/-- What fails the early checks of the fragment writer leaves the stream alone. -/
theorem writeFragments_untouched {library : StreamLibrary} {uri : CString} {schema : Option FFIArrowSchema}
    {storageOpts : Option (List CString)}
    (fails : ¬StreamCall.PassesEarlyChecks library (.writeFragments uri schema storageOpts)) :
    (writeFragmentsInner library uri schema storageOpts (.start (some stream) handle)).2 =
      .start (some stream) handle := by
  cases uri with
  | null => rfl
  | malformed message => cases schema <;> rfl
  | text uri =>
    cases schema with
    | none => rfl
    | some raw =>
      have early : writeFragmentsInner library (.text uri) (some raw) storageOpts (.start (some stream) handle) =
          (do
            let expected ← Body.ofUnwind (importSchema library raw)
            let opts ← Body.ofExcept (parseStorageOptions storageOpts)
            withReader library stream (writeFragmentsWithReader library uri expected opts) : StreamBody Int)
            (.start (some stream) handle) := rfl
      rw [early]
      by_cases imported : ∃ expected, importSchema library raw = .returned (.ok expected)
      · obtain ⟨expected, imports⟩ := imported
        rw [imports, Body.bind_ofUnwind_ok]
        refine Body.bind_ofUnwind_snd _ _ _ fun opts parsed => fails ?_
        exact ⟨⟨uri, rfl⟩, ⟨raw, expected, rfl, importSchema_ok.mp imports⟩, opts, Unwind.returned.inj parsed⟩
      · exact Body.bind_ofUnwind_snd _ _ _ fun expected same => imported ⟨expected, same⟩

theorem buildOptions_apply (upstream : StreamUpstream) (storageOpts : List (CString × CString))
    (thread : Thread WriteWorld) : buildOptions upstream storageOpts thread =
      (.returned (if upstream.memory (2 * storageOpts.length + 1) then .ok (toCStorageOptions storageOpts)
        else .error .allocation), thread) := by
  have reserved := reserve_apply upstream.memory (2 * storageOpts.length + 1) thread
  rw [buildOptions]
  split
  · next room =>
    rw [if_pos room] at reserved
    rw [Body.bind_of_ok reserved]
    rfl
  · next full =>
    rw [if_neg full] at reserved
    rw [Body.bind_of_error reserved]

/-- What the fragment writer needs to take the stream. -/
def TakesFragments (upstream : StreamUpstream) (uri : CString) (schema : Option FFIArrowSchema)
    (storageOpts : List (CString × CString)) : Prop :=
  upstream.memory (2 * storageOpts.length + 1) ∧
    StreamCall.PassesEarlyChecks upstream.library (.writeFragments uri schema (toCStorageOptions storageOpts))

theorem writeFragments_consumed [Target] (live : stream.release = true) (slot : Option LastError) (uri : CString)
    (schema : Option FFIArrowSchema) (storageOpts : List (CString × CString)) :
    let reached := (writeFragments upstream uri schema storageOpts ⟨slot, .start (some stream) handle⟩).2.world
    (TakesFragments upstream uri schema storageOpts → reached.streams.Consumed) ∧
      (¬TakesFragments upstream uri schema storageOpts → reached.streams = .start (some stream) handle) := by
  have built := buildOptions_apply upstream storageOpts ⟨slot, .start (some stream) handle⟩
  dsimp only
  rw [writeFragments]
  by_cases room : upstream.memory (2 * storageOpts.length + 1)
  · rw [if_pos room] at built
    rw [Body.bind_of_ok built, byCode_world]
    refine ⟨fun takes => ?_, fun leaves => ?_⟩
    · exact (writeFragments_consumed_iff live uri schema (toCStorageOptions storageOpts)).mpr takes.2
    · exact writeFragments_untouched fun passes => leaves ⟨room, passes⟩
  · rw [if_neg room] at built
    rw [Body.bind_of_error built]
    exact ⟨fun takes => absurd takes.1 room, fun _ => rfl⟩

/-- What becomes of a live stream in each of the wrappers, from any thread and with any dataset behind the
handle: `write` and `add_columns_stream` consume it however they end, and `write` releases the schema it was
given exactly once; the others consume it but where an exception or an early check comes first, and then
it is the caller's as before. -/
theorem streamWrappers_release [Target] (upstream : StreamUpstream) (live : stream.release = true)
    (handle : Option LanceDataset) (slot : Option LastError) :
    let begin : Thread WriteWorld := ⟨slot, .start (some stream) handle⟩
    (∀ uri mode params storageOpts answer,
      let reached := (write upstream uri mode params storageOpts answer begin).2.world
      reached.streams.Consumed ∧ Emptied (stream.getSchema.isSome && answer.populated) reached) ∧
    (∀ batchSize, (addColumnsStream upstream batchSize begin).2.world.streams.Consumed) ∧
    (∀ onColumns params,
      let reached := (mergeInsert upstream onColumns params begin).2.world
      if upstream.memory onColumns.length then reached.streams.Consumed else reached.streams = begin.world.streams) ∧
    ∀ uri schema storageOpts,
      let reached := (writeFragments upstream uri schema storageOpts begin).2.world
      (TakesFragments upstream uri schema storageOpts → reached.streams.Consumed) ∧
        (¬TakesFragments upstream uri schema storageOpts → reached.streams = begin.world.streams) :=
  ⟨fun uri mode params storageOpts _ => write_releases live slot uri mode params storageOpts,
    fun batchSize => @leads_byCode upstream stream handle _ (.addColumnsStream batchSize)
      (addColumnsStream_consumed live batchSize) ⟨slot, .start (some stream) handle⟩ rfl,
    fun onColumns params => mergeInsert_consumed live slot onColumns params,
    fun uri schema storageOpts => writeFragments_consumed live slot uri schema storageOpts⟩

end Releases

section Sample

/-- A process without memory for the columns of a merge, whose schema callback fails after filling the schema. -/
def sampleWrappers : StreamUpstream where
  library := sampleStreams
  display error := .returned error.message
  memory count := count < 2
  schema := ⟨1⟩

theorem streamWrappers_release_sample :
    (@write target64 sampleWrappers (.text "memory://out") 0 ⟨0, 0, 0, none, false⟩ [] ⟨5, true, none⟩
        ⟨none, .start (some sampleStream) none⟩).2.world.schemaReleases = 1 ∧
      (@mergeInsert target64 sampleWrappers [.text "a", .text "b"] none
        ⟨none, .start (some sampleStream) none⟩).2.world.streams = .start (some sampleStream) none := by
  obtain ⟨writes, -, merges, -⟩ := @streamWrappers_release sampleStream target64 sampleWrappers rfl none none
  exact ⟨(writes (.text "memory://out") 0 ⟨0, 0, 0, none, false⟩ [] ⟨5, true, none⟩).2.2,
    merges [.text "a", .text "b"] none⟩

end Sample

end LanceC.Cpp
