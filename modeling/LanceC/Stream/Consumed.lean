import LanceC.Logic.Except
import LanceC.Stream.EntryPoints

/-! Who consumes the stream: every entry point on every path, but for the checks
that the fragment writer makes before it takes the stream. -/

namespace LanceC.Stream

open Ffi Logic Machine
open Body StreamWorld

variable {library : StreamLibrary} {stream : FFIArrowArrayStream} {handle : Option LanceDataset}

theorem ffiTryNeg_world (body : StreamBody Int) (world : StreamWorld) :
    (ffiTryNeg body world).world = (body world).2 := by
  unfold ffiTryNeg
  split <;> simp_all

theorem withReader_consumed (live : stream.release = true) {rest : ArrowSchema → StreamBody Int}
    (keeps : ∀ schema, (rest schema).Keeps Taken) :
    (withReader library stream rest (start (some stream) handle)).2.Consumed :=
  consumed_of_fromRaw live keeps handle

theorem takingStream_consumed (live : stream.release = true) {rest : ArrowSchema → StreamBody Int}
    (keeps : ∀ schema, (rest schema).Keeps Taken) {nullMessage : String} :
    (takingStream library nullMessage rest (start (some stream) handle)).2.Consumed :=
  withReader_consumed live keeps

theorem keeps_withMut {R : Type} {dataset : LanceDataset}
    {f : Dataset → StreamWorld → (Unwind (Except LanceError R) × Dataset) × StreamWorld}
    (kept : ∀ value world, world.Taken → (f value world).2.Taken) : (withMut library dataset f).Keeps Taken :=
  fun world taken => kept dataset.inner.value world taken

theorem keeps_mergeClosure {keys : List String} {resolved : ResolvedParams} (dataset : Dataset)
    (world : StreamWorld)
    (taken : world.Taken) : (mergeClosure library keys resolved dataset world).2.Taken := by
  unfold mergeClosure
  split
  · exact taken
  · exact taken
  · have dropped : ((library.executeReader dataset keys resolved).run world).2.Taken := by
      rw [ReaderCall.drops]
      exact taken.dropReader
    split <;> simp_all

/-- Writing an out parameter. -/
theorem keeps_out {update : StreamWorld → StreamWorld} (same : ∀ world, (update world).Taken = world.Taken) :
    (modify update : StreamBody Unit).Keeps Taken :=
  keeps_modify fun world taken => (same world).symm ▸ taken

theorem keeps_addColumnsWithReader {batchSize : Nat} :
    (addColumnsWithReader library batchSize).Keeps Taken := by
  unfold addColumnsWithReader
  refine leads_bind keeps_get fun world => ?_
  cases world.handle with
  | none => exact keeps_ofExcept _
  | some dataset =>
    refine leads_bind (keeps_ofExcept _) fun batchSize => ?_
    refine leads_bind (keeps_withMut fun value world taken => ?_) fun _ => keeps_pure _
    rw [ReaderCall.drops]
    exact taken.dropReader

theorem keeps_writeFragmentsWithReader {uri : String} {expected : ArrowSchema}
    {opts : HashMap String String} (streamSchema : ArrowSchema) :
    (writeFragmentsWithReader library uri expected opts streamSchema).Keeps Taken :=
  leads_bind (keeps_ofExcept _) fun _ => leads_bind (keeps_readerCall _) fun _ => keeps_pure _

theorem keeps_writeWithReader [Target] {uri : CString} {schema : Option FFIArrowSchema} {mode : Int}
    {params : Option LanceWriteParams} {storageOpts : Option (List CString)} {outDataset : Bool}
    (streamSchema : ArrowSchema) :
    (writeWithReader library uri schema mode params storageOpts outDataset streamSchema).Keeps Taken := by
  unfold writeWithReader
  refine leads_bind (keeps_ofExcept _) fun _ => ?_
  cases schema with
  | none => exact keeps_ofExcept _
  | some schema =>
    refine leads_bind (keeps_ofExcept _) fun mode => ?_
    refine leads_bind (keeps_ofExcept _) fun uri => ?_
    refine leads_bind (keeps_ofExcept _) fun _ => ?_
    refine leads_bind (keeps_ofUnwind _) fun expected => ?_
    refine leads_bind (keeps_ofExcept _) fun opts => ?_
    refine leads_bind (keeps_ofExcept _) fun _ => ?_
    refine leads_bind (keeps_ofExcept _) fun writeParams => ?_
    refine leads_bind (keeps_readerCall _) fun dataset => ?_
    split
    · exact leads_bind (keeps_out fun _ => rfl) fun _ => keeps_pure _
    · exact keeps_pure _

theorem keeps_mergeWithReader [Target] {onColumns : Option (List CString)} {numOnColumns : Nat}
    {params : Option LanceMergeInsertParams} {outResult : Bool} :
    (mergeWithReader library onColumns numOnColumns params outResult).Keeps Taken := by
  unfold mergeWithReader
  refine leads_bind keeps_get fun world => ?_
  cases world.handle with
  | none => exact keeps_ofExcept _
  | some dataset =>
    refine leads_bind (keeps_ofExcept _) fun _ => ?_
    cases onColumns with
    | none => exact keeps_ofExcept _
    | some onColumns =>
      refine leads_bind (keeps_ofUnwind _) fun _ => ?_
      refine leads_bind (keeps_ofExcept _) fun keys => ?_
      refine leads_bind (keeps_ofExcept _) fun resolved => ?_
      refine leads_bind (keeps_withMut keeps_mergeClosure) fun stats => ?_
      split
      · exact leads_bind (keeps_out fun _ => rfl) fun _ => keeps_pure _
      · exact keeps_pure _

/-- What the fragment writer checks before it takes the stream: both pointers, the
encoding of the URI, the schema and the storage options. The others take it first. -/
def StreamCall.PassesEarlyChecks (library : StreamLibrary) : StreamCall → Prop
  | .writeFragments uri schema storageOpts =>
    (∃ text, uri = .text text) ∧
      (∃ raw expected, schema = some raw ∧ library.importSchema raw = .returned (.ok expected)) ∧
      ∃ opts, parseStorageOptions storageOpts = .ok opts
  | _ => True

theorem addColumnsStream_consumed (live : stream.release = true) (batchSize : Nat) :
    (addColumnsStreamInner library batchSize (start (some stream) handle)).2.Consumed := by
  simp only [addColumnsStreamInner, get_bind, start]
  split
  · simp only [modify_bind]
    exact ⟨⟨_, rfl, rfl⟩, rfl⟩
  · exact withReader_consumed live fun _ => keeps_addColumnsWithReader

theorem importSchema_ok {raw : FFIArrowSchema} {expected : ArrowSchema} :
    importSchema library raw = .returned (.ok expected) ↔ library.importSchema raw = .returned (.ok expected) := by
  unfold importSchema
  split <;> simp_all

theorem writeFragments_consumed_iff (live : stream.release = true) (uri : CString) (schema : Option FFIArrowSchema)
    (storageOpts : Option (List CString)) :
    (writeFragmentsInner library uri schema storageOpts (start (some stream) handle)).2.Consumed ↔
      StreamCall.PassesEarlyChecks library (.writeFragments uri schema storageOpts) := by
  have untouched : ¬(start (some stream) handle).Consumed := fun consumed => absurd consumed.2 (by simp [start])
  cases uri with
  | null => exact iff_of_false untouched fun passes => nomatch passes.1
  | malformed message =>
    cases schema with
    | none => exact iff_of_false untouched fun passes => nomatch passes.1
    | some raw => exact iff_of_false untouched fun passes => nomatch passes.1
  | text uri =>
    cases schema with
    | none => exact iff_of_false untouched fun passes => nomatch passes.2.1
    | some raw =>
      have early : writeFragmentsInner library (.text uri) (some raw) storageOpts (start (some stream) handle) =
          (do
            let expected ← Body.ofUnwind (importSchema library raw)
            let opts ← Body.ofExcept (parseStorageOptions storageOpts)
            withReader library stream (writeFragmentsWithReader library uri expected opts) : StreamBody Int)
            (start (some stream) handle) := rfl
      rw [early]
      by_cases imported : ∃ expected, importSchema library raw = .returned (.ok expected)
      · obtain ⟨expected, imports⟩ := imported
        rw [imports, bind_ofUnwind_ok]
        cases parsed : parseStorageOptions storageOpts with
        | error error =>
          exact iff_of_false untouched fun passes => by
            obtain ⟨opts, same⟩ := passes.2.2
            exact nomatch parsed.symm.trans same
        | ok opts =>
          have passes : StreamCall.PassesEarlyChecks library (.writeFragments (.text uri) (some raw) storageOpts) :=
            ⟨⟨uri, rfl⟩, ⟨raw, expected, rfl, importSchema_ok.mp imports⟩, opts, parsed⟩
          exact iff_of_true (withReader_consumed live keeps_writeFragmentsWithReader) passes
      · rw [bind_ofUnwind_snd _ _ _ fun expected same => imported ⟨expected, same⟩]
        refine iff_of_false untouched fun passes => ?_
        obtain ⟨_, expected, same, imports⟩ := passes.2.1
        obtain rfl := Option.some.inj same
        exact imported ⟨expected, importSchema_ok.mpr imports⟩

/-- Every entry point consumes a live stream on every path, but the fragment writer
only where its arguments pass the checks it makes first. -/
theorem stream_consumed_iff [Target] (live : stream.release = true) (handle : Option LanceDataset)
    (call : StreamCall) :
    (call.run library (start (some stream) handle)).world.Consumed ↔ call.PassesEarlyChecks library := by
  rw [StreamCall.run, ffiTryNeg_world]
  cases call with
  | write uri schema mode params storageOpts outDataset =>
    exact iff_of_true (takingStream_consumed live keeps_writeWithReader) trivial
  | mergeInsert onColumns numOnColumns params outResult =>
    exact iff_of_true (takingStream_consumed live fun _ => keeps_mergeWithReader) trivial
  | addColumnsStream batchSize => exact iff_of_true (addColumnsStream_consumed live batchSize) trivial
  | writeFragments uri schema storageOpts => exact writeFragments_consumed_iff live uri schema storageOpts

section Sample

def sampleSchema : ArrowSchema := ⟨[("x", .primitive 4, false)], []⟩

def sampleStream : FFIArrowArrayStream := ⟨some (.returned (.ok sampleSchema)), true, true⟩

/-- A process whose fragment writer finds the target directory taken. -/
def sampleStreams : StreamLibrary where
  alreadyReleased := "C Data interface error: input stream is already released"
  importSchema _ := .returned (.ok sampleSchema)
  displaySchema _ := "Field x: Int32"
  parseVersion version := .ok version
  defaultWriteParams := ⟨.create, none, none, 1048576, 1024, 96636764160, none, false⟩
  executeUncommittedStream uri _ := .ending (.returned (.error ⟨.datasetAlreadyExists, uri⟩))
  writeDataset _ _ := .ending (.panicked (.text "index out of bounds"))
  prepareMerge _ _ _ := .returned (.ok ())
  executeReader dataset _ _ := .ending (.returned (.ok (dataset, ⟨1, 0, 0⟩)))
  addColumns dataset _ := .ending (.returned (.ok ()), dataset)
  held := []
  allocator := .bump

/-- With a NULL uri the call is refused and the stream stays as it was. -/
theorem write_fragments_leaves_stream :
    (@StreamCall.run sampleStreams target64 (.writeFragments .null (some ⟨1⟩) none)
        (start (some sampleStream) none)).code = -1 ∧
      ¬(@StreamCall.run sampleStreams target64 (.writeFragments .null (some ⟨1⟩) none)
        (start (some sampleStream) none)).world.Consumed := by
  refine ⟨rfl, fun consumed => ?_⟩
  exact absurd consumed.2 (by decide)

theorem stream_consumed_sample :
    (@StreamCall.run sampleStreams target64 (.writeFragments (.text "memory://out") (some ⟨1⟩) none)
        (start (some sampleStream) none)).world.Consumed ∧
      (@StreamCall.run sampleStreams target64 (.write .null none 7 none none true)
        (start (some sampleStream) none)).world.Consumed := by
  constructor
  · refine (@stream_consumed_iff sampleStreams sampleStream target64 rfl none _).mpr ?_
    exact ⟨⟨_, rfl⟩, ⟨⟨1⟩, sampleSchema, rfl, rfl⟩, ∅, rfl⟩
  · exact (@stream_consumed_iff sampleStreams sampleStream target64 rfl none _).mpr trivial

end Sample

end LanceC.Stream
