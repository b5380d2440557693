import LanceC.Dataset.Handle
import LanceC.Machine.Body

/-! Ownership of an Arrow C stream: the caller's struct, the reader a function
moves it into, and the producer's release callback. -/

namespace LanceC.Stream

open Machine

structure ArrowSchema where
  fields : List (String × DataType × Bool)
  metadata : List (String × String)
  deriving DecidableEq, Repr

/-- The callbacks of a stream. `getSchema` is what its schema callback ends with,
the conversion of the schema included; a stream without `release` is released. -/
structure FFIArrowArrayStream where
  getSchema : Option (Unwind (Except String ArrowSchema))
  getNext : Bool
  release : Bool
  deriving DecidableEq, Repr

def FFIArrowArrayStream.empty : FFIArrowArrayStream := ⟨none, false, false⟩

structure LanceMergeInsertResult where
  numInsertedRows : Nat
  numUpdatedRows : Nat
  numDeletedRows : Nat
  deriving DecidableEq, Repr

/-- What an entry point works on. `caller` is the struct behind the stream argument,
`none` where that is NULL; `reader` is the struct that the function itself has moved
into a reader; `releases` counts the calls of the release callback. -/
structure StreamWorld where
  caller : Option FFIArrowArrayStream
  reader : Option FFIArrowArrayStream
  releases : Nat
  handle : Option LanceDataset
  outDataset : Option Dataset
  outResult : Option LanceMergeInsertResult
  deriving DecidableEq, Repr

namespace StreamWorld

/-- The world at the call, with a stream and a dataset handle that may be NULL. -/
def start (caller : Option FFIArrowArrayStream) (handle : Option LanceDataset) : StreamWorld :=
  ⟨caller, none, 0, handle, none, none⟩

/-- Dropping a reader runs the release callback of the struct it owns. -/
def dropReader (world : StreamWorld) : StreamWorld :=
  match world.reader with
  | none => world
  | some stream => { world with reader := none, releases := world.releases + if stream.release then 1 else 0 }

/-- `ptr::replace(raw_stream, FFI_ArrowArrayStream::empty())`. -/
def moveOut (stream : FFIArrowArrayStream) (world : StreamWorld) : StreamWorld :=
  { world with caller := some .empty, reader := some stream }

/-- The stream has been taken: its owner will release it, or has done so, once. -/
def Taken (world : StreamWorld) : Prop :=
  (∃ released, world.caller = some released ∧ released.release = false) ∧
    ((∃ stream, world.reader = some stream ∧ stream.release = true) ∧ world.releases = 0 ∨
      world.reader = none ∧ world.releases = 1)

/-- The caller's struct is marked released, and the callback has run once. -/
def Consumed (world : StreamWorld) : Prop :=
  (∃ released, world.caller = some released ∧ released.release = false) ∧ world.releases = 1

theorem Taken.dropReader {world : StreamWorld} (taken : world.Taken) : world.dropReader.Taken := by
  obtain ⟨marked, ⟨⟨stream, held, live⟩, none⟩ | ⟨gone, once⟩⟩ := taken
  · exact ⟨by simpa [StreamWorld.dropReader, held] using marked,
      .inr (by simp [StreamWorld.dropReader, held, live, none])⟩
  · exact ⟨by simpa [StreamWorld.dropReader, gone] using marked, .inr (by simp [StreamWorld.dropReader, gone, once])⟩

theorem Taken.consumed {world : StreamWorld} (taken : world.Taken) : world.dropReader.Consumed := by
  obtain ⟨marked, ⟨⟨stream, held, live⟩, none⟩ | ⟨gone, once⟩⟩ := taken
  · exact ⟨by simpa [StreamWorld.dropReader, held] using marked, by simp [StreamWorld.dropReader, held, live, none]⟩
  · exact ⟨by simpa [StreamWorld.dropReader, gone] using marked, by simpa [StreamWorld.dropReader, gone] using once⟩

end StreamWorld

/-- A call that a reader is moved into. The callee owns the reader, which is
dropped by the time the call is over, whatever it ends with. -/
structure ReaderCall (ρ : Type) where
  run : StreamWorld → ρ × StreamWorld
  drops : ∀ world, (run world).2 = world.dropReader

/-- A callee that ends with a fixed result. -/
def ReaderCall.ending {ρ : Type} (result : ρ) : ReaderCall ρ :=
  ⟨fun world => (result, world.dropReader), fun _ => rfl⟩

/-- `ArrowArrayStreamReader::from_raw` on the caller's struct: it moves the struct out
first, and drops it again where the stream turns out unusable. -/
def fromRaw (alreadyReleased : String) (stream : FFIArrowArrayStream) : Body StreamWorld LanceError ArrowSchema :=
  Body.modify (StreamWorld.moveOut stream) >>= fun _ =>
  match stream.release, stream.getSchema with
  | true, some (.returned (.ok schema)) => pure schema
  | false, _ => Body.modify StreamWorld.dropReader >>= fun _ => Body.ofExcept (.error (.invalidInput alreadyReleased))
  | true, none => Body.modify StreamWorld.dropReader >>= fun _ =>
      Body.ofUnwind (.panicked (.text "called `Option::unwrap()` on a `None` value"))
  | true, some (.returned (.error message)) => Body.modify StreamWorld.dropReader >>= fun _ =>
      Body.ofExcept (.error (.invalidInput message))
  | true, some (.panicked payload) => Body.modify StreamWorld.dropReader >>= fun _ => Body.ofUnwind (.panicked payload)

open Body StreamWorld

theorem keeps_readerCall {α : Type} (call : ReaderCall (Unwind (Except LanceError α))) :
    Body.Keeps Taken (call.run : Body StreamWorld LanceError α) := by
  intro world taken
  rw [call.drops]
  exact taken.dropReader

theorem leads_fromRaw {alreadyReleased : String} {stream : FFIArrowArrayStream} (live : stream.release = true)
    (handle : Option LanceDataset) :
    (fromRaw alreadyReleased stream).Leads (· = start (some stream) handle) Taken := by
  have moved : (modify (moveOut stream) : Body StreamWorld LanceError Unit).Leads
      (· = start (some stream) handle) Taken := by
    rintro _ rfl
    exact ⟨⟨.empty, rfl, rfl⟩, .inl ⟨⟨stream, rfl, live⟩, rfl⟩⟩
  have dropping : ∀ outcome : Unwind (Except LanceError ArrowSchema),
      (modify dropReader >>= fun _ => ofUnwind outcome).Keeps Taken := fun outcome =>
    leads_bind (keeps_modify fun _ => Taken.dropReader) fun _ => keeps_ofUnwind outcome
  refine leads_bind moved fun _ => ?_
  split
  · exact keeps_pure _
  · exact dropping _
  · exact dropping _
  · exact dropping _
  · exact dropping _

/-- A body that starts by moving the live stream out consumes it on every path. -/
theorem consumed_of_fromRaw {α : Type} {alreadyReleased : String} {stream : FFIArrowArrayStream}
    (live : stream.release = true) {rest : ArrowSchema → Body StreamWorld LanceError α}
    (keeps : ∀ schema, (rest schema).Keeps Taken) (handle : Option LanceDataset) :
    (((fromRaw alreadyReleased stream >>= rest).dropping dropReader) (start (some stream) handle)).2.Consumed :=
  (leads_bind (leads_fromRaw live handle) keeps _ rfl).consumed

end LanceC.Stream
