import LanceC.Cpp.Calls
import LanceC.Index.Segments
import LanceC.Scanner.Options

/-! `Dataset::index_segments` (lance.hpp): a count, a vector of that size and the call that fills it, with
the other threads at work in between. -/

namespace LanceC.Cpp

open ErrorState Ffi Fts Index Logic Machine Scanner

/-- Where a new block of bytes lies; `none` is `std::bad_alloc`. -/
structure Placement where
  place : Nat → Option Nat
  nonzero : ∀ bytes address, place bytes = some address → address ≠ 0

/-- What the wrapper reaches in Lance, and the memory it finds. -/
structure SegmentUpstream where
  source : SegmentSource
  display : LanceError → Unwind String
  placement : Placement

section Wrapper

variable (upstream : SegmentUpstream)

/-- A vector of so many bytes, all zero. -/
def newVector (bytes : Nat) : Threaded (Process SegmentBuffers) Nat := do
  match upstream.placement.place bytes with
  | none => throwing .allocation
  | some address =>
    Body.modify fun thread => { thread with world := { thread.world with own :=
      { thread.world.own with memory := thread.world.own.memory.write address (List.replicate bytes 0) } } }
    return address

def indexSegmentCount (indexName : CString) : Threaded (Process SegmentBuffers) Nat :=
  byValue (api upstream.display (indexSegmentCountInner upstream.source indexName) 0)

/-- An entry of the vector: `std::array<uint8_t, 16>`. -/
def zeroUuid : List Byte := List.replicate 16 0

def indexSegments (indexName : CString) : Threaded (Process SegmentBuffers) (List (List Byte)) := do
  let count ← indexSegmentCount upstream indexName
  let out ← newVector upstream (count * 16)
  if count = 0 then return []
  Body.modify fun thread => { thread with world := { thread.world with own :=
    { thread.world.own with outCount := some 0 } } }
  byCode (api upstream.display (datasetIndexSegmentsInner upstream.source indexName out count) ())
  let own := (← Body.get).world.own
  return resized zeroUuid (own.outCount.getD 0) ((List.range count).map fun i => own.memory.read (out + i * 16) 16)

/-- The failure of a call, as the exception that its wrapper throws. -/
def thrownBy {α : Type} (result : Except (Stop LanceError) α) : Except Exception α :=
  (guardedResult upstream.display (.ofSettled result)).mapError .ofLast

/-- What the caller is owed: the segments of the second snapshot, unless one of the calls fails on its own
snapshot or the vector gets no memory. -/
def owedSegments (indexName : CString) (first second : Option LanceDataset) : Except Exception (List Uuid) := do
  let count ← thrownBy upstream (countSegments upstream.source indexName first)
  match upstream.placement.place (count * 16) with
  | none => .error .allocation
  | some out =>
    let segments ← thrownBy upstream (fittingSegments upstream.source indexName out count second)
    return segments.map (·.uuid)

end Wrapper

section Exact

variable {upstream : SegmentUpstream} {indexName : CString} {thread : Thread (Process SegmentBuffers)}

/-- The bytes that may change: those of the vector. -/
def VectorByte (upstream : SegmentUpstream) (indexName : CString) (dataset : Option LanceDataset)
    (address : Nat) : Prop :=
  ∃ count start, countSegments upstream.source indexName dataset = .ok count ∧
    upstream.placement.place (count * 16) = some start ∧ Memory.InBuffer start (count * 16) address

/-- A failure is the same exception whatever the call was to return. -/
theorem thrownBy_error (upstream : SegmentUpstream) (stop : Stop LanceError) :
    ∃ exception, ∀ α : Type, thrownBy upstream (.error stop : Except (Stop LanceError) α) = .error exception := by
  cases stop with
  | panic payload => exact ⟨_, fun _ => rfl⟩
  | error error =>
    cases shown : upstream.display error with
    | returned text =>
      refine ⟨.ofLast (.of (errorCodeFromLance error) text), fun α => ?_⟩
      rw [thrownBy, Unwind.ofSettled, guardedResult, shown]
      rfl
    | panicked payload =>
      refine ⟨.ofLast (.of .panic (panicInCall payload)), fun α => ?_⟩
      rw [thrownBy, Unwind.ofSettled, guardedResult, shown]
      rfl

theorem thrownBy_ok {α : Type} {result : Except (Stop LanceError) α} {value : α}
    (returned : thrownBy upstream result = .ok value) : result = .ok value := by
  cases result with
  | ok found =>
    cases returned
    rfl
  | error stop =>
    obtain ⟨exception, thrown⟩ := thrownBy_error upstream stop
    rw [thrown] at returned
    cases returned

theorem indexSegmentCount_apply (upstream : SegmentUpstream) (indexName : CString)
    (thread : Thread (Process SegmentBuffers)) :
    indexSegmentCount upstream indexName thread =
      (.returned (thrownBy upstream (countSegments upstream.source indexName thread.world.overtaken.dataset)),
        ⟨none, thread.world.overtaken⟩) := by
  rw [indexSegmentCount, byValue_apply]
  rfl

/-- What the second call leaves of the vector and the slot. -/
def filled (out : Nat) (segments : List ManifestIndex) (buffers : SegmentBuffers) : SegmentBuffers where
  memory := buffers.memory.write out (encodeUuids (segments.map (·.uuid)))
  outCount := buffers.outCount.map fun _ => segments.length

theorem fill_ok {out capacity : Nat} {segments : List ManifestIndex}
    (loaded : fittingSegments upstream.source indexName out capacity thread.world.overtaken.dataset = .ok segments) :
    byCode (api upstream.display (datasetIndexSegmentsInner upstream.source indexName out capacity) ()) thread =
      (.returned (.ok ()),
        ⟨none, { thread.world.overtaken with own := filled out segments thread.world.own }⟩) := by
  have inner : datasetIndexSegmentsInner upstream.source indexName out capacity thread.world.overtaken =
      (.returned (.ok ()), { thread.world.overtaken with own := filled out segments thread.world.own }) := by
    rw [datasetIndexSegmentsInner, Body.get_bind, loaded, filled, ← copyUuids_eq, ← Process.overtaken_own thread.world]
    rfl
  rw [byCode_apply, api_thrown, inner]
  rfl

theorem fill_error {out capacity : Nat} {stop : Stop LanceError} {exception : Exception}
    (failed : fittingSegments upstream.source indexName out capacity thread.world.overtaken.dataset = .error stop)
    (thrown : thrownBy upstream (.error stop : Except (Stop LanceError) Unit) = .error exception) :
    byCode (api upstream.display (datasetIndexSegmentsInner upstream.source indexName out capacity) ()) thread =
      (.returned (.error exception), ⟨none, thread.world.overtaken⟩) := by
  have inner : datasetIndexSegmentsInner upstream.source indexName out capacity thread.world.overtaken =
      (.ofSettled (.error stop), thread.world.overtaken) := by
    rw [datasetIndexSegmentsInner, Body.get_bind, failed]
    cases stop <;> rfl
  rw [byCode_apply, api_thrown, inner, ← thrown]
  rfl

/-- The vector, cut to what was written, holds the UUIDs. -/
theorem filled_read {out count : Nat} {segments : List ManifestIndex} (buffers : SegmentBuffers)
    (fits : segments.length ≤ count) :
    resized zeroUuid segments.length
      ((List.range count).map fun i => (filled out segments buffers).memory.read (out + i * 16) 16) =
      (segments.map (·.uuid)).map Uuid.toBytes := by
  have read : ∀ i ∈ List.range segments.length, (filled out segments buffers).memory.read (out + i * 16) 16 =
      block 16 (encodeUuids (segments.map (·.uuid))) i := by
    intro i inside
    have before := List.mem_range.mp inside
    rw [filled, Memory.read_write (by rw [length_encodeUuids, List.length_map]; omega), block]
  have blocks := map_block_flatMap Uuid.length_toBytes (segments.map (·.uuid))
  rw [List.length_map] at blocks
  have room : segments.length ≤ ((List.range count).map fun i =>
      (filled out segments buffers).memory.read (out + i * 16) 16).length := by
    rw [List.length_map, List.length_range]
    exact fits
  rw [resized_of_le room, ← List.map_take, List.take_range, Nat.min_eq_left fits, List.map_congr_left read]
  exact blocks

theorem countSegments_ne_zero {dataset : Option LanceDataset} {count : Nat}
    (counted : countSegments upstream.source indexName dataset = .ok count) : count ≠ 0 := by
  simp only [countSegments, bind_eq_ok, pure, Except.pure, Except.ok.injEq] at counted
  obtain ⟨segments, loaded, rfl⟩ := counted
  exact loadSegments_length_ne_zero loaded

theorem owedSegments_length_ne_zero {first second : Option LanceDataset} {uuids : List Uuid}
    (owed : owedSegments upstream indexName first second = .ok uuids) : uuids.length ≠ 0 := by
  unfold owedSegments at owed
  obtain ⟨count, -, owed⟩ := bind_eq_ok.mp owed
  split at owed
  · cases owed
  · next out _ =>
    obtain ⟨segments, returned, same⟩ := bind_eq_ok.mp owed
    cases same
    have fitting : fittingSegments upstream.source indexName out count second = .ok segments := thrownBy_ok returned
    obtain ⟨-, loaded, -⟩ := fittingSegments_eq_ok.mp fitting
    rw [List.length_map]
    exact loadSegments_length_ne_zero loaded

/-- What is returned can be handed to a scanner as it is. -/
theorem owedSegments_scanned {first second : Option LanceDataset} {uuids : List Uuid}
    (owed : owedSegments upstream indexName first second = .ok uuids) (scanner : ScannerHandle) :
    scanner.setIndexSegments (some (encodeUuids uuids)) uuids.length =
      .ok { scanner with indexSegments := some uuids } := by
  rw [ScannerHandle.setIndexSegments, Option.getD_some, blocks_encodeUuids,
    if_neg (owedSegments_length_ne_zero owed)]
  rfl

theorem newVector_some {bytes out : Nat} (placed : upstream.placement.place bytes = some out) :
    newVector upstream bytes thread = (.returned (.ok out), { thread with world := { thread.world with own :=
      { thread.world.own with memory := thread.world.own.memory.write out (List.replicate bytes 0) } } }) := by
  rw [newVector, placed]
  rfl

theorem newVector_none {bytes : Nat} (placed : upstream.placement.place bytes = none) :
    newVector upstream bytes thread = (.returned (.error .allocation), thread) := by
  rw [newVector, placed]
  rfl

/-- From the zeroed vector on: the second call, and what the wrapper makes of its result. -/
theorem fill_exact {first : Process SegmentBuffers} {count out : Nat}
    (counted : countSegments upstream.source indexName first.dataset = .ok count)
    (placed : upstream.placement.place (count * 16) = some out) :
    ∃ reached : Process SegmentBuffers,
      (do
        byCode (api upstream.display (datasetIndexSegmentsInner upstream.source indexName out count) ())
        let own := (← Body.get).world.own
        return resized zeroUuid (own.outCount.getD 0) ((List.range count).map fun i => own.memory.read (out + i * 16) 16))
        ⟨none, { first with own := ⟨first.own.memory.write out (List.replicate (count * 16) 0), some 0⟩ }⟩ =
        (.returned (((thrownBy upstream (fittingSegments upstream.source indexName out count first.overtaken.dataset)).map
          (List.map (·.uuid))).map (List.map Uuid.toBytes)), ⟨none, reached⟩) ∧
      ∀ address, reached.own.memory address ≠ first.own.memory address →
        VectorByte upstream indexName first.dataset address := by
  have given : ∀ bytes : List Byte, bytes ≠ [] → out ≠ 0 := fun _ _ => upstream.placement.nonzero _ _ placed
  have zeroed : ∀ address, ¬Memory.InBuffer out (count * 16) address →
      first.own.memory.write out (List.replicate (count * 16) 0) address = first.own.memory address :=
    fun address outside => Memory.write_outside (given _) (by rw [List.length_replicate]) outside
  have confined : ∀ memory : Memory, (∀ address, ¬Memory.InBuffer out (count * 16) address →
      memory address = first.own.memory address) → ∀ address, memory address ≠ first.own.memory address →
      VectorByte upstream indexName first.dataset address :=
    fun memory kept address changed =>
      ⟨count, out, counted, placed, by_contra fun outside => changed (kept address outside)⟩
  let before : Thread (Process SegmentBuffers) :=
    ⟨none, { first with own := ⟨first.own.memory.write out (List.replicate (count * 16) 0), some 0⟩ }⟩
  have sees : before.world.overtaken.dataset = first.overtaken.dataset := by
    rw [Process.overtaken_with]
  cases fitted : fittingSegments upstream.source indexName out count first.overtaken.dataset with
  | error stop =>
    obtain ⟨exception, thrown⟩ := thrownBy_error upstream stop
    have failed := @fill_error upstream indexName before out count stop exception (by rw [sees, fitted]) (thrown Unit)
    refine ⟨before.world.overtaken, ?_, ?_⟩
    · rw [thrown]
      exact Body.bind_of_error failed
    · rw [Process.overtaken_own]
      exact confined _ zeroed
  | ok segments =>
    have filling := @fill_ok upstream indexName before out count segments (by rw [sees, fitted])
    obtain ⟨-, -, fits⟩ := fittingSegments_eq_ok.mp fitted
    refine ⟨{ before.world.overtaken with own := filled out segments before.world.own }, ?_, ?_⟩
    · have read : resized zeroUuid segments.length ((List.range count).map fun i =>
          (filled out segments before.world.own).memory.read (out + i * 16) 16) = _ := filled_read before.world.own fits
      rw [Body.bind_of_ok filling, Body.get_bind]
      exact congrArg (fun entries : List (List Byte) => (Unwind.returned (Except.ok entries), _)) read
    · refine confined _ fun address outside => ?_
      have width : (encodeUuids (segments.map (·.uuid))).length ≤ count * 16 := by
        rw [length_encodeUuids, List.length_map]
        omega
      exact (Memory.write_outside (given _) width outside).trans (zeroed address outside)

/-- Between the two calls the other threads may do what they like: the wrapper ends as it owes its caller for
the two snapshots, writes nothing outside its vector, leaves no error behind, and what it returns selects
the same segments in a scanner. -/
theorem indexSegments_exact (upstream : SegmentUpstream) (indexName : CString)
    (thread : Thread (Process SegmentBuffers)) :
    let first := thread.world.overtaken
    ∃ reached : Process SegmentBuffers,
      indexSegments upstream indexName thread =
        (.returned ((owedSegments upstream indexName first.dataset first.overtaken.dataset).map (List.map Uuid.toBytes)),
          ⟨none, reached⟩) ∧
      (∀ address, reached.own.memory address ≠ thread.world.own.memory address →
        VectorByte upstream indexName first.dataset address) ∧
      ∀ uuids, owedSegments upstream indexName first.dataset first.overtaken.dataset = .ok uuids →
        ∀ scanner : ScannerHandle, scanner.setIndexSegments (some (encodeUuids uuids)) uuids.length =
          .ok { scanner with indexSegments := some uuids } := by
  intro first
  suffices ran : ∃ reached : Process SegmentBuffers,
      indexSegments upstream indexName thread =
        (.returned ((owedSegments upstream indexName first.dataset first.overtaken.dataset).map (List.map Uuid.toBytes)),
          ⟨none, reached⟩) ∧
      ∀ address, reached.own.memory address ≠ thread.world.own.memory address →
        VectorByte upstream indexName first.dataset address by
    obtain ⟨reached, ran, confined⟩ := ran
    exact ⟨reached, ran, confined, fun uuids owed => owedSegments_scanned owed⟩
  have counting := indexSegmentCount_apply upstream indexName thread
  cases counted : countSegments upstream.source indexName first.dataset with
  | error stop =>
    obtain ⟨exception, thrown⟩ := thrownBy_error upstream stop
    have owed : owedSegments upstream indexName first.dataset first.overtaken.dataset = .error exception := by
      rw [owedSegments, counted, thrown]
      rfl
    rw [counted, thrown] at counting
    rw [indexSegments, Body.bind_of_error counting, owed]
    exact ⟨first, rfl, fun address changed => absurd (by rw [Process.overtaken_own]) changed⟩
  | ok count =>
    have accepted : thrownBy upstream (.ok count : Except (Stop LanceError) Nat) = .ok count := rfl
    rw [counted, accepted] at counting
    rw [indexSegments, Body.bind_of_ok counting]
    cases placed : upstream.placement.place (count * 16) with
    | none =>
      have owed : owedSegments upstream indexName first.dataset first.overtaken.dataset = .error .allocation := by
        simp only [owedSegments, counted, accepted, bind, Except.bind, placed]
      rw [Body.bind_of_error (newVector_none placed), owed]
      exact ⟨first, rfl, fun address changed => absurd (by rw [Process.overtaken_own]) changed⟩
    | some out =>
      have owed : owedSegments upstream indexName first.dataset first.overtaken.dataset =
          (thrownBy upstream (fittingSegments upstream.source indexName out count first.overtaken.dataset)).map
            (List.map (·.uuid)) := by
        simp only [owedSegments, counted, accepted, bind, Except.bind, placed]
        cases thrownBy upstream (fittingSegments upstream.source indexName out count first.overtaken.dataset) <;> rfl
      obtain ⟨reached, filling, confined⟩ := fill_exact counted placed
      rw [Process.overtaken_own] at confined
      refine ⟨reached, ?_, confined⟩
      rw [Body.bind_of_ok (newVector_some placed), if_neg (countSegments_ne_zero counted), Body.modify_bind, owed]
      exact filling

end Exact

end LanceC.Cpp
