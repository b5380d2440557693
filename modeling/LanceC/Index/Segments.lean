import LanceC.Ffi.CString
import LanceC.Ffi.Process
import LanceC.Fts.SegmentSelection
import LanceC.Machine.Memory

/-! The segments of a named index, first counted and then written into the caller's buffer (index.rs). -/

namespace LanceC.Index

open Ffi Fts Logic Machine

/-- What the two calls reach in Lance. -/
structure SegmentSource where
  loadIndices : Dataset → Unwind (Except LanceError (List ManifestIndex))
  isSystemIndex : ManifestIndex → Bool

/-- The caller's memory and the slot of `out_count`; `none` is a NULL slot. -/
structure SegmentBuffers where
  memory : Memory
  outCount : Option Nat

variable {S : Type} (source : SegmentSource)

def namedSegments (indices : List ManifestIndex) (name : String) : List ManifestIndex :=
  indices.filter fun i => !source.isSystemIndex i && i.name == name

def indexNotFound (name : String) : LanceError := ⟨.indexNotFound, s!"name='{name}'"⟩

/-- The segments that the current snapshot has under a name; both calls begin with them. -/
def loadSegments (nulls : String) (indexName : CString) (dataset : Option LanceDataset) :
    Except (Stop LanceError) (List ManifestIndex) := do
  match dataset with
  | none => settled (.error (.invalidInput nulls))
  | some ds =>
    match ← settled (parseCString indexName) with
    | none => settled (.error (.invalidInput nulls))
    | some name =>
      let indices ← (source.loadIndices ds.snapshot.value).settle
      let segments := namedSegments source indices name
      settled (refuseIf (segments = []) (indexNotFound name))
      return segments

def countSegments (indexName : CString) (dataset : Option LanceDataset) : Except (Stop LanceError) Nat := do
  return (← loadSegments source "dataset and index_name must not be NULL" indexName dataset).length

def indexSegmentCountInner (indexName : CString) : Body (Process S) LanceError Nat := do
  Body.ofUnwind (.ofSettled (countSegments source indexName (← Body.get).dataset))

/-- The segments that a buffer for `capacity` UUIDs gets. -/
def fittingSegments (indexName : CString) (outUuids capacity : Nat) (dataset : Option LanceDataset) :
    Except (Stop LanceError) (List ManifestIndex) := do
  let nulls := "dataset, index_name, and out_uuids must not be NULL"
  settled (refuseIf (outUuids = 0) (.invalidInput nulls))
  let segments ← loadSegments source nulls indexName dataset
  settled (refuseIf (segments.length > capacity)
    (.invalidInput s!"out_uuids capacity ({capacity}) too small for {segments.length} segments"))
  return segments

/-- `for (i, seg) in segments.iter().enumerate() { copy_nonoverlapping(bytes, out_uuids.add(i * 16), 16) }`. -/
def copyUuids (outUuids : Nat) : List ManifestIndex → Nat → Memory → Memory
  | [], _, memory => memory
  | seg :: rest, i, memory => copyUuids outUuids rest (i + 1) (memory.write (outUuids + i * 16) seg.uuid.toBytes)

def datasetIndexSegmentsInner (indexName : CString) (outUuids capacity : Nat) :
    Body (Process SegmentBuffers) LanceError Unit := do
  let segments ← Body.ofUnwind (.ofSettled (fittingSegments source indexName outUuids capacity (← Body.get).dataset))
  Body.modify fun process => { process with own :=
    { memory := copyUuids outUuids segments 0 process.own.memory
      outCount := process.own.outCount.map fun _ => segments.length } }

section Copying

variable {source : SegmentSource} {nulls : String} {indexName : CString} {dataset : Option LanceDataset}

@[simp] theorem length_encodeUuids (uuids : List Uuid) : (encodeUuids uuids).length = uuids.length * 16 := by
  simp [encodeUuids, List.length_flatMap, Nat.mul_comm]

/-- The loop from any position on continues the text that it has written so far. -/
theorem copyUuids_append (outUuids : Nat) (before segments : List ManifestIndex) (memory : Memory) :
    copyUuids outUuids segments before.length (memory.write outUuids (encodeUuids (before.map (·.uuid)))) =
      memory.write outUuids (encodeUuids ((before ++ segments).map (·.uuid))) := by
  induction segments generalizing before with
  | nil => rw [copyUuids, List.append_nil]
  | cons segment rest ih =>
    have width : before.length * 16 = (encodeUuids (before.map (·.uuid))).length := by simp
    have joined : encodeUuids (before.map (·.uuid)) ++ segment.uuid.toBytes =
        encodeUuids ((before ++ [segment]).map (·.uuid)) := by
      simp [encodeUuids]
    have next := ih (before ++ [segment])
    rw [List.length_append, List.append_assoc] at next
    rw [copyUuids, width, Memory.write_append, joined]
    exact next

theorem copyUuids_eq (outUuids : Nat) (segments : List ManifestIndex) (memory : Memory) :
    copyUuids outUuids segments 0 memory = memory.write outUuids (encodeUuids (segments.map (·.uuid))) := by
  have copied := copyUuids_append outUuids [] segments memory
  rw [List.map_nil, encodeUuids, List.flatMap_nil, Memory.write_nil] at copied
  exact copied

/-- The segments are all those of the name, and there are some. -/
theorem loadSegments_eq_ok {segments : List ManifestIndex} :
    loadSegments source nulls indexName dataset = .ok segments ↔ ∃ ds name indices, dataset = some ds ∧
      indexName = .text name ∧ source.loadIndices ds.inner.value = .returned (.ok indices) ∧
      segments = namedSegments source indices name ∧ segments ≠ [] := by
  cases dataset with
  | none => simp [loadSegments]
  | some ds =>
    cases indexName with
    | null => simp [loadSegments, parseCString, bind_eq_ok]
    | malformed reason => simp [loadSegments, parseCString, bind_eq_ok]
    | text name =>
      have named : loadSegments source nulls (.text name) (some ds) = (do
          let indices ← (source.loadIndices ds.inner.value).settle
          let segments := namedSegments source indices name
          settled (refuseIf (segments = []) (indexNotFound name))
          return segments) := rfl
      simp only [named, bind_eq_ok, settled_eq_ok, Unwind.settle_eq_ok, refuseIf_ok, pure, Except.pure, Except.ok.injEq,
        Option.some.injEq, CString.text.injEq]
      constructor
      · rintro ⟨indices, loaded, _, nonempty, rfl⟩
        exact ⟨ds, name, indices, rfl, rfl, loaded, rfl, nonempty⟩
      · rintro ⟨_, _, indices, rfl, rfl, loaded, rfl, nonempty⟩
        exact ⟨indices, loaded, (), nonempty, rfl⟩

theorem loadSegments_length_ne_zero {segments : List ManifestIndex}
    (loaded : loadSegments source nulls indexName dataset = .ok segments) : segments.length ≠ 0 := by
  obtain ⟨_, _, _, _, _, _, _, nonempty⟩ := loadSegments_eq_ok.mp loaded
  exact mt List.length_eq_zero_iff.mp nonempty

/-- What a buffer gets fits into it. -/
theorem fittingSegments_eq_ok {outUuids capacity : Nat} {segments : List ManifestIndex} :
    fittingSegments source indexName outUuids capacity dataset = .ok segments ↔ outUuids ≠ 0 ∧
      loadSegments source "dataset, index_name, and out_uuids must not be NULL" indexName dataset = .ok segments ∧
      segments.length ≤ capacity := by
  simp only [fittingSegments, bind_eq_ok, settled_eq_ok, refuseIf_ok, pure, Except.pure, Except.ok.injEq, not_lt,
    gt_iff_lt]
  constructor
  · rintro ⟨_, given, _, loaded, _, fits, rfl⟩
    exact ⟨given, loaded, fits⟩
  · rintro ⟨given, loaded, fits⟩
    exact ⟨(), given, segments, loaded, (), fits, rfl⟩

end Copying

end LanceC.Index
