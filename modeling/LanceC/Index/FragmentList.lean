import LanceC.Index.ModelArray
import LanceC.Index.VectorParams
import Mathlib.Data.Finset.Card

/-! The fragment lists of the segment builder and of the model trainers, and the guard that
compares one with the dataset (`parse_options`, `parse_fragments`). -/

namespace LanceC.Index

open Logic Machine

inductive LanceIndexSegmentBuildMode where
  | auto
  | localTrain
  | precomputed
  deriving DecidableEq, Repr

def LanceIndexSegmentBuildMode.fromC (value : Int) : Except LanceError LanceIndexSegmentBuildMode :=
  match value with
  | 0 => .ok .auto
  | 1 => .ok .localTrain
  | 2 => .ok .precomputed
  | _ => .error (.invalidInput
      s!"mode must be 0 (AUTO), 1 (LOCAL_TRAIN), or 2 (PRECOMPUTED); got {value}")

/-- `{:?}`. -/
def LanceIndexSegmentBuildMode.debug : LanceIndexSegmentBuildMode → String
  | auto => "Auto"
  | localTrain => "LocalTrain"
  | precomputed => "Precomputed"

def LanceVectorIndexType.debug : LanceVectorIndexType → String
  | ivfFlat => "IvfFlat"
  | ivfSq => "IvfSq"
  | ivfPq => "IvfPq"
  | ivfHnswSq => "IvfHnswSq"
  | ivfHnswPq => "IvfHnswPq"
  | ivfHnswFlat => "IvfHnswFlat"

instance LanceVectorIndexType.decidableUsesPq (indexType : LanceVectorIndexType) : Decidable indexType.UsesPq :=
  inferInstanceAs (Decidable (indexType = .ivfPq ∨ indexType = .ivfHnswPq))

/-- The memory behind a `const uint32_t *`, as far as it is read. -/
abbrev U32Pointer := Nat → UInt32

/-- `slice::from_raw_parts(pointer, count).to_vec()`. -/
def U32Pointer.slice (pointer : U32Pointer) (count : Nat) : List Nat :=
  (List.range count).map fun index => (pointer index).toNat

/-- The ids of the snapshot that 32 bits hold, as a set. -/
def existingIds (dataset : Dataset) : Finset Nat :=
  (dataset.fragments.filterMap fun fragment => u32TryFrom fragment.id).toFinset

/-- `for (position, fragment_id) in ids.enumerate()`, beside the set of ids met before. -/
def forEachId (check : Nat → List Nat → Nat → Except LanceError Unit) :
    Nat → List Nat → List Nat → Except LanceError Unit
  | _, _, [] => .ok ()
  | position, unique, fragmentId :: rest => do
    check position unique fragmentId
    forEachId check (position + 1) (fragmentId :: unique) rest

def refuseDuplicate (position : Nat) (unique : List Nat) (fragmentId : Nat) : Except LanceError Unit :=
  refuseIf (fragmentId ∈ unique) (.invalidInput s!"fragment_ids[{position}] is duplicate fragment id {fragmentId}")

def refuseMissing (dataset : Dataset) (position fragmentId : Nat) : Except LanceError Unit :=
  refuseIf (fragmentId ∉ existingIds dataset) (.invalidInput
    s!"fragment_ids[{position}]={fragmentId} does not exist in dataset version {dataset.version}")

/-- An Arrow array is `none` where its pointer is NULL. -/
structure LanceIndexSegmentBuildOptions (Value : Type) where
  fragmentIds : Option U32Pointer
  fragmentCount : Nat
  indexUuid : Option Uuid
  ivfCentroids : Option (FfiArrowArray Value)
  ivfCentroidsSchema : Option Nat
  pqCodebook : Option (FfiArrowArray Value)
  pqCodebookSchema : Option Nat
  mode : Int

structure ParsedBuildOptions where
  fragmentIds : Option (List Nat)
  indexUuid : Option Uuid
  mode : LanceIndexSegmentBuildMode

section Parsers

variable [Target] {Value : Type}

/-- The pointer and the count of a fragment list, before its ids are looked at. -/
def readFragmentIds (fragmentIds : Option U32Pointer) (fragmentCount : Nat) :
    Except LanceError (Option (List Nat)) :=
  match fragmentIds, fragmentCount with
  | none, 0 => .ok none
  | none, count => .error (.invalidInput s!"fragment_ids is NULL but fragment_count is {count}")
  | some _, 0 => .error (.invalidInput "fragment_ids is non-NULL but fragment_count is 0")
  | some pointer, count =>
    if count > isizeMax / 4 then
      .error (.invalidInput s!"fragment_count {count} exceeds the maximum addressable u32 slice length")
    else .ok (some (pointer.slice count))

/-- The trainers' list: both checks of an id in one loop. -/
def parseFragments (dataset : Dataset) (fragmentIds : Option U32Pointer) (fragmentCount : Nat) :
    Except LanceError (Option (List Nat)) := do
  match ← readFragmentIds fragmentIds fragmentCount with
  | none => return none
  | some fragmentIds =>
    forEachId (fun position unique fragmentId => do
      refuseDuplicate position unique fragmentId
      refuseMissing dataset position fragmentId) 0 [] fragmentIds
    return some fragmentIds

/-- The builder's list: a loop for the duplicates, then one for the missing ids. -/
def parseOptionsFragments (dataset : Dataset) (fragmentIds : Option U32Pointer) (fragmentCount : Nat) :
    Except LanceError (Option (List Nat)) := do
  match ← readFragmentIds fragmentIds fragmentCount with
  | none => return none
  | some ids =>
    forEachId refuseDuplicate 0 [] ids
    forEachId (fun position _ fragmentId => refuseMissing dataset position fragmentId) 0 [] ids
    return some ids

/-- `none` are NULL options. -/
def parseOptions (options : Option (LanceIndexSegmentBuildOptions Value)) (dataset : Dataset) (scalar : Bool) :
    Except LanceError ParsedBuildOptions :=
  match options with
  | none => .ok { fragmentIds := none, indexUuid := none, mode := .auto }
  | some options => do
    let fragmentIds ← parseOptionsFragments dataset options.fragmentIds options.fragmentCount
    refuseIf (options.ivfCentroids.isNone ≠ options.ivfCentroidsSchema.isNone)
      (.invalidInput "ivf_centroids and ivf_centroids_schema must both be NULL or both be non-NULL")
    refuseIf (options.pqCodebook.isNone ≠ options.pqCodebookSchema.isNone)
      (.invalidInput "pq_codebook and pq_codebook_schema must both be NULL or both be non-NULL")
    refuseIf (scalar ∧ (options.ivfCentroids.isSome ∨ options.pqCodebook.isSome))
      (.invalidInput "ivf_centroids and pq_codebook are not valid for a scalar index segment")
    let mode ← LanceIndexSegmentBuildMode.fromC options.mode
    refuseIf (scalar ∧ mode = .precomputed) (.invalidInput "mode PRECOMPUTED is not valid for a scalar index segment")
    return { fragmentIds, indexUuid := options.indexUuid, mode }

end Parsers

/-- The refusal of a supplied dot-product PQ codebook over a part of the dataset. -/
def refuseDotSubset (indexType : LanceVectorIndexType) (mode : LanceIndexSegmentBuildMode) (dataset : Dataset)
    (fragmentIds : Option (List Nat)) : Except LanceError Unit :=
  match fragmentIds with
  | none => .ok ()
  | some fragmentIds =>
    let allFragmentIds := existingIds dataset
    let selectedFragmentIds := fragmentIds.toFinset
    refuseIf (selectedFragmentIds ≠ allFragmentIds) (.invalidInput (String.join
      ["pq_codebook is supplied for metric=DOT, index_type=", indexType.debug, ", mode=", mode.debug,
        ", and an effective strict fragment subset (", toString selectedFragmentIds.card, " of ",
        toString allFragmentIds.card, " fragments): pinned Lance revision ab6b5bbe reconstructs the supplied codebook ",
        "with a DOT ProductQuantizer in the distributed build path (make_global_pq), silently breaking the L2 ",
        "PQ-assignment contract; cover the full dataset in one segment (pass NULL fragment_ids or list every ",
        "fragment) or wait for upstream Lance DOT support"]))

section Loops

variable {check : Nat → List Nat → Nat → Except LanceError Unit} {Passes : Nat → Prop} {ids unique : List Nat}
variable {position : Nat}

theorem forEachId_ok_iff (each : ∀ position unique id, check position unique id = .ok () ↔ Passes id) :
    forEachId check position unique ids = .ok () ↔ ∀ id ∈ ids, Passes id := by
  induction ids generalizing position unique with
  | nil => simp [forEachId]
  | cons id rest ih => simp [forEachId, bind_eq_ok, each, ih]

/-- A loop that also refuses an id that it has met. -/
theorem forEachId_distinct_iff
    (each : ∀ position unique id, check position unique id = .ok () ↔ id ∉ unique ∧ Passes id) :
    forEachId check position unique ids = .ok () ↔ ids.Nodup ∧ ids.Disjoint unique ∧ ∀ id ∈ ids, Passes id := by
  induction ids generalizing position unique with
  | nil => simp [forEachId]
  | cons id rest ih =>
    have met : rest.Disjoint (id :: unique) ↔ id ∉ rest ∧ rest.Disjoint unique := by
      rw [List.disjoint_cons_right]
    simp only [forEachId, bind_eq_ok, each, ih, met, List.nodup_cons, List.disjoint_cons_left, List.forall_mem_cons,
      exists_const]
    tauto

end Loops

section Agreement

variable [Target] {Value : Type} {dataset : Dataset} {pointer : U32Pointer} {fragmentIds : Option U32Pointer}
variable {count : Nat}

/-- A list that selects fragments of the snapshot: NULL for all of them, or their ids, each once,
in a slice of a size that memory can hold. -/
def Selects (dataset : Dataset) : Option U32Pointer → Nat → Prop
  | none, count => count = 0
  | some pointer, count => (0 < count ∧ count ≤ isizeMax / 4) ∧ (pointer.slice count).Nodup ∧
      ∀ id ∈ pointer.slice count, ∃ fragment ∈ dataset.fragments, fragment.id = id

omit [Target] in
theorem mem_existingIds {id : Nat} :
    id ∈ existingIds dataset ↔ id ≤ u32Max ∧ ∃ fragment ∈ dataset.fragments, fragment.id = id := by
  simp only [existingIds, List.mem_toFinset, List.mem_filterMap, u32TryFrom_eq_some]
  constructor
  · rintro ⟨fragment, present, rfl, narrow⟩
    exact ⟨narrow, fragment, present, rfl⟩
  · rintro ⟨narrow, fragment, present, rfl⟩
    exact ⟨fragment, present, rfl, narrow⟩

omit [Target] in
theorem le_u32Max_of_mem_slice {id : Nat} (member : id ∈ pointer.slice count) : id ≤ u32Max := by
  obtain ⟨index, _, rfl⟩ := List.mem_map.mp member
  exact Nat.le_pred_of_lt (pointer index).toNat_lt

omit [Target] in
theorem exists_of_mem_slice :
    (∀ id ∈ pointer.slice count, id ∈ existingIds dataset) ↔
      ∀ id ∈ pointer.slice count, ∃ fragment ∈ dataset.fragments, fragment.id = id := by
  refine forall₂_congr fun id member => ?_
  rw [mem_existingIds, and_iff_right (le_u32Max_of_mem_slice member)]

theorem readFragmentIds_eq_ok {ids : Option (List Nat)} :
    readFragmentIds fragmentIds count = .ok ids ↔
      ids = fragmentIds.map (·.slice count) ∧
        match fragmentIds with
        | none => count = 0
        | some _ => 0 < count ∧ count ≤ isizeMax / 4 := by
  cases fragmentIds with
  | none => cases count <;> simp [readFragmentIds, eq_comm]
  | some pointer =>
    cases count with
    | zero => simp [readFragmentIds]
    | succ count =>
      rw [readFragmentIds]
      · split
        · rename_i long
          simp [Nat.not_le.mpr long]
        · rename_i short
          simp [Nat.not_lt.mp short, eq_comm]
      · exact nofun

/-- Both checks of an id, in one loop. -/
theorem parseFragments_eq_ok {ids : Option (List Nat)} :
    parseFragments dataset fragmentIds count = .ok ids ↔
      ids = fragmentIds.map (·.slice count) ∧ Selects dataset fragmentIds count := by
  cases fragmentIds with
  | none => cases count <;> simp [parseFragments, readFragmentIds, Selects, bind, Except.bind, pure, Except.pure, eq_comm]
  | some pointer =>
    have each : ∀ (position : Nat) (unique : List Nat) (id : Nat),
        (do refuseDuplicate position unique id; refuseMissing dataset position id) = .ok () ↔
          id ∉ unique ∧ id ∈ existingIds dataset := by
      intro position unique id
      simp [bind_eq_ok, refuseDuplicate, refuseMissing]
    rw [Selects, ← exists_of_mem_slice, parseFragments, bind_eq_ok]
    constructor
    · rintro ⟨read, given, checked⟩
      obtain ⟨rfl, bounds⟩ := readFragmentIds_eq_ok.mp given
      obtain ⟨_, passed, same⟩ := bind_eq_ok.mp checked
      obtain ⟨distinct, _, existing⟩ := (forEachId_distinct_iff each).mp passed
      exact ⟨(Except.ok.inj same).symm, bounds, distinct, existing⟩
    · rintro ⟨rfl, bounds, distinct, existing⟩
      refine ⟨_, readFragmentIds_eq_ok.mpr ⟨rfl, bounds⟩, bind_eq_ok.mpr ⟨(), ?_, rfl⟩⟩
      exact (forEachId_distinct_iff each).mpr ⟨distinct, List.disjoint_nil_right _, existing⟩

/-- A loop for each check. -/
theorem parseOptionsFragments_eq_ok {ids : Option (List Nat)} :
    parseOptionsFragments dataset fragmentIds count = .ok ids ↔
      ids = fragmentIds.map (·.slice count) ∧ Selects dataset fragmentIds count := by
  cases fragmentIds with
  | none =>
    cases count <;>
      simp [parseOptionsFragments, readFragmentIds, Selects, bind, Except.bind, pure, Except.pure, eq_comm]
  | some pointer =>
    have duplicate : ∀ (position : Nat) (unique : List Nat) (id : Nat),
        refuseDuplicate position unique id = .ok () ↔ id ∉ unique ∧ True := by
      intro position unique id
      rw [refuseDuplicate, refuseIf_ok, and_true]
    have missing : ∀ (position : Nat) (_ : List Nat) (id : Nat),
        refuseMissing dataset position id = .ok () ↔ id ∈ existingIds dataset := by
      intro position _ id
      rw [refuseMissing, refuseIf_ok, Classical.not_not]
    rw [Selects, ← exists_of_mem_slice, parseOptionsFragments, bind_eq_ok]
    constructor
    · rintro ⟨read, given, checked⟩
      obtain ⟨rfl, bounds⟩ := readFragmentIds_eq_ok.mp given
      obtain ⟨_, first, checked⟩ := bind_eq_ok.mp checked
      obtain ⟨_, second, same⟩ := bind_eq_ok.mp checked
      exact ⟨(Except.ok.inj same).symm, bounds, ((forEachId_distinct_iff duplicate).mp first).1,
        (forEachId_ok_iff missing).mp second⟩
    · rintro ⟨rfl, bounds, distinct, existing⟩
      refine ⟨_, readFragmentIds_eq_ok.mpr ⟨rfl, bounds⟩, bind_eq_ok.mpr ⟨(), ?_, bind_eq_ok.mpr ⟨(), ?_, rfl⟩⟩⟩
      · exact (forEachId_distinct_iff duplicate).mpr ⟨distinct, List.disjoint_nil_right _, fun _ _ => trivial⟩
      · exact (forEachId_ok_iff missing).mpr existing

/-- What `parseOptions` asks of the options besides the fragment list. -/
structure LanceIndexSegmentBuildOptions.Consistent (options : LanceIndexSegmentBuildOptions Value) (scalar : Bool)
    (mode : LanceIndexSegmentBuildMode) : Prop where
  centroids : options.ivfCentroids.isNone = options.ivfCentroidsSchema.isNone
  codebook : options.pqCodebook.isNone = options.pqCodebookSchema.isNone
  scalar : scalar = true → options.ivfCentroids = none ∧ options.pqCodebook = none ∧ mode ≠ .precomputed
  mode : LanceIndexSegmentBuildMode.fromC options.mode = .ok mode

theorem parseOptions_eq_ok {options : LanceIndexSegmentBuildOptions Value} {scalar : Bool}
    {parsed : ParsedBuildOptions} :
    parseOptions (some options) dataset scalar = .ok parsed ↔
      (parsed.fragmentIds = options.fragmentIds.map (·.slice options.fragmentCount) ∧
        Selects dataset options.fragmentIds options.fragmentCount) ∧
      options.Consistent scalar parsed.mode ∧ parsed.indexUuid = options.indexUuid := by
  simp only [parseOptions, bind_eq_ok, parseOptionsFragments_eq_ok, refuseIf_ok]
  constructor
  · rintro ⟨ids, ⟨rfl, selects⟩, _, centroids, _, codebook, _, arrays, mode, known, _, trained, same⟩
    obtain rfl := Except.ok.inj same
    refine ⟨⟨rfl, selects⟩, ⟨Classical.not_not.mp centroids, Classical.not_not.mp codebook, ?_, known⟩, rfl⟩
    intro isScalar
    simp only [isScalar, true_and, not_or, Option.not_isSome_iff_eq_none] at arrays trained
    exact ⟨arrays.1, arrays.2, trained⟩
  · rintro ⟨⟨same, selects⟩, ⟨centroids, codebook, scalar, mode⟩, uuid⟩
    refine ⟨_, ⟨rfl, selects⟩, (), not_not_intro centroids, (), not_not_intro codebook, (), ?_, _, mode, (), ?_, ?_⟩
    · rintro ⟨isScalar, some | some⟩
      · simp [(scalar isScalar).1] at some
      · simp [(scalar isScalar).2.1] at some
    · rintro ⟨isScalar, trained⟩
      exact (scalar isScalar).2.2 trained
    · rw [← same, ← uuid]
      rfl

end Agreement

section Guard

variable [Target] {Value : Type} {dataset : Dataset} {pointer : U32Pointer} {fragmentIds : Option U32Pointer}
variable {count : Nat}

def LeavesOut (dataset : Dataset) (ids : List Nat) : Prop := ∃ fragment ∈ dataset.fragments, fragment.id ∉ ids

/-- The guard sees what is left out among the ids that 32 bits hold. -/
theorem refuseDotSubset_refuses (indexType : LanceVectorIndexType) (mode : LanceIndexSegmentBuildMode)
    (selects : Selects dataset (some pointer) count) :
    (∃ error, refuseDotSubset indexType mode dataset (some (pointer.slice count)) = .error error) ↔
      ∃ fragment ∈ dataset.fragments, fragment.id ≤ u32Max ∧ fragment.id ∉ pointer.slice count := by
  have inside : (pointer.slice count).toFinset ⊆ existingIds dataset := by
    intro id member
    exact exists_of_mem_slice.mpr selects.2.2 id (List.mem_toFinset.mp member)
  have refused : (∃ error, refuseDotSubset indexType mode dataset (some (pointer.slice count)) = .error error) ↔
      (pointer.slice count).toFinset ≠ existingIds dataset := by
    rw [refuseDotSubset, refuseIf_isError]
  rw [refused]
  constructor
  · intro different
    obtain ⟨id, existing, missing⟩ := Finset.exists_of_ssubset (Finset.ssubset_iff_subset_ne.mpr ⟨inside, different⟩)
    obtain ⟨narrow, fragment, present, rfl⟩ := mem_existingIds.mp existing
    exact ⟨fragment, present, narrow, fun member => missing (List.mem_toFinset.mpr member)⟩
  · rintro ⟨fragment, present, narrow, missing⟩ same
    have existing := mem_existingIds.mpr ⟨narrow, fragment, present, rfl⟩
    rw [← same] at existing
    exact missing (List.mem_toFinset.mp existing)

/-- The parsers agree on the list, and the guard refuses it where it leaves out a fragment. -/
structure ListsAgree (Value : Type) (dataset : Dataset) (fragmentIds : Option U32Pointer) (count : Nat) : Prop where
  accepted : (∃ ids, parseFragments dataset fragmentIds count = .ok ids) ↔ Selects dataset fragmentIds count
  agreed : ∀ (options : LanceIndexSegmentBuildOptions Value) scalar mode, options.fragmentIds = fragmentIds →
    options.fragmentCount = count → options.Consistent scalar mode →
    ((∃ parsed, parseOptions (some options) dataset scalar = .ok parsed) ↔ Selects dataset fragmentIds count)
  ordered : ∀ ids, parseFragments dataset fragmentIds count = .ok ids → ids = fragmentIds.map (·.slice count)
  orderedBuilder : ∀ (options : LanceIndexSegmentBuildOptions Value) scalar parsed,
    options.fragmentIds = fragmentIds → options.fragmentCount = count →
    parseOptions (some options) dataset scalar = .ok parsed → parsed.fragmentIds = fragmentIds.map (·.slice count)
  guarded : ∀ indexType mode, Selects dataset fragmentIds count →
    ((∃ error, refuseDotSubset indexType mode dataset (fragmentIds.map (·.slice count)) = .error error) ↔
      ∃ pointer ∈ fragmentIds, LeavesOut dataset (pointer.slice count))

/-- Ids beyond 32 bits are lost on the guard only: a list is let through that leaves out nothing else. -/
theorem listsAgree_iff :
    ListsAgree Value dataset fragmentIds count ↔
      (Selects dataset fragmentIds count → ∀ pointer ∈ fragmentIds,
        (∀ fragment ∈ dataset.fragments, fragment.id ≤ u32Max) ∨
          ∃ fragment ∈ dataset.fragments, fragment.id ≤ u32Max ∧ fragment.id ∉ pointer.slice count) := by
  constructor
  · intro agree selects pointer given
    obtain rfl := Option.mem_def.mp given
    have guarded := agree.guarded .ivfPq .auto selects
    rw [Option.map_some, refuseDotSubset_refuses _ _ selects] at guarded
    by_cases narrow : ∀ fragment ∈ dataset.fragments, fragment.id ≤ u32Max
    · exact .inl narrow
    · obtain ⟨fragment, present, wide⟩ : ∃ fragment ∈ dataset.fragments, ¬fragment.id ≤ u32Max := by
        simpa using narrow
      exact .inr (guarded.mpr ⟨pointer, rfl, fragment, present, fun member => wide (le_u32Max_of_mem_slice member)⟩)
  · intro condition
    refine ⟨?_, ?_, fun ids parsed => (parseFragments_eq_ok.mp parsed).1, ?_, ?_⟩
    · simp only [parseFragments_eq_ok, exists_and_right, exists_eq, true_and]
    · rintro options scalar mode rfl rfl consistent
      constructor
      · rintro ⟨parsed, success⟩
        exact (parseOptions_eq_ok.mp success).1.2
      · intro selects
        exact ⟨⟨_, options.indexUuid, mode⟩, parseOptions_eq_ok.mpr ⟨⟨rfl, selects⟩, consistent, rfl⟩⟩
    · rintro options scalar parsed rfl rfl success
      exact (parseOptions_eq_ok.mp success).1.1
    · intro indexType mode selects
      cases fragmentIds with
      | none => exact iff_of_false nofun nofun
      | some pointer =>
        rw [Option.map_some, refuseDotSubset_refuses _ _ selects]
        constructor
        · rintro ⟨fragment, present, _, missing⟩
          exact ⟨pointer, rfl, fragment, present, missing⟩
        · rintro ⟨_, ⟨⟩, fragment, present, missing⟩
          rcases condition selects pointer rfl with narrow | seen
          · exact ⟨fragment, present, narrow fragment present, missing⟩
          · exact seen

end Guard

section Sample

/-- A fragment whose id needs 33 bits, beside an ordinary one. -/
def sampleWideDataset : Dataset where
  uri := "memory://wide"
  version := 1
  fragments := [⟨0, some 1, []⟩, ⟨4294967296, some 1, []⟩]
  schema := ⟨[]⟩
  storageFormat := .v2
  usesStableRowIds := false
  fragReuseIndex := none

/-- The list of the ordinary fragment passes for the whole dataset. -/
theorem refuseDotSubset_passes_subset :
    letI := target64
    Selects sampleWideDataset (some fun _ => 0) 1 ∧ LeavesOut sampleWideDataset [0] ∧
      refuseDotSubset .ivfPq .auto sampleWideDataset (some [0]) = .ok () ∧
      ¬ListsAgree Nat sampleWideDataset (some fun _ => 0) 1 := by
  let _ := target64
  have selects : Selects sampleWideDataset (some fun _ => 0) 1 := by
    refine ⟨by decide, by decide, ?_⟩
    intro id member
    obtain rfl : id = 0 := by simpa [U32Pointer.slice] using member
    exact ⟨⟨0, some 1, []⟩, List.mem_cons_self, rfl⟩
  have leaves : LeavesOut sampleWideDataset [0] :=
    ⟨⟨4294967296, some 1, []⟩, List.mem_cons_of_mem _ List.mem_cons_self, by decide⟩
  have passes : refuseDotSubset .ivfPq .auto sampleWideDataset (some [0]) = .ok () :=
    refuseIf_ok.mpr (not_not_intro (by decide))
  refine ⟨selects, leaves, passes, fun agree => ?_⟩
  obtain ⟨error, refused⟩ := (agree.guarded .ivfPq .auto selects).mpr ⟨_, rfl, leaves⟩
  cases passes.symm.trans refused

end Sample

end LanceC.Index
