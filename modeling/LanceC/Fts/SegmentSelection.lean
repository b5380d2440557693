import LanceC.Fts.Prepare
import LanceC.Logic.Keyed
import LanceC.Machine.Bytes

/-! Selection of the segments one worker searches: the caller's UUID list, the
segments it stands for and the current fragments these cover. -/

namespace LanceC

open Logic Machine

def Uuid.toBytes (uuid : Uuid) : List Byte := bigEndian 16 uuid.toNat

def Uuid.fromBytes (bytes : List Byte) : Uuid := BitVec.ofNat 128 (ofBigEndian bytes)

@[simp] theorem Uuid.length_toBytes (uuid : Uuid) : (toBytes uuid).length = 16 := length_bigEndian 16 _

@[simp] theorem Uuid.fromBytes_toBytes (uuid : Uuid) : fromBytes (toBytes uuid) = uuid := by
  have inRange : uuid.toNat % 256 ^ 16 = uuid.toNat := Nat.mod_eq_of_lt uuid.isLt
  rw [fromBytes, toBytes, ofBigEndian_bigEndian, inRange]
  exact (by simp : BitVec.ofNat 128 uuid.toNat = uuid)

namespace Fts

/-- `none` is a NULL pointer; a list is the memory behind the pointer. -/
def parseSegmentUuids [Target] (segmentUuids : Option (List Byte)) (len : Nat) :
    Except LanceError (List Uuid) := do
  refuseIf (segmentUuids = none ∧ 0 < len) (.invalidInput "segment_uuids is NULL but len is greater than 0")
  refuseIf (isizeMax / 16 < len) (.invalidInput
    s!"segment UUID count {len} exceeds the maximum addressable byte slice length")
  let uuids := (List.range len).map fun position => Uuid.fromBytes (block 16 (segmentUuids.getD []) position)
  let unique := uuids.toFinset
  refuseIf (unique.card ≠ uuids.length) (.invalidInput
    s!"segment_uuids contains duplicate UUIDs; len={uuids.length}, unique={unique.card}")
  return uuids

/-- `len == 0` clears the restriction. -/
def setFtsIndexSegments [Target] (segmentUuids : Option (List Byte)) (len : Nat) :
    Except LanceError (Option (List Uuid)) :=
  if len = 0 then .ok none else some <$> parseSegmentUuids segmentUuids len

def findFtsSegment (context : FtsQueryContextInner) (uuid : Uuid) : Except LanceError IndexMetadata :=
  match context.segments.find? fun segment => segment.uuid == uuid with
  | some segment => .ok segment
  | none => .error (.invalidInput
      s!"FTS segment UUID {uuid.text} is not present in the attached query context for dataset version {context.dataset.value.version}")

def selectFtsSegments (context : FtsQueryContextInner) (selectedUuids : Option (List Uuid)) :
    Except LanceError (List IndexMetadata) :=
  match selectedUuids with
  | none => .ok context.segments
  | some uuids => do
    let selected ← uuids.mapM (findFtsSegment context)
    refuseIf (selected = []) (.invalidInput "FTS segment subset must contain at least one UUID")
    return selected

def lostCoverage (segment : IndexMetadata) : LanceError :=
  .internal s!"prepared FTS segment {segment.uuid.text} lost its validated fragment coverage"

def narrowFragment (fragment : Fragment) : Except LanceError (Nat × Fragment) :=
  match u32TryFrom fragment.id with
  | some id => .ok (id, fragment)
  | none => .error (.internal
      s!"current fragment id {fragment.id} exceeds the validated u32 FTS coverage range")

def selectedCurrentFtsFragments (dataset : Dataset) (segments : List IndexMetadata) :
    Except LanceError (List Fragment) := do
  let selectedFragmentIds ← gatherCoverage lostCoverage (fun _ => true) segments
  let checked ← dataset.fragments.mapM narrowFragment
  return (checked.filter fun entry => entry.1 ∈ selectedFragmentIds).map Prod.snd

/-- A caller's array of UUIDs, which fits the address space. -/
structure UuidArray [Target] where
  uuids : List Uuid
  addressable : 16 * uuids.length ≤ isizeMax

def encodeUuids (uuids : List Uuid) : List Byte := uuids.flatMap Uuid.toBytes

theorem card_toFinset_eq_length {uuids : List Uuid} : uuids.toFinset.card = uuids.length ↔ uuids.Nodup :=
  Multiset.toFinset_card_eq_card_iff_nodup

theorem blocks_encodeUuids (uuids : List Uuid) :
    ((List.range uuids.length).map fun position => Uuid.fromBytes (block 16 (encodeUuids uuids) position)) = uuids := by
  have blocks := map_block_flatMap Uuid.length_toBytes uuids
  calc _ = ((List.range uuids.length).map (block 16 (uuids.flatMap Uuid.toBytes))).map Uuid.fromBytes := by
        rw [List.map_map]
        rfl
    _ = uuids := by
        rw [blocks, List.map_map]
        simp [Function.comp_def]

/-- A caller's list is accepted as it is, unless it is too long or repeats a UUID. -/
theorem parseSegmentUuids_encode [Target] {uuids parsed : List Uuid} :
    parseSegmentUuids (some (encodeUuids uuids)) uuids.length = .ok parsed ↔
      uuids.length ≤ isizeMax / 16 ∧ uuids.Nodup ∧ parsed = uuids := by
  simp only [parseSegmentUuids, Option.getD_some, blocks_encodeUuids, bind_eq_ok, refuseIf_ok, pure, Except.pure,
    Except.ok.injEq, not_not, not_lt, card_toFinset_eq_length]
  simp [eq_comm]

section Selection

variable {context : FtsQueryContextInner} {uuids : List Uuid} {selection : List IndexMetadata}

theorem findFtsSegment_ok {uuid : Uuid} {segment : IndexMetadata}
    (found : findFtsSegment context uuid = .ok segment) :
    segment.uuid = uuid ∧ segment ∈ context.segments := by
  unfold findFtsSegment at found
  cases search : context.segments.find? fun segment => segment.uuid == uuid with
  | none => simp [search] at found
  | some first =>
    obtain rfl : first = segment := by simpa [search] using found
    exact ⟨by simpa using List.find?_some search, List.mem_of_find?_eq_some search⟩

theorem findFtsSegment_isOk {uuid : Uuid} :
    (∃ segment, findFtsSegment context uuid = .ok segment) ↔ uuid ∈ context.segments.map (·.uuid) := by
  constructor
  · rintro ⟨segment, found⟩
    obtain ⟨same, member⟩ := findFtsSegment_ok found
    exact List.mem_map.mpr ⟨segment, member, same⟩
  · intro known
    obtain ⟨segment, member, same⟩ := List.mem_map.mp known
    cases search : context.segments.find? fun segment => segment.uuid == uuid with
    | none => exact absurd same (by simpa using List.find?_eq_none.mp search segment member)
    | some first => exact ⟨first, by simp [findFtsSegment, search]⟩

theorem mapM_findFtsSegment_ok (traversed : uuids.mapM (findFtsSegment context) = .ok selection) :
    selection.map (·.uuid) = uuids ∧ ∀ segment ∈ selection, segment ∈ context.segments := by
  induction mapM_eq_ok.mp traversed with
  | nil => simp
  | cons first _ ih =>
    obtain ⟨same, member⟩ := findFtsSegment_ok first
    obtain ⟨others, inside⟩ := ih (mapM_eq_ok.mpr ‹_›)
    exact ⟨by rw [List.map_cons, same, others], List.forall_mem_cons.mpr ⟨member, inside⟩⟩

theorem selectFtsSegments_eq_ok :
    selectFtsSegments context (some uuids) = .ok selection ↔
      uuids.mapM (findFtsSegment context) = .ok selection ∧ selection ≠ [] := by
  simp [selectFtsSegments, bind_eq_ok, pure, Except.pure]

/-- A list is accepted where it names segments of the context only, and at least one. -/
theorem selectFtsSegments_isOk :
    (∃ selection, selectFtsSegments context (some uuids) = .ok selection) ↔
      uuids ≠ [] ∧ ∀ uuid ∈ uuids, uuid ∈ context.segments.map (·.uuid) := by
  simp only [selectFtsSegments_eq_ok, ← findFtsSegment_isOk, ← mapM_isOk]
  have sameEmptiness : ∀ found, uuids.mapM (findFtsSegment context) = .ok found → (found ≠ [] ↔ uuids ≠ []) :=
    fun found traversed => by rw [← (mapM_findFtsSegment_ok traversed).1, ne_eq, ne_eq, List.map_eq_nil_iff]
  constructor
  · rintro ⟨found, traversed, nonempty⟩
    exact ⟨(sameEmptiness found traversed).mp nonempty, found, traversed⟩
  · rintro ⟨nonempty, found, traversed⟩
    exact ⟨found, traversed, (sameEmptiness found traversed).mpr nonempty⟩

end Selection

section Fragments

variable {dataset : Dataset} {segments : List IndexMetadata}

theorem covers_perm {other : List IndexMetadata} (same : segments.Perm other) (id : Nat) :
    Covers segments id ↔ Covers other id := by
  simp only [Covers, same.mem_iff]

theorem covers_flatten {selections : List (List IndexMetadata)} (id : Nat) :
    Covers selections.flatten id ↔ ∃ selection ∈ selections, Covers selection id := by
  simp only [Covers, List.mem_flatten]
  constructor
  · rintro ⟨segment, ⟨selection, member, inside⟩, covered⟩
    exact ⟨selection, member, segment, inside, covered⟩
  · rintro ⟨selection, member, segment, inside, covered⟩
    exact ⟨segment, ⟨selection, member, inside⟩, covered⟩

/-- The current fragments that the segments cover; where they cover all, the
fragment list of the snapshot itself. -/
theorem selectedCurrentFtsFragments_ok (known : KnownCoverage segments)
    (narrow : ∀ fragment ∈ dataset.fragments, fragment.id ≤ u32Max) :
    ∃ fragments, selectedCurrentFtsFragments dataset segments = .ok fragments ∧
      (∀ fragment, fragment ∈ fragments ↔ fragment ∈ dataset.fragments ∧ Covers segments fragment.id) ∧
      ((∀ fragment ∈ dataset.fragments, Covers segments fragment.id) → fragments = dataset.fragments) := by
  obtain ⟨gathered, folded, members⟩ := @gatherCoverage_ok lostCoverage (fun _ => true) segments known
  have checked : dataset.fragments.mapM narrowFragment =
      .ok (dataset.fragments.map fun fragment => (fragment.id, fragment)) := by
    refine mapM_eq_ok.mpr (List.forall₂_map_right_iff.mpr (List.forall₂_same.mpr fun fragment member => ?_))
    simp [narrowFragment, u32TryFrom_eq_some.mpr ⟨rfl, narrow fragment member⟩]
  refine ⟨dataset.fragments.filter fun fragment => fragment.id ∈ gathered, ?_, fun fragment => ?_,
    fun covered => ?_⟩
  · have kept : ((dataset.fragments.map fun fragment => (fragment.id, fragment)).filter
        fun entry => entry.1 ∈ gathered).map Prod.snd = dataset.fragments.filter fun fragment => fragment.id ∈ gathered := by
      rw [List.filter_map, List.map_map]
      exact List.map_id _
    rw [selectedCurrentFtsFragments, folded]
    simp only [bind, Except.bind, checked, kept, pure, Except.pure]
  · simp [members]
  · exact List.filter_eq_self.mpr fun fragment member => by simpa [members] using covered fragment member

theorem scopes_flatten {selections : List (List IndexMetadata)} {scopes : List (List Fragment)}
    (known : KnownCoverage selections.flatten) (narrow : ∀ fragment ∈ dataset.fragments, fragment.id ≤ u32Max)
    (limited : List.Forall₂ (fun selection scope => selectedCurrentFtsFragments dataset selection = .ok scope)
      selections scopes) (fragment : Fragment) :
    fragment ∈ scopes.flatten ↔ fragment ∈ dataset.fragments ∧ Covers selections.flatten fragment.id := by
  induction limited with
  | nil => simp [Covers]
  | @cons selection scope _ _ first _ ih =>
    rw [List.flatten_cons, KnownCoverage, List.forall_mem_append] at known
    obtain ⟨other, computed, members, _⟩ := selectedCurrentFtsFragments_ok known.1 narrow
    obtain rfl : other = scope := Except.ok.inj (computed.symm.trans first)
    rw [List.flatten_cons, List.mem_append, members, ih known.2]
    simp only [covers_flatten, List.exists_mem_cons_iff]
    tauto

end Fragments

section Distribution

variable [Target] {context : FtsQueryContextInner} {parts : List UuidArray} {selections : List (List IndexMetadata)}

def UuidArray.parse (array : UuidArray) : Except LanceError (List Uuid) :=
  parseSegmentUuids (some (encodeUuids array.uuids)) array.uuids.length

/-- What the workers select together: the segments their lists name. -/
theorem selections_flatten
    (selected : List.Forall₂ (fun (part : UuidArray) selection =>
      selectFtsSegments context (some part.uuids) = .ok selection) parts selections) :
    selections.flatten.map (·.uuid) = parts.flatMap (·.uuids) ∧
      ∀ segment ∈ selections.flatten, segment ∈ context.segments := by
  induction selected with
  | nil => simp
  | cons first _ ih =>
    obtain ⟨keys, inside⟩ := mapM_findFtsSegment_ok (selectFtsSegments_eq_ok.mp first).1
    constructor
    · rw [List.flatten_cons, List.map_append, keys, ih.1, List.flatMap_cons]
    · rw [List.flatten_cons]
      exact List.forall_mem_append.mpr ⟨inside, ih.2⟩

/-- Through the scanner's setter: an empty list stands for all segments. -/
theorem setFtsIndexSegments_select {uuids : List Uuid} {selection : List IndexMetadata} :
    (setFtsIndexSegments (some (encodeUuids uuids)) uuids.length >>= selectFtsSegments context) = .ok selection ↔
      uuids = [] ∧ selection = context.segments ∨
        uuids ≠ [] ∧ uuids.length ≤ isizeMax / 16 ∧ uuids.Nodup ∧
          uuids.mapM (findFtsSegment context) = .ok selection := by
  by_cases empty : uuids = []
  · subst empty
    simp [setFtsIndexSegments, selectFtsSegments, bind, Except.bind, eq_comm]
  · have sameEmptiness : uuids.mapM (findFtsSegment context) = .ok selection → selection ≠ [] := by
      intro traversed
      rw [← (mapM_findFtsSegment_ok traversed).1] at empty
      exact fun none => empty (by rw [none, List.map_nil])
    have parsed : (setFtsIndexSegments (some (encodeUuids uuids)) uuids.length >>= selectFtsSegments context) =
        (parseSegmentUuids (some (encodeUuids uuids)) uuids.length >>= fun parsed =>
          selectFtsSegments context (some parsed)) := by
      rw [setFtsIndexSegments, if_neg (by simpa using empty)]
      cases parseSegmentUuids (some (encodeUuids uuids)) uuids.length <;> rfl
    simp only [parsed, bind_eq_ok, parseSegmentUuids_encode, selectFtsSegments_eq_ok]
    constructor
    · rintro ⟨_, ⟨short, once, rfl⟩, traversed, _⟩
      exact .inr ⟨empty, short, once, traversed⟩
    · rintro (⟨none, _⟩ | ⟨_, short, once, traversed⟩)
      · exact absurd none empty
      · exact ⟨uuids, ⟨short, once, rfl⟩, traversed, sameEmptiness traversed⟩

/-- Workers with disjoint lists that name every segment search each segment
once, and together the fragments that all segments cover; in strict mode these
are all current fragments. A list with an unknown or a repeated UUID is refused. -/
theorem segments_distributed {library : FtsLibrary} {dataset : Arc Dataset} {column : String} {query : FtsQuery}
    {coverageMode : LanceFtsCoverageMode}
    (prepared : prepareFtsQueryContext library dataset column query coverageMode = .ok context)
    (distinct : (context.segments.map (·.uuid)).Nodup) :
    (∀ parts : List UuidArray, (∀ part ∈ parts, part.uuids ≠ []) →
      (parts.flatMap (·.uuids)).Perm (context.segments.map (·.uuid)) →
      ∃ selections scopes all,
        List.Forall₂ (fun (part : UuidArray) selection => part.parse = .ok part.uuids ∧
          selectFtsSegments context (some part.uuids) = .ok selection) parts selections ∧
        selections.flatten.Perm context.segments ∧
        List.Forall₂ (fun selection scope =>
          selectedCurrentFtsFragments context.dataset.value selection = .ok scope) selections scopes ∧
        selectedCurrentFtsFragments context.dataset.value context.segments = .ok all ∧
        (∀ fragment, fragment ∈ scopes.flatten ↔ fragment ∈ all) ∧
        (coverageMode = .strict → all = context.dataset.value.fragments)) ∧
    ∀ uuids : List Uuid, (∃ uuid ∈ uuids, uuid ∉ context.segments.map (·.uuid)) ∨ ¬uuids.Nodup →
      ∃ error, (parseSegmentUuids (some (encodeUuids uuids)) uuids.length >>= fun parsed =>
        selectFtsSegments context (some parsed)) = .error error := by
  obtain ⟨_, checks⟩ := prepare_ok prepared
  refine ⟨fun parts nonempty partition => ?_, fun uuids wrong => ?_⟩
  · have accepted : ∀ part ∈ parts, part.parse = .ok part.uuids := by
      intro part member
      have once : part.uuids.Nodup :=
        (List.nodup_flatMap.mp (partition.nodup_iff.mpr distinct)).1 part member
      have short : part.uuids.length ≤ isizeMax / 16 := by
        have := part.addressable
        omega
      exact parseSegmentUuids_encode.mpr ⟨short, once, rfl⟩
    have selectable : ∀ part ∈ parts, ∃ selection, selectFtsSegments context (some part.uuids) = .ok selection := by
      intro part member
      refine selectFtsSegments_isOk.mpr ⟨nonempty part member, fun uuid inside => ?_⟩
      exact partition.subset (List.mem_flatMap.mpr ⟨part, member, inside⟩)
    obtain ⟨selections, traversed⟩ := mapM_isOk.mpr selectable
    have selected := mapM_eq_ok.mp traversed
    obtain ⟨keys, inside⟩ := selections_flatten selected
    have permutation : selections.flatten.Perm context.segments :=
      perm_of_keys_perm distinct inside (keys ▸ partition)
    have known : KnownCoverage selections.flatten := fun segment member => checks.known segment (inside segment member)
    have scopable : ∀ selection ∈ selections,
        ∃ scope, selectedCurrentFtsFragments context.dataset.value selection = .ok scope := by
      intro selection member
      have selectionKnown : KnownCoverage selection := fun segment segmentMember =>
        known segment (List.mem_flatten.mpr ⟨selection, member, segmentMember⟩)
      obtain ⟨scope, computed, _⟩ := selectedCurrentFtsFragments_ok selectionKnown checks.narrow
      exact ⟨scope, computed⟩
    obtain ⟨scopes, scoping⟩ := mapM_isOk.mpr scopable
    have limited := mapM_eq_ok.mp scoping
    obtain ⟨all, computed, members, complete⟩ := selectedCurrentFtsFragments_ok checks.known checks.narrow
    refine ⟨selections, scopes, all, (List.forall₂_and_left _ _).mpr ⟨accepted, selected⟩, permutation, limited, computed,
      fun fragment => ?_, fun strict => complete (checks.covered strict)⟩
    rw [scopes_flatten known checks.narrow limited, members, covers_perm permutation]
  · cases outcome : parseSegmentUuids (some (encodeUuids uuids)) uuids.length >>= fun parsed =>
        selectFtsSegments context (some parsed) with
    | error error => exact ⟨error, rfl⟩
    | ok selection =>
      exfalso
      obtain ⟨parsed, parse, selected⟩ := bind_eq_ok.mp outcome
      obtain ⟨_, once, rfl⟩ := parseSegmentUuids_encode.mp parse
      obtain ⟨_, known⟩ := selectFtsSegments_isOk.mp ⟨selection, selected⟩
      rcases wrong with ⟨uuid, member, unknown⟩ | repeated
      · exact unknown (known uuid member)
      · exact repeated once

end Distribution

section Sample

/-- Two segments over three fragments; one bitmap still names a removed fragment. -/
def sampleSegments : List ManifestIndex :=
  [⟨⟨1, "text_idx", some 4, some [0, 1, 9], none⟩, [4], 6⟩, ⟨⟨2, "text_idx", some 4, some [1, 2], none⟩, [4], 7⟩]

def sampleFts : FtsLibrary where
  loadScalarIndex _ _ := .ok (some "text_idx")
  loadIndicesByName _ _ := .ok sampleSegments
  openScalarIndex _ _ uuid := .ok (some ⟨uuid.toNat, "simple", true⟩)
  newMatchQuery terms := ⟨terms, none, .or, none, 50, 0⟩
  newPhraseQuery terms := ⟨terms, none, 0⟩
  params _ := ⟨none, 50, 0, none⟩
  collectQueryTokens terms _ := [terms]
  buildGlobalBm25Scorer _ _ _ := .ok ⟨3⟩

def sampleSnapshot : Arc Dataset :=
  ⟨1, ⟨"memory://text", 7, [⟨0, some 3, []⟩, ⟨1, some 3, []⟩, ⟨2, some 3, []⟩], ⟨[]⟩, .v2, false, none⟩⟩

def sampleFtsContext : FtsQueryContextInner :=
  ⟨sampleSnapshot, .newQuery (.phrase ⟨"needle", some "text", 0⟩), sampleSegments.map (·.toIndexMetadata), .phrase ⟨3⟩⟩

theorem prepare_sample :
    prepareFtsQueryContext sampleFts sampleSnapshot "text" (.phrase ⟨"needle", some "text", 0⟩) .strict =
      .ok sampleFtsContext := by
  decide +kernel

def sampleParts : List (@UuidArray target64) := [@UuidArray.mk target64 [2] (by decide), @UuidArray.mk target64 [1] (by decide)]

theorem segments_distributed_sample :
    (∃ selections : List (List IndexMetadata), selections.flatten.Perm sampleFtsContext.segments ∧
        selectedCurrentFtsFragments sampleSnapshot.value sampleFtsContext.segments = .ok sampleSnapshot.value.fragments) ∧
      ∃ error, (@parseSegmentUuids target64 (some (encodeUuids [1, 3])) 2 >>= fun parsed =>
        selectFtsSegments sampleFtsContext (some parsed)) = .error error := by
  have distinct : (sampleFtsContext.segments.map (·.uuid)).Nodup := by decide
  obtain ⟨accepts, refuses⟩ := @segments_distributed target64 _ _ _ _ _ _ prepare_sample distinct
  constructor
  · obtain ⟨selections, _, all, _, permutation, _, computed, _, strict⟩ :=
      accepts sampleParts (by decide) (by decide)
    exact ⟨selections, permutation, (strict rfl) ▸ computed⟩
  · exact refuses [1, 3] (.inl ⟨3, by decide, by decide⟩)

end Sample

end Fts

end LanceC
