import LanceC.Dataset.Handle
import LanceC.Ffi.CString
import LanceC.Logic.Except
import Mathlib.Data.Finset.Sort

/-! Preparation of a full-text query context: the coverage checks that every
segment-scoped scan later relies on (fts_query.rs). -/

namespace LanceC.Fts

open Ffi Logic Machine

inductive LanceFtsCoverageMode where
  | strict
  | indexOnly
  deriving DecidableEq, Repr

def LanceFtsCoverageMode.tryFrom (value : Int) : Except LanceError LanceFtsCoverageMode :=
  match value with
  | 0 => .ok .strict
  | 1 => .ok .indexOnly
  | _ => .error (.invalidInput s!"invalid coverage_mode {value}; expected 0 (STRICT) or 1 (INDEX_ONLY)")

inductive LanceFtsMatchOperator where
  | or
  | and
  deriving DecidableEq, Repr

def LanceFtsMatchOperator.tryFrom (value : Int) : Except LanceError LanceFtsMatchOperator :=
  match value with
  | 0 => .ok .or
  | 1 => .ok .and
  | _ => .error (.invalidInput s!"invalid match_operator {value}; expected 0 (OR) or 1 (AND)")

structure MatchQuery where
  terms : String
  column : Option String
  operator : LanceFtsMatchOperator
  fuzziness : Option Nat
  maxExpansions : Nat
  prefixLength : Nat
  deriving DecidableEq, Repr

structure PhraseQuery where
  terms : String
  column : Option String
  slop : Nat
  deriving DecidableEq, Repr

/-- `compound` covers the boosted, Boolean and multi-column queries. -/
inductive FtsQuery where
  | matchQuery (query : MatchQuery)
  | phrase (query : PhraseQuery)
  | compound (query : FullTextSearchQuery)
  deriving DecidableEq, Repr

def FullTextSearchQuery.newQuery : FtsQuery → FullTextSearchQuery
  | .matchQuery query => ⟨query.terms, query.fuzziness, query.column.toList⟩
  | .phrase query => ⟨query.terms, none, query.column.toList⟩
  | .compound query => query

structure InvertedIndexParams where
  settings : String
  hasPositions : Bool
  deriving DecidableEq, Repr

/-- An opened segment; its tokenizer is known by the address. -/
structure InvertedIndex where
  address : Nat
  params : InvertedIndexParams
  deriving DecidableEq, Repr

structure FtsSearchParams where
  fuzziness : Option Nat
  maxExpansions : Nat
  prefixLength : Nat
  phraseSlop : Option Nat
  deriving DecidableEq, Repr

/-- What the preparation calls in Lance. `openScalarIndex` finds no inverted
index where the segment has another type. -/
structure FtsLibrary where
  loadScalarIndex : Dataset → String → Except LanceError (Option String)
  loadIndicesByName : Dataset → String → Except LanceError (List ManifestIndex)
  openScalarIndex : Dataset → String → Uuid → Except LanceError (Option InvertedIndex)
  newMatchQuery : String → MatchQuery
  newPhraseQuery : String → PhraseQuery
  params : FullTextSearchQuery → FtsSearchParams
  collectQueryTokens : String → InvertedIndex → List String
  buildGlobalBm25Scorer : List InvertedIndex → List String → FtsSearchParams → Except LanceError SharedScorer

/-- The ids as the 32-bit values that index metadata holds. -/
def currentFragmentIds (dataset : Dataset) : Except LanceError (List Nat) :=
  dataset.fragments.mapM fun fragment =>
    match u32TryFrom fragment.id with
    | some id => .ok id
    | none => .error (.invalidInput s!"fragment id {fragment.id} exceeds the u32 index metadata range")

def gatherSegment (unknown : IndexMetadata → LanceError) (keep : Nat → Bool) (gathered : Finset Nat)
    (segment : IndexMetadata) : Except LanceError (Finset Nat) :=
  match segment.fragmentBitmap with
  | none => .error (unknown segment)
  | some bitmap => .ok (gathered ∪ (bitmap.filter keep).toFinset)

/-- The loop that gathers the coverage bitmaps, as far as `keep` lets them in. -/
def gatherCoverage (unknown : IndexMetadata → LanceError) (keep : Nat → Bool) (segments : List IndexMetadata) :
    Except LanceError (Finset Nat) :=
  segments.foldlM (gatherSegment unknown keep) ∅

def indexedFragmentIds (column : String) (current : Finset Nat) (segments : List IndexMetadata) :
    Except LanceError (Finset Nat) :=
  gatherCoverage
    (fun segment => .invalidInput
      s!"FTS segment {segment.uuid.text} for column '{column}' has unknown fragment coverage")
    (fun id => id ∈ current) segments

/-- One `open_scalar_index` call of the joined futures. -/
def openInvertedIndex (library : FtsLibrary) (dataset : Dataset) (column : String) (segment : IndexMetadata) :
    Except LanceError InvertedIndex := do
  match ← library.openScalarIndex dataset column segment.uuid with
  | some inverted => .ok inverted
  | none => .error (.invalidInput
      s!"index segment {segment.uuid.text} for column '{column}' is not an inverted index")

def prepareScorer (library : FtsLibrary) (indexName column : String) (indices : List InvertedIndex)
    (first : InvertedIndex) (query : FtsQuery) : Except LanceError PreparedFtsQuery :=
  match query with
  | .matchQuery matchQuery => do
    let queryTokens := library.collectQueryTokens matchQuery.terms first
    let params := { library.params (.newQuery query) with
      fuzziness := matchQuery.fuzziness, maxExpansions := matchQuery.maxExpansions
      prefixLength := matchQuery.prefixLength }
    return .matchQuery (← library.buildGlobalBm25Scorer indices queryTokens params)
  | .phrase phraseQuery => do
    refuseIf (first.params.hasPositions = false) (.invalidInput
      s!"FTS index '{indexName}' for column '{column}' does not store token positions required by Phrase queries; recreate the index with positions enabled")
    let queryTokens := library.collectQueryTokens phraseQuery.terms first
    let params := { library.params (.newQuery query) with phraseSlop := some phraseQuery.slop }
    return .phrase (← library.buildGlobalBm25Scorer indices queryTokens params)
  | .compound _ => .error (.internal "prepared FTS query must be a single-column Match or Phrase query")

def checkFields (indexName : String) (expected : List Int) (segments : List ManifestIndex) :
    Except LanceError Unit :=
  match segments.find? fun segment => segment.fields ≠ expected with
  | none => .ok ()
  | some segment => .error (.invalidInput
      s!"FTS index '{indexName}' has inconsistent fields across segments; segment {segment.uuid.text} has fields {segment.fields}, expected {expected}")

def checkParams (indexName : String) (firstUuid : Uuid) (expected : InvertedIndexParams)
    (opened : List (IndexMetadata × InvertedIndex)) : Except LanceError Unit :=
  match opened.find? fun entry => entry.2.params ≠ expected with
  | none => .ok ()
  | some (segment, _) => .error (.invalidInput
      s!"FTS index '{indexName}' has inconsistent inverted index parameters; segment {segment.uuid.text} differs from segment {firstUuid.text}")

def prepareFtsQueryContext (library : FtsLibrary) (dataset : Arc Dataset) (column : String) (query : FtsQuery)
    (coverageMode : LanceFtsCoverageMode) : Except LanceError FtsQueryContextInner := do
  let version := dataset.value.version
  match ← library.loadScalarIndex dataset.value column with
  | none => .error (.invalidInput
      s!"no committed FTS index exists for column '{column}' in dataset version {version}")
  | some indexName =>
    match ← library.loadIndicesByName dataset.value indexName with
    | [] => .error (.invalidInput
        s!"FTS index for column '{column}' has no committed segments in dataset version {version}")
    | head :: rest =>
      checkFields indexName head.fields (head :: rest)
      let segments := (head :: rest).map ManifestIndex.toIndexMetadata
      let current ← currentFragmentIds dataset.value
      let indexed ← indexedFragmentIds column current.toFinset segments
      let unindexed := (current.toFinset \ indexed).sort
      refuseIf (coverageMode = .strict ∧ unindexed ≠ []) (.invalidInput
        s!"coverage_mode=STRICT requires every fragment in dataset version {version} to be indexed; column '{column}' has {unindexed.length} unindexed fragments: {unindexed}")
      let first ← openInvertedIndex library dataset.value column head.toIndexMetadata
      let others ← rest.mapM fun segment => openInvertedIndex library dataset.value column segment.toIndexMetadata
      checkParams indexName head.uuid first.params (segments.zip (first :: others))
      let prepared ← prepareScorer library indexName column (first :: others) first query
      return { dataset, query := .newQuery query, segments, prepared }

def parseQueryInputs (dataset : Option LanceDataset) (column query : CString) (coverageMode : Int) :
    Except LanceError (Arc Dataset × String × String × LanceFtsCoverageMode) :=
  match dataset with
  | none => .error (.invalidInput "dataset, column, and query must not be NULL")
  | some handle => do
    refuseIf (column = .null ∨ query = .null) (.invalidInput "dataset, column, and query must not be NULL")
    let column ← requireText column "column must not be empty"
    let query ← requireText query "query must not be empty"
    let coverageMode ← LanceFtsCoverageMode.tryFrom coverageMode
    return (handle.snapshot, column, query, coverageMode)

def prepareFtsMatchQueryInner (library : FtsLibrary) (dataset : Option LanceDataset) (column query : CString)
    (matchOperator : Int) (maxFuzzyDistance : Nat) (coverageMode : Int) :
    Except LanceError FtsQueryContextInner := do
  let (snapshot, column, queryText, coverageMode) ← parseQueryInputs dataset column query coverageMode
  let operator ← LanceFtsMatchOperator.tryFrom matchOperator
  refuseIf (maxFuzzyDistance ≠ 0) (.invalidInput
    s!"max_fuzzy_distance must be 0 for prepared FTS with the pinned Lance revision, got {maxFuzzyDistance}; the parameter is reserved until canonical fuzzy vocabulary injection is available")
  let matchQuery := { library.newMatchQuery queryText with column := some column, operator, fuzziness := some 0 }
  prepareFtsQueryContext library snapshot column (.matchQuery matchQuery) coverageMode

def prepareFtsPhraseQueryInner (library : FtsLibrary) (dataset : Option LanceDataset) (column query : CString)
    (slop : Int) (coverageMode : Int) : Except LanceError FtsQueryContextInner := do
  refuseIf (slop < 0) (.invalidInput s!"slop must be non-negative, got {slop}")
  let (snapshot, column, queryText, coverageMode) ← parseQueryInputs dataset column query coverageMode
  let phraseQuery := { library.newPhraseQuery queryText with column := some column, slop := slop.toNat }
  prepareFtsQueryContext library snapshot column (.phrase phraseQuery) coverageMode

section Coverage

/-- Some segment's bitmap names the fragment. -/
def Covers (segments : List IndexMetadata) (id : Nat) : Prop :=
  ∃ segment ∈ segments, ∃ bitmap, segment.fragmentBitmap = some bitmap ∧ id ∈ bitmap

def KnownCoverage (segments : List IndexMetadata) : Prop :=
  ∀ segment ∈ segments, ∃ bitmap, segment.fragmentBitmap = some bitmap

variable {unknown : IndexMetadata → LanceError} {keep : Nat → Bool} {segments : List IndexMetadata}

theorem covers_cons {head : IndexMetadata} {bitmap : List Nat}
    (known : head.fragmentBitmap = some bitmap) {id : Nat} :
    Covers (head :: segments) id ↔ id ∈ bitmap ∨ Covers segments id := by
  simp [Covers, known]

theorem gather_from (known : KnownCoverage segments) (start : Finset Nat) :
    ∃ gathered, segments.foldlM (gatherSegment unknown keep) start = .ok gathered ∧
      ∀ id, id ∈ gathered ↔ id ∈ start ∨ (keep id = true ∧ Covers segments id) := by
  induction segments generalizing start with
  | nil => exact ⟨start, rfl, by simp [Covers]⟩
  | cons head rest ih =>
    obtain ⟨bitmap, headKnown⟩ := known head List.mem_cons_self
    obtain ⟨gathered, folded, members⟩ :=
      ih (fun segment member => known segment (List.mem_cons_of_mem _ member)) (start ∪ (bitmap.filter keep).toFinset)
    have first : gatherSegment unknown keep start head = .ok (start ∪ (bitmap.filter keep).toFinset) := by
      simp [gatherSegment, headKnown]
    refine ⟨gathered, by rw [List.foldlM_cons, first]; exact folded, fun id => ?_⟩
    rw [members, covers_cons headKnown]
    simp only [Finset.mem_union, List.mem_toFinset, List.mem_filter]
    tauto

/-- The loop gathers the covered fragments that `keep` lets in. -/
theorem gatherCoverage_ok (known : KnownCoverage segments) :
    ∃ gathered, gatherCoverage unknown keep segments = .ok gathered ∧
      ∀ id, id ∈ gathered ↔ keep id = true ∧ Covers segments id := by
  obtain ⟨gathered, folded, members⟩ := @gather_from unknown keep _ known ∅
  exact ⟨gathered, folded, fun id => by simpa using members id⟩

theorem knownCoverage_of_gather {gathered : Finset Nat} (success : gatherCoverage unknown keep segments = .ok gathered) :
    KnownCoverage segments := by
  unfold gatherCoverage at success
  generalize (∅ : Finset Nat) = start at success
  induction segments generalizing start with
  | nil => simp [KnownCoverage]
  | cons head rest ih =>
    rw [List.foldlM_cons, bind_eq_ok] at success
    obtain ⟨next, first, others⟩ := success
    have headKnown : ∃ bitmap, head.fragmentBitmap = some bitmap := by
      cases stored : head.fragmentBitmap with
      | none => simp [gatherSegment, stored] at first
      | some bitmap => exact ⟨bitmap, rfl⟩
    intro segment member
    rcases List.mem_cons.mp member with same | later
    · exact same ▸ headKnown
    · exact ih next others segment later

theorem mem_of_gather {gathered : Finset Nat} (success : gatherCoverage unknown keep segments = .ok gathered)
    (id : Nat) : id ∈ gathered ↔ keep id = true ∧ Covers segments id := by
  obtain ⟨other, folded, members⟩ :=
    @gatherCoverage_ok unknown keep _ (knownCoverage_of_gather success)
  obtain rfl : gathered = other := Except.ok.inj (success.symm.trans folded)
  exact members id

end Coverage

section Specification

theorem currentFragmentIds_ok {dataset : Dataset} {current : List Nat}
    (success : currentFragmentIds dataset = .ok current) :
    current = dataset.fragments.map Fragment.id ∧ ∀ fragment ∈ dataset.fragments, fragment.id ≤ u32Max := by
  refine mapM_ok_map (fun fragment id step => ?_) success
  cases narrow : u32TryFrom fragment.id with
  | none => simp [narrow] at step
  | some value =>
    obtain rfl : value = id := by simpa [narrow] using step
    exact u32TryFrom_eq_some.mp narrow

/-- What the checks of the preparation leave a context with. -/
structure Prepared (coverageMode : LanceFtsCoverageMode) (context : FtsQueryContextInner) : Prop where
  nonempty : context.segments ≠ []
  known : KnownCoverage context.segments
  narrow : ∀ fragment ∈ context.dataset.value.fragments, fragment.id ≤ u32Max
  covered : coverageMode = .strict → ∀ fragment ∈ context.dataset.value.fragments, Covers context.segments fragment.id

theorem prepare_ok {library : FtsLibrary} {dataset : Arc Dataset} {column : String} {query : FtsQuery}
    {coverageMode : LanceFtsCoverageMode} {context : FtsQueryContextInner}
    (success : prepareFtsQueryContext library dataset column query coverageMode = .ok context) :
    context.dataset = dataset ∧ Prepared coverageMode context := by
  rw [prepareFtsQueryContext, bind_eq_ok] at success
  obtain ⟨loaded, _, success⟩ := success
  rcases loaded with _ | indexName
  · simp at success
  simp only [bind_eq_ok] at success
  obtain ⟨listed, _, success⟩ := success
  rcases listed with _ | ⟨head, rest⟩
  · simp at success
  simp only [bind_eq_ok, refuseIf_ok] at success
  obtain ⟨_, _, current, converted, indexed, gathered, _, complete, first, _, others, _, _, _, prepared, _, success⟩ :=
    success
  obtain ⟨rfl, narrow⟩ := currentFragmentIds_ok converted
  obtain rfl : _ = context := Except.ok.inj success
  refine ⟨rfl, by simp, knownCoverage_of_gather gathered, narrow, fun strict fragment member => ?_⟩
  have current : fragment.id ∈ (dataset.value.fragments.map Fragment.id).toFinset :=
    List.mem_toFinset.mpr (List.mem_map_of_mem member)
  by_contra uncovered
  have missing : fragment.id ∈ (dataset.value.fragments.map Fragment.id).toFinset \ indexed :=
    Finset.mem_sdiff.mpr ⟨current, fun inside => uncovered ((mem_of_gather gathered _).mp inside).2⟩
  exact complete ⟨strict, List.ne_nil_of_mem ((Finset.mem_sort _).mpr missing)⟩

end Specification

end LanceC.Fts
