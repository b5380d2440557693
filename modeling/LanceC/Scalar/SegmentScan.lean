import LanceC.Logic.Except
import LanceC.Scalar.Segment
import Mathlib.Data.Set.Basic

/-! A scan through a segment's candidates reads the rows the plain scan reads. -/

namespace LanceC.Scalar

open Logic Machine

variable {Value Row : Type}

/-- The live rows of a snapshot and what predicates say of them. -/
structure Contents (Value Row : Type) where
  fragment : Row → Nat
  rowId : Row → Nat
  rowAddr : Row → Nat
  filterTruth : Expr → Row → Truth
  leafTruth : ScalarIndexSearch Value → Row → Truth

namespace Contents

def domain (contents : Contents Value Row) (fragmentIds : List Nat) : Set Row :=
  {row | contents.fragment row ∈ fragmentIds}

/-- The rows on which the full filter is TRUE; a filter that is refused reads nothing. -/
def passing (contents : Contents Value Row) : Except LanceError (Option Expr) → Set Row
  | .ok (some filter) => {row | contents.filterTruth filter row = .yes}
  | .ok none => Set.univ
  | .error _ => ∅

/-- The rows a mask lets through; it speaks of row ids. -/
def candidates (contents : Contents Value Row) : Option RowMask → Set Row
  | some mask => {row | mask.selected (contents.rowId row) = true}
  | none => Set.univ

def rowsRead (contents : Contents Value Row) (reader : Scanner) : Set Row :=
  contents.domain reader.fragmentIds ∩ contents.passing reader.filter ∩
    contents.candidates reader.rowAddrPrefilter

theorem rowsRead_unmasked (contents : Contents Value Row) {reader : Scanner}
    (unmasked : reader.rowAddrPrefilter = none) :
    contents.rowsRead reader = contents.domain reader.fragmentIds ∩ contents.passing reader.filter := by
  rw [rowsRead, unmasked]
  exact Set.inter_univ _

/-- A mask that keeps every row of the domain on which the filter is TRUE changes nothing. -/
theorem rowsRead_masked (contents : Contents Value Row) (reader : Scanner) {mask : RowMask}
    (keeps : ∀ row ∈ contents.domain reader.fragmentIds, row ∈ contents.passing reader.filter →
      mask.selected (contents.rowId row) = true) :
    contents.rowsRead (reader.withRowAddrPrefilter mask) =
      contents.domain reader.fragmentIds ∩ contents.passing reader.filter :=
  Set.inter_eq_self_of_subset_left fun row member => keeps row member.1 member.2

end Contents

/-- What candidate generation relies on in Lance. -/
structure LanceContract (lance : Lance Value) (contents : Contents Value Row) : Prop where
  /-- The planned index query is implied by the filter. -/
  planned : ∀ filter query, filter.hasTruthTest = false →
    (∀ column ∈ filter.columnRefs, column ∈ lance.snapshot.schema.fields.map Field.name) →
    lance.createFilterPlan filter = .ok (some query) →
    ∀ row, contents.filterTruth filter row = .yes → query.truth (contents.leafTruth · row) = .yes
  /-- Evaluation asks the loader for every leaf and passes its refusals on. -/
  loaded : ∀ expr load result, lance.evaluate expr load = .ok result →
    ∀ leaf ∈ expr.leaves, ∃ index, load leaf.column leaf.indexName = .ok index
  /-- The upper mask of an exact result over one index keeps every row of the
  fragments the index covers on which the expression is TRUE. -/
  covered : ∀ indices indexMeta field coverage index expr load result,
    lance.loadIndices = .ok indices → indexMeta ∈ indices → field ∈ lance.snapshot.schema.fieldsPreOrder →
    indexMeta.keyedField = some field.id → indexMeta.fragmentBitmap = some coverage →
    lance.snapshot.fragReuseIndex = none →
    lance.openScalarIndex field.name indexMeta.uuid = .ok index →
    (∀ leaf ∈ expr.leaves, leaf.indexName = indexMeta.name ∧ leaf.column = field.name ∧
      load leaf.column leaf.indexName = .ok index) →
    lance.evaluate expr load = .ok result → result.isExact = true →
    ∀ row, contents.fragment row ∈ coverage →
      (∀ fragment ∈ lance.snapshot.fragments, fragment.id = contents.fragment row → fragment.overlays = []) →
      expr.truth (contents.leafTruth · row) = .yes →
      result.upper.selected
        (if index.resultsAreRowAddresses then contents.rowAddr row else contents.rowId row) = true
  /-- Without stable row ids a row's id is its address. -/
  rowIds : lance.snapshot.usesStableRowIds = false → ∀ row, contents.rowId row = contents.rowAddr row

theorem ScalarIndexExpr.exists_leaf (expr : ScalarIndexExpr Value) : ∃ leaf, leaf ∈ expr.leaves := by
  induction expr with
  | query search => exact ⟨search, List.mem_singleton_self _⟩
  | and lhs rhs left _ | or lhs rhs left _ =>
    obtain ⟨leaf, member⟩ := left
    exact ⟨leaf, List.mem_append_left _ member⟩
  | not inner operand => exact operand

section Steps

variable {lance : Lance Value} {self : PreparedScalarSegment} {indices : List IndexMetadata}
  {indexMeta : IndexMetadata} {field : Field}

theorem requestedSegment_ok (success : requestedSegment lance self = .ok (indices, indexMeta, field)) :
    lance.loadIndices = .ok indices ∧ indices.find? (·.uuid == self.segmentUuid) = some indexMeta ∧
      indexMeta.keyedField = some field.id ∧ field ∈ lance.snapshot.schema.fieldsPreOrder := by
  unfold requestedSegment at success
  dsimp only at success
  split at success
  · cases success
  · obtain ⟨loaded, load, success⟩ := bind_eq_ok.mp success
    split at success
    · rename_i found present
      split at success
      · rename_i id keyed
        split at success
        · rename_i column named
          cases success
          obtain ⟨inside, same⟩ := Schema.fieldById_some named
          exact ⟨load, present, same ▸ keyed, inside⟩
        · cases success
      · cases success
    · cases success

/-- What holds once none of the early exits applies. -/
theorem snapshotFallback_none {snapshot : Dataset}
    (proceeds : snapshotFallback snapshot self indexMeta field = none) :
    ∃ coverage, indexMeta.fragmentBitmap = some coverage ∧
      outsideCoverage coverage self.fragmentIds = false ∧ snapshot.fragReuseIndex = none ∧
      ∀ fragment ∈ snapshot.fragments, fragment.id ∈ self.fragmentIds → fragment.overlays = [] := by
  unfold snapshotFallback at proceeds
  repeat' split at proceeds
  all_goals try cases proceeds
  rename_i coverage known inside state reuse
  refine ⟨coverage, known, by simpa using inside, by simpa using reuse, ?_⟩
  intro fragment present member
  have clean := (by simpa using state : ∀ fragment ∈ snapshot.fragments, fragment.id ∈ self.fragmentIds →
    fragment.overlays = [] ∧ fragment.physicalRows ≠ none)
  exact (clean fragment present member).1

theorem scopedQuery_ok {reader : Scanner} {indexQuery expr : ScalarIndexExpr Value}
    (success : scopedQuery lance reader indexMeta field = .ok (.ok (indexQuery, expr))) :
    ∃ filter, reader.filter = .ok (some filter) ∧ filter.hasTruthTest = false ∧
      (∀ column ∈ filter.columnRefs, column ∈ lance.snapshot.schema.fields.map Field.name) ∧
      lance.createFilterPlan filter = .ok (some indexQuery) ∧
      ∃ rest, scopedExpression indexQuery indexMeta.name field.name false 0 maxExpressionNodes =
        .ok (some expr, rest) := by
  unfold scopedQuery at success
  obtain ⟨given, read, success⟩ := bind_eq_ok.mp success
  split at success
  · rename_i filter
    split at success
    · cases success
    · rename_i plain
      split at success
      · cases success
      · rename_i known
        obtain ⟨planned, plan, success⟩ := bind_eq_ok.mp success
        split at success
        · rename_i query
          split at success
          · rename_i kept rest pruned
            cases success
            refine ⟨filter, read, by simpa using plain, ?_, plan, rest, pruned⟩
            simpa using known
          · cases success
          · cases success
        · cases success
  · cases success

/-- The listed segment that is searched holds the fragment domain, and the
expression is the index query scoped to it. -/
structure Serves (snapshot : Dataset) (indexQuery : ScalarIndexExpr Value) (fragmentIds : List Nat)
    (candidate : IndexMetadata) (expr : ScalarIndexExpr Value) : Prop where
  query : ∃ field ∈ snapshot.schema.fieldsPreOrder, candidate.keyedField = some field.id ∧
    ∃ rest, scopedExpression indexQuery candidate.name field.name false 0 maxExpressionNodes =
      .ok (some expr, rest)
  domain : ∃ coverage, candidate.fragmentBitmap = some coverage ∧ ∀ id ∈ fragmentIds, id ∈ coverage

theorem Covers.serves {selector : Selector Value} {candidate : IndexMetadata} {expr : ScalarIndexExpr Value}
    (covers : Covers selector candidate expr) :
    Serves selector.dataset selector.indexQuery selector.domain.fragmentIds candidate expr := by
  obtain ⟨⟨field, top, keyed, rest, pruned⟩, coverage, known, inside⟩ := covers
  exact ⟨⟨field, Schema.fields_subset_preOrder top, keyed, rest, pruned⟩,
    coverage, known, fun id member => (inside id member).2⟩

/-- What candidate generation does to its statistics: it counts, and records the time of a search
where it has counted one. -/
inductive Counted [Target] (lance : Lance Value) (stats : ExecutionSummaryCounts) : ExecutionSummaryCounts → Prop where
  | skipped {allCounts : AllCounts}
      (same : allCounts "scalar_segments_searched" = stats.allCounts "scalar_segments_searched") :
      Counted lance stats { stats with allCounts }
  | searched {allCounts : AllCounts} (counted : allCounts "scalar_segments_searched" = some 1) :
      Counted lance stats { stats.recordTime "scalar_segment_search_time" lance.searchNanos with allCounts }

/-- A search either leaves the reader alone or installs the upper mask of an
exact result over the one opened segment. -/
theorem searchSegment_ok [Target] {reader out : Scanner} {uuid : Uuid} {expr : ScalarIndexExpr Value}
    {stats after : ExecutionSummaryCounts} {reason : Option FallbackReason}
    (success : searchSegment lance indices reader uuid expr stats = .ok (reason, out, after)) :
    Counted lance stats after ∧
      (out = reader ∨
        ∃ found column index result, lance.openScalarIndex column uuid = .ok index ∧
          (index.resultsAreRowAddresses = true → lance.snapshot.usesStableRowIds = false) ∧
          lance.evaluate expr (SegmentIndexLoader.loadIndex index found column) = .ok result ∧
          result.isExact = true ∧ out = reader.withRowAddrPrefilter result.upper) := by
  unfold searchSegment at success
  split at success
  · rename_i found present
    split at success
    · split at success
      · rename_i column _
        obtain ⟨index, opened, success⟩ := bind_eq_ok.mp success
        rw [settled_eq_ok] at opened
        dsimp only at success
        split at success
        · cases success
          exact ⟨.skipped rfl, .inl rfl⟩
        · split at success
          · cases success
            exact ⟨.skipped rfl, .inl rfl⟩
          · rename_i addressed
            obtain ⟨result, evaluated, success⟩ := bind_eq_ok.mp success
            rw [settled_eq_ok] at evaluated
            split at success
            · cases success
              exact ⟨.searched rfl, .inl rfl⟩
            · rename_i exactResult
              cases success
              refine ⟨.searched ?_, .inr ⟨found.name, column.name, index, result, opened, ?_, evaluated, ?_, rfl⟩⟩
              · cases result.upper.maxLen <;> rfl
              · simpa using addressed
              · simpa using exactResult
      · cases success
    · cases success
  · cases success

theorem loadIndex_ok {index loaded : ScalarIndex} {indexName column askedColumn askedName : String}
    (success : SegmentIndexLoader.loadIndex index indexName column askedColumn askedName = .ok loaded) :
    askedColumn = column ∧ askedName = indexName ∧ loaded = index := by
  unfold SegmentIndexLoader.loadIndex at success
  split at success
  · cases success
  · rename_i matching
    cases success
    have both := not_or.mp matching
    exact ⟨not_not.mp both.1, not_not.mp both.2, rfl⟩

variable [Target] [ScalarOrder Value]

theorem choose_searched {selector : Selector Value} {grouping : IndexMetadata} {expr : ScalarIndexExpr Value}
    {cache : LookupCache Value} {counts : AllCounts} :
    (choose selector indices grouping expr cache counts).value.2.1 "scalar_segments_searched" =
      counts "scalar_segments_searched" := by
  unfold choose
  split
  · rfl
  · rw [Traced.value_bind]
    split
    · rfl
    · rw [Traced.value_bind]
      split <;> rfl

theorem selectSegment_counted {indexQuery expr : ScalarIndexExpr Value} {stats after : ExecutionSummaryCounts}
    {cache left : LookupCache Value} {selected : Option (Uuid × ScalarIndexExpr Value)}
    (selects : selectSegment lance self indices indexMeta indexQuery expr stats cache = (selected, after, left)) :
    ∃ allCounts : AllCounts, after = { stats with allCounts } ∧
      allCounts "scalar_segments_searched" = stats.allCounts "scalar_segments_searched" := by
  unfold selectSegment at selects
  split at selects
  · cases selects
    exact ⟨_, rfl, choose_searched⟩
  · cases selects
    exact ⟨_, rfl, rfl⟩

theorem selectSegment_some {indexQuery expr chosen : ScalarIndexExpr Value} {stats after : ExecutionSummaryCounts}
    {cache left : LookupCache Value} {uuid : Uuid}
    (present : indices.find? (·.uuid == self.segmentUuid) = some indexMeta)
    (requested : Serves lance.snapshot indexQuery self.fragmentIds indexMeta expr)
    (selected : selectSegment lance self indices indexMeta indexQuery expr stats cache =
      (some (uuid, chosen), after, left)) :
    ∃ candidate ∈ indices, candidate.uuid = uuid ∧
      Serves lance.snapshot indexQuery self.fragmentIds candidate chosen := by
  have listed := List.mem_of_find?_eq_some present
  have named : indexMeta.uuid = self.segmentUuid := by simpa using List.find?_some present
  unfold selectSegment at selected
  split at selected
  · rcases choose_some_cases stats.allCounts (congrArg Prod.fst selected) with ⟨same, itself⟩ | alternative
    · subst same itself
      exact ⟨indexMeta, listed, rfl, requested⟩
    · obtain ⟨candidate, inside, same, covers⟩ := alternative
      exact ⟨candidate, inside, same, covers.serves⟩
  · cases selected
    exact ⟨indexMeta, listed, named, requested⟩

end Steps

section Scan

variable {lance : Lance Value} {contents : Contents Value Row} {self : PreparedScalarSegment}

/-- The mask of an exact search over a segment that serves the domain keeps
every row of the domain on which the index query is TRUE. -/
theorem exact_mask_keeps (contract : LanceContract lance contents) {indices : List IndexMetadata}
    (load : lance.loadIndices = .ok indices) {candidate : IndexMetadata} (listed : candidate ∈ indices)
    {indexQuery expr : ScalarIndexExpr Value}
    (serves : Serves lance.snapshot indexQuery self.fragmentIds candidate expr)
    (noReuse : lance.snapshot.fragReuseIndex = none)
    (clean : ∀ fragment ∈ lance.snapshot.fragments, fragment.id ∈ self.fragmentIds → fragment.overlays = [])
    {indexName column : String} {index : ScalarIndex} {result : IndexExprResult}
    (opened : lance.openScalarIndex column candidate.uuid = .ok index)
    (addressed : index.resultsAreRowAddresses = true → lance.snapshot.usesStableRowIds = false)
    (evaluated : lance.evaluate expr (SegmentIndexLoader.loadIndex index indexName column) = .ok result)
    (exactResult : result.isExact = true) {row : Row} (inside : row ∈ contents.domain self.fragmentIds)
    (holds : indexQuery.truth (contents.leafTruth · row) = .yes) :
    result.upper.selected (contents.rowId row) = true := by
  obtain ⟨⟨field, known, keyed, rest, pruned⟩, coverage, bitmap, covers⟩ := serves
  have asked : ∀ leaf ∈ expr.leaves, leaf.column = column ∧ leaf.indexName = indexName := by
    intro leaf member
    obtain ⟨loaded, success⟩ := contract.loaded expr _ result evaluated leaf member
    obtain ⟨sameColumn, sameName, _⟩ := loadIndex_ok success
    exact ⟨sameColumn, sameName⟩
  -- The column the index was opened by is the candidate's own, since some leaf names both.
  have sameColumn : field.name = column := by
    obtain ⟨leaf, member⟩ := expr.exists_leaf
    rw [← (scopedExpression_leaves pruned leaf member).2.2]
    exact (asked leaf member).1
  have leaves : ∀ leaf ∈ expr.leaves, leaf.indexName = candidate.name ∧ leaf.column = field.name ∧
      SegmentIndexLoader.loadIndex index indexName column leaf.column leaf.indexName = .ok index := by
    intro leaf member
    obtain ⟨_, ownName, ownColumn⟩ := scopedExpression_leaves pruned leaf member
    refine ⟨ownName, ownColumn, ?_⟩
    simp [SegmentIndexLoader.loadIndex, asked leaf member]
  have keeps := contract.covered indices candidate field coverage index expr _ result load listed known keyed
    bitmap noReuse (sameColumn ▸ opened) leaves evaluated exactResult row (covers _ inside)
    (fun fragment present same => clean fragment present (same ▸ inside))
    (scopedExpression_weakens (contents.leafTruth · row) pruned holds)
  cases addresses : index.resultsAreRowAddresses with
  | false => simpa [addresses] using keeps
  | true => simpa [addresses, contract.rowIds (addressed addresses)] using keeps

variable [Target] [ScalarOrder Value] {reader out : Scanner} {stats after : ExecutionSummaryCounts}
  {cache left : LookupCache Value} {reason : Option FallbackReason}

/-- Candidates leave a reader over the segment's fragments alone, or give it a mask that
takes no row from it. -/
theorem configureCandidates_ok
    (success : configureCandidates lance self reader stats cache = .ok (reason, out, after, left)) :
    Counted lance stats after ∧
      ∀ {Row : Type} (contents : Contents Value Row), LanceContract lance contents → reader.rowAddrPrefilter = none →
        contents.domain reader.fragmentIds = contents.domain self.fragmentIds →
        (out = reader ∨ ∃ mask, out = reader.withRowAddrPrefilter mask) ∧
          contents.rowsRead out = contents.rowsRead reader := by
  unfold configureCandidates at success
  obtain ⟨⟨indices, indexMeta, field⟩, requested, success⟩ := bind_eq_ok.mp success
  rw [settled_eq_ok] at requested
  obtain ⟨load, present, keyed, known⟩ := requestedSegment_ok requested
  dsimp only at success
  split at success
  · cases success
    exact ⟨.skipped rfl, fun _ _ _ _ => ⟨.inl rfl, rfl⟩⟩
  · rename_i proceeds
    obtain ⟨coverage, bitmap, inside, noReuse, clean⟩ := snapshotFallback_none proceeds
    obtain ⟨planned, scopedTo, success⟩ := bind_eq_ok.mp success
    rw [settled_eq_ok] at scopedTo
    split at success
    · cases success
      exact ⟨.skipped rfl, fun _ _ _ _ => ⟨.inl rfl, rfl⟩⟩
    · rename_i indexQuery expr
      obtain ⟨driver, read, truthFree, columns, plan, rest, pruned⟩ := scopedQuery_ok scopedTo
      split at success
      · rename_i selected
        obtain ⟨allCounts, rfl, same⟩ := selectSegment_counted selected
        cases success
        exact ⟨.skipped same, fun _ _ _ _ => ⟨.inl rfl, rfl⟩⟩
      · rename_i uuid chosen _ _ selected
        obtain ⟨allCounts, rfl, same⟩ := selectSegment_counted selected
        obtain ⟨⟨_, _, _⟩, searching, success⟩ := bind_eq_ok.mp success
        cases success
        obtain ⟨counted, searched⟩ := searchSegment_ok searching
        refine ⟨?_, fun contents contract unmasked sameDomain => ?_⟩
        · cases counted with
          | skipped kept => exact .skipped (kept.trans same)
          | searched counted => exact .searched counted
        have serves : Serves lance.snapshot indexQuery self.fragmentIds indexMeta expr :=
          ⟨⟨field, known, keyed, rest, pruned⟩, coverage, bitmap,
            fun id member => (covers_of_not_outside inside id member).2⟩
        obtain ⟨candidate, listed, same, serves⟩ := selectSegment_some present serves selected
        rcases searched with rfl | ⟨_, _, index, result, opened, addressed, evaluated, exactResult, rfl⟩
        · exact ⟨.inl rfl, rfl⟩
        · refine ⟨.inr ⟨result.upper, rfl⟩, ?_⟩
          rw [contents.rowsRead_unmasked unmasked]
          refine contents.rowsRead_masked reader fun row domain passes => ?_
          rw [sameDomain] at domain
          rw [read] at passes
          exact exact_mask_keeps contract load listed serves noReuse clean (same ▸ opened) addressed evaluated
            exactResult domain (contract.planned driver indexQuery truthFree columns plan row passes)

/-- Whatever path is taken, the reader left behind reads exactly the rows of the
fragment domain on which the full filter is TRUE. -/
theorem configureCandidates_rowsRead (contract : LanceContract lance contents)
    (filter : Except LanceError (Option Expr)) (stats after : ExecutionSummaryCounts) (cache left : LookupCache Value)
    (reason : Option FallbackReason) (reader : Scanner)
    (success : configureCandidates lance self (self.reader filter) stats cache =
      .ok (reason, reader, after, left)) :
    contents.rowsRead reader = contents.domain self.fragmentIds ∩ contents.passing filter := by
  obtain ⟨_, same⟩ := (configureCandidates_ok success).2 contents contract rfl rfl
  rw [same]
  exact contents.rowsRead_unmasked rfl

end Scan

section Sample

/-- Row `n` of the one fragment has key `n`. -/
def sampleContents : Contents Nat Nat where
  fragment _ := 0
  rowId row := row
  rowAddr row := row
  filterTruth filter row :=
    match filter with
    | .other "key = 15" _ => if row = 15 then .yes else .no
    | _ => .unknown
  leafTruth leaf row :=
    match leaf.query with
    | .equals (some key) => if row = key then .yes else .no
    | _ => .unknown

def sampleFilter : Expr := .other "key = 15" [.column "key"]

def sampleLance : Lance Nat where
  snapshot := sampleSelector.dataset
  loadIndices := .ok [sampleSegment 1 "one", sampleSegment 2 "two"]
  createFilterPlan filter :=
    match filter with
    | .other "key = 15" _ => .ok (some sampleSelector.indexQuery)
    | _ => .ok none
  openScalarIndex _ uuid := .ok ⟨uuid, .bTree, false⟩
  evaluate expr load :=
    if expr.leaves.all fun leaf => (load leaf.column leaf.indexName).isOk then
      .ok ⟨true, fun row => expr.truth (sampleContents.leafTruth · row) = .yes, none⟩
    else .error (.internal "index not found")
  searchNanos := 7
  store := sampleSelector.store

theorem sampleLance_contract : LanceContract sampleLance sampleContents where
  planned filter query _ _ plan row holds := by
    simp only [sampleLance, sampleContents] at plan holds
    split at plan
    · cases plan
      simp only at holds
      simp [sampleSelector, sampleSearch, ScalarIndexExpr.truth, sampleContents, holds]
    · cases plan
  loaded expr load result evaluated leaf member := by
    simp only [sampleLance] at evaluated
    split at evaluated
    · rename_i every
      have one := List.all_eq_true.mp every leaf member
      cases loads : load leaf.column leaf.indexName with
      | ok index => exact ⟨index, rfl⟩
      | error error => simp [loads, Except.isOk, Except.toBool] at one
    · cases evaluated
  covered := by
    intro indices indexMeta field coverage index expr load result _ _ _ _ _ _ opened _ evaluated _ row _ _ holds
    simp only [sampleLance] at opened evaluated
    cases opened
    split at evaluated
    · cases evaluated
      simpa [sampleContents] using holds
    · cases evaluated
  rowIds _ _ := rfl

/-- A full run that searches the second segment in place of the requested one. -/
theorem configureCandidates_rowsRead_sample :
    let _ := target64
    let _ := natOrder
    let self : PreparedScalarSegment := ⟨1, true, [0], true⟩
    ∃ reason reader stats cache, configureCandidates sampleLance self (self.reader (.ok (some sampleFilter)))
        .requested (fun _ => none) = .ok (reason, reader, stats, cache) ∧
      reason = none ∧
      sampleContents.rowsRead reader =
        sampleContents.domain [0] ∩ sampleContents.passing (.ok (some sampleFilter)) := by
  intro _ _ self
  have searched : (configureCandidates sampleLance self (self.reader (.ok (some sampleFilter)))
      .requested (fun _ => none)).toOption.map Prod.fst = some none := by decide +kernel
  cases success : configureCandidates sampleLance self (self.reader (.ok (some sampleFilter)))
      .requested (fun _ => none) with
  | error error => simp [success, Except.toOption] at searched
  | ok out =>
    obtain ⟨reason, reader, stats, cache⟩ := out
    refine ⟨reason, reader, stats, cache, rfl, by simpa [success, Except.toOption] using searched, ?_⟩
    exact configureCandidates_rowsRead sampleLance_contract _ _ _ _ _ _ _ success

end Sample

end LanceC.Scalar
