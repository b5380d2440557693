import LanceC.Error
import LanceC.Machine.Unwind
import LanceC.Scalar.SelectionInvariant
import LanceC.Scalar.Statistics

/-! Segment-scoped candidate generation (`configure_candidates` of
scalar_segment.rs). Lance's planner, index storage and evaluator are parameters. -/

namespace LanceC.Scalar

open Logic Machine

/-- A logical filter expression, down to what is inspected before planning. -/
inductive Expr where
  | column (name : String)
  | isTrue (operand : Expr)
  | isFalse (operand : Expr)
  | isNotTrue (operand : Expr)
  | isNotFalse (operand : Expr)
  | other (operator : String) (operands : List Expr)

mutual

/-- `filter.exists` of the boolean truth tests. -/
def Expr.hasTruthTest : Expr → Bool
  | .column _ => false
  | .isTrue _ | .isFalse _ | .isNotTrue _ | .isNotFalse _ => true
  | .other _ operands => anyTruthTest operands

def anyTruthTest : List Expr → Bool
  | [] => false
  | operand :: rest => operand.hasTruthTest || anyTruthTest rest

end

mutual

def Expr.columnRefs : Expr → List String
  | .column name => [name]
  | .isTrue operand | .isFalse operand | .isNotTrue operand | .isNotFalse operand => operand.columnRefs
  | .other _ operands => allColumnRefs operands

def allColumnRefs : List Expr → List String
  | [] => []
  | operand :: rest => operand.columnRefs ++ allColumnRefs rest

end

inductive IndexType where
  | bTree
  | bitmap
  | labelList
  | other (name : String)
  deriving DecidableEq, Repr

/-- An opened physical index. -/
structure ScalarIndex where
  uuid : Uuid
  indexType : IndexType
  resultsAreRowAddresses : Bool
  deriving DecidableEq, Repr

/-- A row mask; a complement has no finite length. -/
structure RowMask where
  selected : Nat → Bool
  maxLen : Option Nat

structure IndexExprResult where
  isExact : Bool
  upper : RowMask

/-- The reader options that decide which rows a scan yields. -/
structure Scanner where
  fragmentIds : List Nat
  filter : Except LanceError (Option Expr)
  rowAddrPrefilter : Option RowMask

def Scanner.withRowAddrPrefilter (reader : Scanner) (mask : RowMask) : Scanner :=
  { reader with rowAddrPrefilter := some mask }

/-- The parts of Lance that candidate generation calls. `createFilterPlan`
stands for loading the index information and planning the filter over it, and
returns the plan's index query; `searchNanos` is what the clock measures of an evaluation. -/
structure Lance (Value : Type) where
  snapshot : Dataset
  loadIndices : Except LanceError (List IndexMetadata)
  createFilterPlan : Expr → Except LanceError (Option (ScalarIndexExpr Value))
  openScalarIndex : String → Uuid → Except LanceError ScalarIndex
  evaluate : ScalarIndexExpr Value → (String → String → Except LanceError ScalarIndex) →
    Except LanceError IndexExprResult
  searchNanos : Nat
  store : LookupStore Value

structure PreparedScalarSegment where
  segmentUuid : Uuid
  autoSelection : Bool
  fragmentIds : List Nat
  useScalarIndex : Bool
  deriving DecidableEq, Repr

/-- The reader `build_scanner` hands over beside the segment: scoped to its
fragments, with the full filter and no other row mask. -/
def PreparedScalarSegment.reader (self : PreparedScalarSegment)
    (filter : Except LanceError (Option Expr)) : Scanner :=
  { fragmentIds := self.fragmentIds, filter, rowAddrPrefilter := none }

/-- The loader reuses the one opened segment and refuses every other. -/
def SegmentIndexLoader.loadIndex (index : ScalarIndex) (indexName column : String)
    (askedColumn askedName : String) : Except LanceError ScalarIndex :=
  if askedColumn ≠ column ∨ askedName ≠ indexName then
    .error (.invalidInput "scalar expression references an index outside the selected segment")
  else .ok index

variable {Value : Type}

/-- Snapshot validation, made even where the accelerator is disabled. -/
def requestedSegment (lance : Lance Value) (self : PreparedScalarSegment) :
    Except LanceError (List IndexMetadata × IndexMetadata × Field) := do
  let visible := lance.snapshot.fragments.map Fragment.id
  if self.fragmentIds.any (!visible.contains ·) then
    throw (.invalidInput "scalar segment fragment_ids contains a fragment absent from the dataset snapshot")
  let indices ← lance.loadIndices
  let some indexMeta := indices.find? (·.uuid == self.segmentUuid)
    | throw (.invalidInput s!"scalar index segment {self.segmentUuid.text} is absent from the dataset snapshot")
  let some fieldId := indexMeta.keyedField
    | throw (.invalidInput "scalar segment must index a single key field")
  let some field := lance.snapshot.schema.fieldById fieldId
    | throw (.invalidInput "scalar segment key field is absent from the dataset schema")
  return (indices, indexMeta, field)

/-- The exits taken before the filter is looked at. -/
def snapshotFallback (snapshot : Dataset) (self : PreparedScalarSegment) (indexMeta : IndexMetadata)
    (field : Field) : Option FallbackReason :=
  if !self.useScalarIndex then some .disabled
  else if snapshot.storageFormat = .v1 then some .legacyStorage
  else if !snapshot.schema.fields.any (·.id == field.id) then some .nestedField
  else
    match indexMeta.fragmentBitmap with
    | none => some .unknownCoverage
    | some coverage =>
      if outsideCoverage coverage self.fragmentIds then some .partialCoverage
      else if (snapshot.fragments.filter (self.fragmentIds.contains ·.id)).any
          (fun fragment => !fragment.overlays.isEmpty || fragment.physicalRows.isNone) then
        some .fragmentState
      else if snapshot.fragReuseIndex.isSome then some .fragmentReuse
      else none

/-- The planned index query and its part on the requested segment. -/
def scopedQuery (lance : Lance Value) (reader : Scanner) (indexMeta : IndexMetadata) (field : Field) :
    Except LanceError (Except FallbackReason (ScalarIndexExpr Value × ScalarIndexExpr Value)) := do
  let some filter ← reader.filter | return .error .noFilter
  if filter.hasTruthTest then return .error .booleanTruthTest
  if filter.columnRefs.any (fun column => !(lance.snapshot.schema.fields.map Field.name).contains column) then
    return .error .filterSchema
  let some indexQuery ← lance.createFilterPlan filter | return .error .noDriver
  match scopedExpression indexQuery indexMeta.name field.name false 0 maxExpressionNodes with
  | .ok (some expr, _) => return .ok (indexQuery, expr)
  | .ok (none, _) => return .error .noDriver
  | .error reason => return .error reason

section

variable [Target] [ScalarOrder Value]

/-- The runtime selection, where it is enabled. -/
def selectSegment (lance : Lance Value) (self : PreparedScalarSegment) (indices : List IndexMetadata)
    (indexMeta : IndexMetadata) (indexQuery expr : ScalarIndexExpr Value) (stats : ExecutionSummaryCounts)
    (cache : LookupCache Value) :
    Option (Uuid × ScalarIndexExpr Value) × ExecutionSummaryCounts × LookupCache Value :=
  if self.autoSelection then
    let physicalRows := (lance.snapshot.fragments.filter (self.fragmentIds.contains ·.id)).foldl
      (fun sum fragment => saturatingAddU64 sum (fragment.physicalRows.getD 0)) 0
    let (selected, allCounts, cache, _) := (choose
      { store := lance.store, dataset := lance.snapshot, indexQuery
        domain := { fragmentIds := self.fragmentIds, physicalRows } }
      indices indexMeta expr cache stats.allCounts).value
    (selected, { stats with allCounts }, cache)
  else (some (self.segmentUuid, expr), stats, cache)

/-- Open and search one segment; only an exact result installs a mask. -/
def searchSegment (lance : Lance Value) (indices : List IndexMetadata) (reader : Scanner)
    (segmentUuid : Uuid) (expr : ScalarIndexExpr Value) (stats : ExecutionSummaryCounts) :
    Except (Stop LanceError) (Option FallbackReason × Scanner × ExecutionSummaryCounts) := do
  let some indexMeta := indices.find? (·.uuid == segmentUuid)
    | throw (.error (.invalidInput "runtime scalar index is absent from the dataset snapshot"))
  let some fieldId := indexMeta.keyedField
    | throw (.panic (.text "called `Option::unwrap()` on a `None` value"))
  let some field := lance.snapshot.schema.fieldById fieldId
    | throw (.error (.invalidInput "runtime scalar index field is absent from the dataset schema"))
  let index ← settled (lance.openScalarIndex field.name segmentUuid)
  if index.indexType ≠ .bTree ∧ index.indexType ≠ .bitmap ∧ index.indexType ≠ .labelList then
    return (some .indexType, reader, stats)
  if index.resultsAreRowAddresses ∧ lance.snapshot.usesStableRowIds then
    return (some .rowIdDomain, reader, stats)
  let result ← settled (lance.evaluate expr (SegmentIndexLoader.loadIndex index indexMeta.name field.name))
  let stats := stats.recordTime "scalar_segment_search_time" lance.searchNanos
  let stats := { stats with allCounts := stats.allCounts.insert "scalar_segments_searched" 1 }
  if !result.isExact then
    return (some .inexactResult, reader, stats)
  let allCounts := match result.upper.maxLen with
    | some rows => stats.allCounts.insert "scalar_segment_candidate_rows" (truncUsize rows)
    | none => stats.allCounts.insert "scalar_segment_candidate_rows_unknown" 1
  return (none, reader.withRowAddrPrefilter result.upper, { stats with allCounts })

/-- `some reason` is a fallback to the reader as it was given. -/
def configureCandidates (lance : Lance Value) (self : PreparedScalarSegment) (reader : Scanner)
    (stats : ExecutionSummaryCounts) (cache : LookupCache Value) :
    Except (Stop LanceError) (Option FallbackReason × Scanner × ExecutionSummaryCounts × LookupCache Value) := do
  let (indices, indexMeta, field) ← settled (requestedSegment lance self)
  match snapshotFallback lance.snapshot self indexMeta field with
  | some reason => return (some reason, reader, stats, cache)
  | none =>
    match ← settled (scopedQuery lance reader indexMeta field) with
    | .error reason => return (some reason, reader, stats, cache)
    | .ok (indexQuery, expr) =>
      match selectSegment lance self indices indexMeta indexQuery expr stats cache with
      | (none, stats, cache) => return (some .runtimeCost, reader, stats, cache)
      | (some (segmentUuid, expr), stats, cache) =>
        let (reason, reader, stats) ← searchSegment lance indices reader segmentUuid expr stats
        return (reason, reader, stats, cache)

end

section Loader

variable {indexName column : String} {requireComplete : Bool} {depth remaining rest : Nat}

/-- An evaluator that asks its loader for the leaves of the expression and for nothing else. -/
def AsksLeaves {Result : Type}
    (evaluate : ScalarIndexExpr Value → (String → String → Except LanceError ScalarIndex) → Result) : Prop :=
  ∀ expr loader other, (∀ leaf ∈ expr.leaves, loader leaf.column leaf.indexName = other leaf.column leaf.indexName) →
    evaluate expr loader = evaluate expr other

theorem loadIndex_accepts {index : ScalarIndex} {leaf : ScalarIndexSearch Value}
    (named : leaf.indexName = indexName ∧ leaf.column = column) :
    SegmentIndexLoader.loadIndex index indexName column leaf.column leaf.indexName = .ok index := by
  simp [SegmentIndexLoader.loadIndex, named.1, named.2]

/-- What scoping returns is implied by the expression, drops conjuncts only, and is
evaluated on the one opened segment without a rejected load. -/
theorem scopedExpression_sound {expr kept : ScalarIndexExpr Value}
    (success : scopedExpression expr indexName column requireComplete depth remaining = .ok (some kept, rest)) :
    (∀ valuation, expr.truth valuation = .yes → kept.truth valuation = .yes) ∧
      (requireComplete = true → kept = expr) ∧
      Prunes expr kept ∧
      (∀ leaf ∈ kept.leaves, leaf ∈ expr.leaves ∧ leaf.indexName = indexName ∧ leaf.column = column) ∧
      ∀ index,
        (∀ leaf ∈ kept.leaves,
          SegmentIndexLoader.loadIndex index indexName column leaf.column leaf.indexName = .ok index) ∧
        ∀ {Result : Type} (evaluate : ScalarIndexExpr Value → _ → Result), AsksLeaves evaluate →
          evaluate kept (SegmentIndexLoader.loadIndex index indexName column) = evaluate kept fun _ _ => .ok index := by
  have leaves := fun leaf member => scopedExpression_leaves success leaf member
  have accepted : ∀ index, ∀ leaf ∈ kept.leaves,
      SegmentIndexLoader.loadIndex index indexName column leaf.column leaf.indexName = .ok index :=
    fun index leaf member => loadIndex_accepts (leaves leaf member).2
  refine ⟨fun valuation => scopedExpression_weakens valuation success, ?_, scopedExpression_prunes success,
    leaves, fun index => ⟨accepted index, fun evaluate asks => asks kept _ _ (accepted index)⟩⟩
  rintro rfl
  exact scopedExpression_complete success

/-- Only the conjunct on the selected index is left, and loading its leaf is not refused. -/
theorem scopedExpression_sound_sample :
    let leaf (name : String) : ScalarIndexSearch Nat := ⟨"x", name, "BTree", .equals (some 1)⟩
    let kept := ScalarIndexExpr.not (.query (leaf "x_idx"))
    let index : ScalarIndex := ⟨0, .bTree, false⟩
    Prunes (.and kept (.query (leaf "y_idx"))) kept ∧
      kept.leaves.map (fun leaf => SegmentIndexLoader.loadIndex index "x_idx" "x" leaf.column leaf.indexName) =
        [.ok index] := by
  intro leaf kept index
  have success : scopedExpression (.and kept (.query (leaf "y_idx"))) "x_idx" "x" false 0 128 =
      .ok (some kept, 124) := by decide +kernel
  obtain ⟨_, _, prunes, _, loads⟩ := scopedExpression_sound success
  exact ⟨prunes, (loads index).2 (fun expr loader => expr.leaves.map fun leaf => loader leaf.column leaf.indexName)
    fun _ _ _ agree => List.map_congr_left agree⟩

end Loader

end LanceC.Scalar
