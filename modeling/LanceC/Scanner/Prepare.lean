import LanceC.Scalar.Segment
import LanceC.Scalar.Statistics
import LanceC.Scanner.Options
import LanceC.Scanner.ResultWindow

/-! From the scanner handle to a configured scanner of Lance (`build_scanner` of
scanner.rs). Lance's scanner is a parameter. -/

namespace LanceC.Scanner

open Fts Index Machine Scalar Tuning

/-- A callback of Lance: the caller's as it is, or behind the addition of what has been
counted before the scan. -/
inductive ExecutionStatsCallback where
  | send (callback : SendScanStatisticsCallback)
  | combined (callback : SendScanStatisticsCallback) (stats : ExecutionSummaryCounts)

/-- The counts the caller's function is invoked with. -/
def ExecutionStatsCallback.counts [Target] (read : ExecutionSummaryCounts) :
    ExecutionStatsCallback → ExecutionSummaryCounts
  | send _ => read
  | combined _ stats => stats.combine read

/-- The calls on Lance's scanner that cannot fail. -/
inductive ScanOption where
  | blobHandling (handling : BlobHandling)
  | batchSize (batchSize : Nat)
  | batchSizeBytes (batchSizeBytes : Nat)
  | strictBatchSize (strictBatchSize : Bool)
  | ioBufferSize (ioBufferSize : Nat)
  | batchReadahead (batchReadahead : Nat)
  | fragmentReadahead (fragmentReadahead : Nat)
  | targetParallelism (targetParallelism : Nat)
  | scanInOrder (scanInOrder : Bool)
  | useScalarIndex (useScalarIndex : Bool)
  | useStats (useStats : Bool)
  | withRowId
  | withRowAddress
  | includeDeletedRows
  | withFragments (fragments : List Fragment)
  | withRowAddrPrefilter (mask : RowMask)
  | prefilter (enable : Bool)
  | distanceRange (lowerBound upperBound : Option Float32Value)
  | minimumNprobes (minimumNprobes : Nat)
  | maximumNprobes (maximumNprobes : Nat)
  | approxMode (approxMode : LanceApproxMode)
  | queryParallelism (queryParallelism : Int)
  | refine (factor : Nat)
  | ef (ef : Nat)
  | distanceMetric (metric : DistanceType)
  | useIndex (useIndex : Bool)
  | filterExpr (filter : Expr)
  | scanStatsCallback (callback : ExecutionStatsCallback)

/-- The calls that Lance may refuse, the window apart. -/
inductive ScanRequest where
  | project (columns : List String)
  | nearest (column : String) (query : QueryArray) (k : Nat)
  | withIndexSegments (segments : List Uuid)
  | fullTextSearch (query : FullTextSearchQuery)
  | filterSubstrait (bytes : List Byte)
  | filter (sql : String)

/-- Lance's scanner and row masks: `set` and `request` are its builder calls, the last
two fields what they have left of the fragments and the external mask. -/
structure ScannerUpstream (Scan : Type) extends ScanUpstream Scan where
  scan : Arc Dataset → Scan
  set : Scan → ScanOption → Scan
  request : Scan → ScanRequest → Except LanceError Scan
  getExprFilter : Scan → Except LanceError (Option Expr)
  fromAllowed : List Nat → RowMask
  fromBlock : List Nat → RowMask
  alsoBlock : RowMask → List Nat → RowMask
  fragmentIds : Scan → List Nat
  rowAddrPrefilter : Scan → Option RowMask

/-- `existing.and(additional)`. -/
def conjunction (existing additional : Expr) : Expr := .other "AND" [existing, additional]

/-- The scalar segment with the snapshot and the callback it is handed with. -/
structure PreparedSegmentScan extends PreparedScalarSegment where
  dataset : Arc Dataset
  callback : Option SendScanStatisticsCallback
  deriving DecidableEq

structure PreparedFtsExecution where
  context : FtsQueryContextInner
  segments : List IndexMetadata
  scopePrefilterToFtsSegments : Bool
  rowAddrMask : Option RowMask
  batchSize : Option Nat
  scanStatisticsCallback : Option SendScanStatisticsCallback

structure PreparedScanner (Scan : Type) where
  scanner : Scan
  distributedFts : Option PreparedFtsExecution
  multiVectorWindow : Option (Nat × Option Nat)
  batchSize : Option Nat
  scanStatisticsCallback : Option SendScanStatisticsCallback
  scalarSegment : Option PreparedSegmentScan

namespace ScannerHandle

variable {Scan : Type} (lance : ScannerUpstream Scan) (self : ScannerHandle)

def setAll (scanner : Scan) (options : List ScanOption) : Scan := options.foldl lance.set scanner

/-- The fragments of the snapshot with one of the given ids. -/
def selectedFragments (ids : List Nat) : List Fragment :=
  self.dataset.value.fragments.filter fun fragment => ids.contains fragment.id

def applyFragmentFilter (scanner : Scan) : Scan :=
  match self.fragmentIds with
  | some ids => lance.set scanner (.withFragments (self.selectedFragments ids))
  | none => scanner

def rowAddrMask : Option RowMask :=
  match self.rowAddrAllowlist, self.rowAddrBlocklist with
  | some allow, some block => some (lance.alsoBlock (lance.fromAllowed allow) block)
  | some allow, none => some (lance.fromAllowed allow)
  | none, some block => some (lance.fromBlock block)
  | none, none => none

/-- The filter one additional text stands for, resolved on a copy of the scanner. -/
def additionalFilter (scanner : Scan) (sql : String) : Except (Stop LanceError) Expr := do
  let additionalScanner ← settled (lance.request scanner (.filter sql))
  match ← settled (lance.getExprFilter additionalScanner) with
  | some additional => return additional
  | none => throw (.panic (.text "additional SQL filter exists"))

def combineFilters (scanner : Scan) : Option Expr → List String → Except (Stop LanceError) (Option Expr)
  | combined, [] => .ok combined
  | combined, sql :: rest => do
    let additional ← additionalFilter lance scanner sql
    match combined with
    | some existing => combineFilters scanner (some (conjunction existing additional)) rest
    | none => combineFilters scanner (some additional) rest

/-- The Substrait filter wins over the SQL one. -/
def applyPrimaryFilter (scanner : Scan) : Except LanceError Scan :=
  match self.substraitFilter, self.filter with
  | some substrait, _ => lance.request scanner (.filterSubstrait substrait)
  | none, some sql => lance.request scanner (.filter sql)
  | none, none => .ok scanner

def applyFilter (scanner : Scan) : Except (Stop LanceError) Scan := do
  let scanner ← settled (self.applyPrimaryFilter lance scanner)
  if self.additionalSqlFilters = [] then return scanner
  let combined ← settled (lance.getExprFilter scanner)
  match ← combineFilters lance scanner combined self.additionalSqlFilters with
  | some filter => return lance.set scanner (.filterExpr filter)
  | none => throw (.panic (.text "additional SQL filter exists"))

def applyProjection (scanner : Scan) : Except LanceError Scan :=
  match self.columns with
  | some columns => lance.request scanner (.project columns)
  | none => .ok scanner

/-- What is projected, before anything else is set. -/
def applyColumns (scanner : Scan) : Except LanceError Scan := do
  let scanner ← self.applyProjection lance scanner
  return setAll lance scanner (self.blobHandling.map .blobHandling).toList

def checkBatchCandidates [Target] : Except LanceError Unit :=
  match self.nearest with
  | some { mode := .batch numQueries, k, .. } => validateBatchCandidates numQueries k self.refineFactor
  | _ => .ok ()

/-- The options that are passed on as they are, in the order in which they are set. -/
def tuningOptions : List ScanOption :=
  (self.batchSize.map .batchSize).toList ++ (self.batchSizeBytes.map .batchSizeBytes).toList ++
  (self.strictBatchSize.map .strictBatchSize).toList ++ (self.ioBufferSize.map .ioBufferSize).toList ++
  (self.batchReadahead.map .batchReadahead).toList ++ (self.fragmentReadahead.map .fragmentReadahead).toList ++
  (self.targetParallelism.map .targetParallelism).toList ++ (self.scanInOrder.map .scanInOrder).toList ++
  (self.useScalarIndex.map .useScalarIndex).toList ++ (self.useStats.map .useStats).toList ++
  (if self.withRowId then [.withRowId] else []) ++ (if self.withRowAddress then [.withRowAddress] else []) ++
  (if self.includeDeletedRows then [.includeDeletedRows] else [])

/-- Lance refuses a nearest query after `with_fragments` unless prefilter is on. -/
def fragmentFilterAfterNearest : Bool := self.nearest.isSome && !self.prefilter

/-- The restrictions that need their search, and those that exclude each other. -/
def checkRestrictions : Except LanceError Unit := do
  refuseIf (self.indexSegments.isSome ∧ self.nearest = none)
    (.invalidInput "index_segments requires nearest() to be configured")
  refuseIf (self.ftsIndexSegments.isSome ∧ self.ftsContext = none)
    (.invalidInput "fts_index_segments requires an FTS query context")
  refuseIf (self.ftsContext.isSome ∧ self.fragmentIds.isSome)
    (.invalidInput
      "fragment_ids cannot be combined with an FTS query context; split the query by FTS index segment UUID instead")
  refuseIf ((self.rowAddrAllowlist.isSome ∨ self.rowAddrBlocklist.isSome) ∧ self.scalarIndexSegment.isSome)
    (.invalidInput "row address allowlist/blocklist cannot be combined with scalar_index_segment")

def maskOptions : List ScanOption :=
  ((self.rowAddrMask lance).map .withRowAddrPrefilter).toList ++ (if self.prefilter then [.prefilter true] else [])

def probeOptions (query : NearestQuery) : List ScanOption :=
  [.distanceRange query.lowerBound query.upperBound] ++ (self.nprobes.minimum.map .minimumNprobes).toList ++
  (self.nprobes.maximum.map .maximumNprobes).toList ++ (self.approxMode.map .approxMode).toList ++
  (self.queryParallelism.map .queryParallelism).toList

/-- The factor handed to Lance; a multi-vector query always has one. -/
def refineOptions [Target] (query : NearestQuery) : Except LanceError (List ScanOption) :=
  if self.isMultiVector then do
    refuseIf (self.metricOverride = some .hamming)
      (.invalidInput "multi-vector queries support only l2, cosine, and dot metrics")
    let refine := self.refineFactor.getD 1
    refuseIf (refine = 0 ∨ query.k > maxQueryVectorCandidates / refine)
      (.invalidInput "multi-vector refined candidate count must be in 1..=100000")
    return [.refine refine]
  else .ok (self.refineFactor.map .refine).toList

def metricOptions : List ScanOption :=
  match self.metricOverride with
  | some metric => [.distanceMetric metric.toDistance]
  | none => if self.isMultiVector then [.distanceMetric .l2] else []

def applyNearest [Target] (scanner : Scan) : Except LanceError Scan :=
  match self.nearest with
  | none => .ok scanner
  | some query => do
    let scanner ← lance.request scanner (.nearest query.column query.query query.k)
    let scanner := setAll lance scanner (self.probeOptions query)
    let scanner := setAll lance scanner (← self.refineOptions query)
    let scanner := setAll lance scanner
      ((self.ef.map .ef).toList ++ self.metricOptions ++ (self.useIndex.map .useIndex).toList)
    match self.indexSegments with
    | some segments => lance.request scanner (.withIndexSegments segments)
    | none => return scanner

def applyFtsQuery (scanner : Scan) : Except LanceError Scan :=
  match self.ftsQuery with
  | some fts => lance.request scanner (.fullTextSearch fts)
  | none => .ok scanner

def hasFilter : Bool := self.filter.isSome || self.substraitFilter.isSome || !self.additionalSqlFilters.isEmpty

def applyFtsContext (scanner : Scan) : Except LanceError (Scan × Option PreparedFtsExecution) :=
  match self.ftsContext with
  | none => .ok (scanner, none)
  | some context => do
    context.validateDatasetIdentity self.dataset
    let segments ← selectFtsSegments context self.ftsIndexSegments
    let scanner ← lance.request scanner (.fullTextSearch context.query)
    return (scanner, some
      { context, segments
        scopePrefilterToFtsSegments := self.prefilter && self.hasFilter
        rowAddrMask := self.rowAddrMask lance
        batchSize := self.batchSize
        scanStatisticsCallback := self.scanStatisticsCallback })

def prepareScalarSegment : Except LanceError (Option PreparedSegmentScan) :=
  match self.scalarIndexSegment with
  | none => .ok none
  | some segmentUuid => do
    refuseIf (self.nearest.isSome ∨ self.ftsQuery.isSome ∨ self.ftsContext.isSome ∨ self.indexSegments.isSome ∨
        self.ftsIndexSegments.isSome ∨ self.includeDeletedRows)
      (.invalidInput
        "scalar_index_segment requires an ordinary scan of live rows; vector/FTS queries and include_deleted_rows=true are unsupported")
    let some fragmentIds := self.fragmentIds.filter (!·.isEmpty)
      | throw (.invalidInput
          "scalar_index_segment requires explicit nonempty fragment_ids for its read and fallback domain")
    return some
      { segmentUuid, fragmentIds, dataset := self.dataset, autoSelection := self.scalarIndexAutoSelection
        useScalarIndex := self.useScalarIndex.getD true, callback := self.scanStatisticsCallback }

/-- The search, with the fragments put before or behind it. -/
def applySearch [Target] (scanner : Scan) : Except LanceError Scan := do
  let scanner := if self.fragmentFilterAfterNearest then scanner else self.applyFragmentFilter lance scanner
  self.checkRestrictions
  let scanner := setAll lance scanner (self.maskOptions lance)
  let scanner ← self.applyNearest lance scanner
  let scanner := if self.fragmentFilterAfterNearest then self.applyFragmentFilter lance scanner else scanner
  self.applyFtsQuery lance scanner

def buildScanner [Target] : Except (Stop LanceError) (PreparedScanner Scan) := do
  let scanner ← settled (self.applyColumns lance (lance.scan self.dataset))
  settled self.checkBatchCandidates
  let (scanner, multiVectorWindow) ← settled (self.buildWindow lance.toScanUpstream scanner)
  let scanner := setAll lance scanner self.tuningOptions
  let scanner ← settled (self.applySearch lance scanner)
  let (scanner, distributedFts) ← settled (self.applyFtsContext lance scanner)
  let scanner ← self.applyFilter lance scanner
  let scalarSegment ← settled self.prepareScalarSegment
  let scanner := setAll lance scanner (self.scanStatisticsCallback.map fun callback => .scanStatsCallback (.send callback)).toList
  return { scanner, distributedFts, multiVectorWindow, scalarSegment
           batchSize := self.batchSize, scanStatisticsCallback := self.scanStatisticsCallback }

end ScannerHandle

end LanceC.Scanner
