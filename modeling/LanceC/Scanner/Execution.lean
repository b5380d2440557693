import LanceC.Fts.PlanRewriteExact
import LanceC.Multivector.Rewrite
import LanceC.Scanner.PreparedRows

/-! How a prepared scanner is executed (`PreparedScanner::try_into_stream` of scanner.rs and
`PreparedScalarSegment::configure` of scalar_segment.rs). -/

namespace LanceC.Scanner

open Fts Logic Machine Multivector Scalar

structure LanceExecutionOptions where
  batchSize : Option Nat
  executionStatsCallback : Option SendScanStatisticsCallback
  deriving DecidableEq, Repr

/-- What the stream of a scan executes: Lance's scanner itself, or a plan taken from it. -/
inductive Execution (Scan Query Vector : Type) where
  | reader (scanner : Scan)
  | vector (plan : ResultWindow.Plan (Rewrite.Plan Vector)) (options : LanceExecutionOptions)
  | fts (plan : Fts.Plan Query RowMask) (options : LanceExecutionOptions)

/-- Lance and the query engine. `create_plan` comes twice, each time down to what the
caller looks at. -/
structure EngineUpstream (Scan Query Vector Batch Cell Key : Type) where
  scans : ScannerUpstream Scan
  segments : Dataset → Scalar.Lance Key
  createVectorPlan : Scan → Except LanceError (Rewrite.Plan Vector)
  createFtsPlan : Scan → Except LanceError (Fts.Plan Query RowMask)
  nodes : Rewrite.PlanUpstream Vector Batch
  window : ResultWindow.PlanUpstream (Rewrite.Plan Vector) Cell
  fts : Fts.PlanUpstream Query RowMask
  ofDataFusion : DataFusionError → LanceError

/-- What the candidate work of a segment has measured: the counters of its plan and its
nanoseconds; and the lookups it had in its cache. -/
structure CandidateWork (Key : Type) where
  metrics : List (String × Nat)
  elapsed : Nat
  cache : LookupCache Key

variable {Scan Query Vector Batch Cell Key : Type}

/-- The plan as its strict batching and what is below it. -/
def windowPlan : Rewrite.Plan Vector → ResultWindow.Plan (Rewrite.Plan Vector)
  | .node (.strictBatchSize batchSize _) [child] => .strictBatchSize (windowPlan child) batchSize
  | plan => .other plan

section Code

variable [Target] [ScalarOrder Key] (upstream : EngineUpstream Scan Query Vector Batch Cell Key)

/-- Candidate generation looks at what the scanner reads, and calls it to install a mask only. -/
def installMask (reader : Scalar.Scanner) (scanner : Scan) : Scan :=
  match reader.rowAddrPrefilter with
  | some mask => upstream.scans.set scanner (.withRowAddrPrefilter mask)
  | none => scanner

/-- The caller's callback is invoked once, with the candidates' counts added. -/
def PreparedSegmentScan.addStatistics (self : PreparedSegmentScan) (stats : ExecutionSummaryCounts)
    (scanner : Scan) : Scan :=
  match self.callback with
  | some callback => upstream.scans.set scanner (.scanStatsCallback (.combined callback stats))
  | none => scanner

def PreparedSegmentScan.configure (work : CandidateWork Key) (self : PreparedSegmentScan) (scanner : Scan) :
    Except (Stop LanceError) Scan := do
  let scanner := upstream.scans.set scanner (.useScalarIndex false)
  let (reason, reader, stats, _) ← configureCandidates (upstream.segments self.dataset.value)
    self.toPreparedScalarSegment (upstream.scans.reader scanner) .requested work.cache
  let stats := ExecutionSummaryCounts.ofCandidates stats reason work.metrics work.elapsed
  return self.addStatistics upstream stats (installMask upstream reader scanner)

def ofDataFusion {α : Type} (result : Except DataFusionError α) : Except LanceError α :=
  result.mapError upstream.ofDataFusion

def executeVector (self : PreparedScanner Scan) (offset : Nat) (limit : Option Nat) :
    Except LanceError (Execution Scan Query Vector) := do
  let plan ← upstream.createVectorPlan self.scanner
  let plan ← ofDataFusion upstream (Rewrite.rewrite upstream.nodes plan)
  let plan ← ofDataFusion upstream (ResultWindow.applyResultWindow upstream.window (windowPlan plan) offset limit)
  return .vector plan { batchSize := self.batchSize, executionStatsCallback := self.scanStatisticsCallback }

/-- The scanner whose plan is rewritten: held to the fragments of the segments where there
is a filter to evaluate before the search. -/
def ftsScanner (scanner : Scan) (fts : PreparedFtsExecution) (selectedFragments : List Fragment) : Scan :=
  if fts.scopePrefilterToFtsSegments && !selectedFragments.isEmpty then
    upstream.scans.set scanner (.withFragments selectedFragments)
  else scanner

def unexpectedPlan (current : Bool) (rewritten : PreparedFtsPlanRewriteCounts) : Prop :=
  rewritten.indexedQueryExecs > 1 ∨ rewritten.flatMatchQueryExecs > 1 ∨
    rewritten.indexedQueryExecs + rewritten.flatMatchQueryExecs = 0 ∨
    (current = true ∧ rewritten.indexedQueryExecs ≠ 1)

instance (current : Bool) (rewritten : PreparedFtsPlanRewriteCounts) : Decidable (unexpectedPlan current rewritten) :=
  inferInstanceAs (Decidable (_ ∨ _ ∨ _ ∨ _))

def PreparedFtsExecution.request (fts : PreparedFtsExecution) (current : Bool) : PlanRewrite RowMask where
  segments := fts.segments
  prepared := fts.context.prepared
  selectedSegmentsHaveCurrentFragments := current
  rowAddrMask := fts.rowAddrMask

def executeFts (self : PreparedScanner Scan) (fts : PreparedFtsExecution) :
    Except LanceError (Execution Scan Query Vector) := do
  let selectedFragments ← selectedCurrentFtsFragments fts.context.dataset.value fts.segments
  let current := !selectedFragments.isEmpty
  let plan ← upstream.createFtsPlan (ftsScanner upstream self.scanner fts selectedFragments)
  let (plan, rewritten) ← rewritePreparedFtsPlan upstream.fts (fts.request current) plan
  refuseIf (unexpectedPlan current rewritten) (.internal
    s!"unexpected prepared FTS plan for selected segments with current fragment coverage {current}: rewrote {rewritten.indexedQueryExecs} indexed FTS query node(s) and removed {rewritten.flatMatchQueryExecs} FlatMatchQueryExec node(s)")
  return .fts plan { batchSize := fts.batchSize, executionStatsCallback := fts.scanStatisticsCallback }

def PreparedScanner.tryIntoStream (work : CandidateWork Key) (self : PreparedScanner Scan) :
    Except (Stop LanceError) (Execution Scan Query Vector) :=
  match self.scalarSegment with
  | some segment => do return .reader (← segment.configure upstream work self.scanner)
  | none =>
    match self.multiVectorWindow with
    | some (offset, limit) => settled (executeVector upstream self offset limit)
    | none =>
      match self.distributedFts with
      | some fts => settled (executeFts upstream self fts)
      | none => .ok (.reader self.scanner)

end Code

end LanceC.Scanner
