import LanceC.Ffi.CString
import LanceC.Fts.QueryContext
import LanceC.Scanner.QueryValues
import Mathlib.Algebra.Order.Ring.Unbundled.Rat

/-! The scanner handle as a builder: the options that depend on each other and
the calls that set them (scanner.rs). A call that fails has changed nothing:
every setter assigns its field last. -/

namespace LanceC.Scanner

open Ffi Fts Machine

inductive NearestMode where
  | single
  | multiVector
  | batch (numQueries : Nat)
  deriving DecidableEq, Repr

/-- A 32-bit float: its number, unless it is infinite or NaN, and its printed form. -/
structure Float32Value where
  number : Option ℚ
  printed : String
  deriving DecidableEq

def Float32Value.isFinite (value : Float32Value) : Bool := value.number.isSome

/-- `lower >= upper`, which NaN never satisfies; infinities are refused before it is asked. -/
def Float32Value.ge (lower upper : Float32Value) : Bool :=
  match lower.number, upper.number with
  | some lower, some upper => upper ≤ lower
  | _, _ => false

structure NearestQuery where
  mode : NearestMode
  column : String
  query : QueryArray
  k : Nat
  lowerBound : Option Float32Value
  upperBound : Option Float32Value
  deriving DecidableEq

structure NprobesRange where
  minimum : Option Nat
  maximum : Option Nat
  deriving DecidableEq, Repr

namespace NprobesRange

def default : NprobesRange := ⟨none, none⟩

def exact (nprobes : Nat) : Except LanceError NprobesRange :=
  if nprobes = 0 then .error (.invalidInput "nprobes must be greater than 0, got 0")
  else .ok ⟨some nprobes, some nprobes⟩

def withMinimum (self : NprobesRange) (minimumNprobes : Nat) : Except LanceError NprobesRange :=
  if minimumNprobes = 0 then .error (.invalidInput "minimum_nprobes must be greater than 0, got 0")
  else
    match self.maximum with
    | some maximumNprobes =>
      if minimumNprobes > maximumNprobes then
        .error (.invalidInput
          s!"minimum_nprobes ({minimumNprobes}) must not exceed maximum_nprobes ({maximumNprobes})")
      else .ok { self with minimum := some minimumNprobes }
    | none => .ok { self with minimum := some minimumNprobes }

def withMaximum (self : NprobesRange) (maximumNprobes : Nat) : Except LanceError NprobesRange :=
  if maximumNprobes = 0 then .error (.invalidInput "maximum_nprobes must be greater than 0, got 0")
  else
    match self.minimum with
    | some minimumNprobes =>
      if maximumNprobes < minimumNprobes then
        .error (.invalidInput
          s!"maximum_nprobes ({maximumNprobes}) must not be less than minimum_nprobes ({minimumNprobes})")
      else .ok { self with maximum := some maximumNprobes }
    | none => .ok { self with maximum := some maximumNprobes }

end NprobesRange

/-- The options that some other setter reads. -/
structure LanceScanner where
  dataset : Arc Dataset
  limit : Option Int
  offset : Option Int
  batchSizeBytes : Option Nat
  strictBatchSize : Option Bool
  nearest : Option NearestQuery
  nprobes : NprobesRange
  refineFactor : Option Nat
  ftsQuery : Option FullTextSearchQuery
  ftsContext : Option FtsQueryContextInner
  scanStarted : Bool
  deriving DecidableEq

/-- The parts of Lance and Arrow the setters call: lookup of a column path,
attaching columns to a full-text query, and how types and strings print. -/
structure Upstream where
  field : Schema → String → Option Field
  withColumns : FullTextSearchQuery → List String → Except LanceError FullTextSearchQuery
  displayType : DataType → String
  debugText : String → String

namespace LanceScanner

def new (dataset : Arc Dataset) : LanceScanner :=
  { dataset, limit := none, offset := none, batchSizeBytes := none, strictBatchSize := none, nearest := none
    nprobes := .default, refineFactor := none, ftsQuery := none, ftsContext := none, scanStarted := false }

def ensureScanNotStarted (self : LanceScanner) (settingName : String) : Except LanceError Unit :=
  if self.scanStarted then .error (.invalidInput s!"{settingName} must be set before the scan starts")
  else .ok ()

/-- `build_scanner` marks the scan as started before it does anything else. -/
def startScan (self : LanceScanner) : LanceScanner := { self with scanStarted := true }

def isBatchNearest (self : LanceScanner) : Bool :=
  match self.nearest with
  | some { mode := .batch _, .. } => true
  | _ => false

def setLimit (self : LanceScanner) (limit : Int) : Except LanceError LanceScanner :=
  if self.isBatchNearest then
    .error (.invalidInput
      "global limit is unsupported for batch nearest; apply windows per query_index in the caller")
  else .ok { self with limit := some limit }

def setOffset (self : LanceScanner) (offset : Int) : Except LanceError LanceScanner :=
  if self.isBatchNearest then
    .error (.invalidInput
      "global offset is unsupported for batch nearest; apply windows per query_index in the caller")
  else .ok { self with offset := some offset }

def setBatchSizeBytes (self : LanceScanner) (batchSizeBytes : Nat) : Except LanceError LanceScanner := do
  refuseIf (batchSizeBytes = 0) (.invalidInput "batch_size_bytes must be greater than 0, got 0")
  self.ensureScanNotStarted "batch_size_bytes"
  refuseIf (self.strictBatchSize = some true)
    (.invalidInput s!"strict_batch_size=true cannot be combined with batch_size_bytes={batchSizeBytes}")
  return { self with batchSizeBytes := some batchSizeBytes }

def setStrictBatchSize (self : LanceScanner) (strictBatchSize : Bool) : Except LanceError LanceScanner := do
  self.ensureScanNotStarted "strict_batch_size"
  match strictBatchSize, self.batchSizeBytes with
  | true, some batchSizeBytes =>
    throw (.invalidInput s!"strict_batch_size=true cannot be combined with batch_size_bytes={batchSizeBytes}")
  | _, _ => return { self with strictBatchSize := some strictBatchSize }

def setNprobes (self : LanceScanner) (nprobes : Nat) : Except LanceError LanceScanner := do
  self.ensureScanNotStarted "nprobes"
  return { self with nprobes := ← NprobesRange.exact nprobes }

def setMinimumNprobes (self : LanceScanner) (minimumNprobes : Nat) : Except LanceError LanceScanner := do
  self.ensureScanNotStarted "minimum_nprobes"
  return { self with nprobes := ← self.nprobes.withMinimum minimumNprobes }

def setMaximumNprobes (self : LanceScanner) (maximumNprobes : Nat) : Except LanceError LanceScanner := do
  self.ensureScanNotStarted "maximum_nprobes"
  return { self with nprobes := ← self.nprobes.withMaximum maximumNprobes }

/-- Only a batch query bounds the factor; zero is stored otherwise. -/
def setRefineFactor [Target] (self : LanceScanner) (value : Nat) : Except LanceError LanceScanner := do
  match self.nearest with
  | some { mode := .batch numQueries, k, .. } =>
    self.ensureScanNotStarted "refine_factor"
    validateBatchCandidates numQueries k (some value)
    return { self with refineFactor := some value }
  | _ => return { self with refineFactor := some value }

def checkFinite (name : String) : Option Float32Value → Except LanceError Unit
  | some value =>
    if !value.isFinite then .error (.invalidInput s!"{name} must be finite, got {value.printed}") else .ok ()
  | none => .ok ()

def setDistanceRange (self : LanceScanner) (lowerBound upperBound : Option Float32Value) :
    Except LanceError LanceScanner := do
  self.ensureScanNotStarted "distance_range"
  match self.nearest with
  | none => throw (.invalidInput "distance_range requires nearest() to be configured")
  | some nearest =>
    refuseIf (nearest.mode ≠ .single)
      (.invalidInput "distance_range requires a single-vector nearest query")
    checkFinite "lower_bound" lowerBound
    checkFinite "upper_bound" upperBound
    match lowerBound, upperBound with
    | some lower, some upper =>
      refuseIf (lower.ge upper)
        (.invalidInput s!"lower_bound ({lower.printed}) must be less than upper_bound ({upper.printed})")
      return { self with nearest := some { nearest with lowerBound, upperBound } }
    | _, _ => return { self with nearest := some { nearest with lowerBound, upperBound } }

/-- `parse_c_string(column)?.unwrap()`; the callers have excluded NULL. -/
def columnName (column : CString) : Except LanceError String := do
  return (← parseCString column).getD ""

def nearestInner (self : LanceScanner) (column : CString) (queryData : QueryData) (queryLen : Nat)
    (elementType : Int) (k : Nat) : Except LanceError LanceScanner := do
  refuseIf (column = .null ∨ queryData.address = 0)
    (.invalidInput "scanner, column, and query_data must not be NULL")
  refuseIf (k = 0) (.invalidInput "k must be > 0")
  refuseIf (self.ftsQuery.isSome ∨ self.ftsContext.isSome)
    (.invalidInput
      "cannot call nearest after full_text_search or attaching an FTS query context; they are mutually exclusive")
  let column ← columnName column
  let query ← decodeQueryValues queryData queryLen elementType
  return { self with
    nearest := some
      { mode := .single, column, query := .primitive query, k, lowerBound := none, upperBound := none } }

/-- The checks on the vector column; the dimension is an `i32` by then. -/
def checkBatchColumn (upstream : Upstream) (self : LanceScanner) (column : String) (dimension : Nat)
    (dataType : DataType) : Except LanceError Unit := do
  refuseIf ((upstream.field self.dataset.value.schema "query_index").isSome)
    (.invalidInput "batch nearest reserves the dataset column name query_index")
  let some field := upstream.field self.dataset.value.schema column
    | throw (.invalidInput s!"batch vector column {upstream.debugText column} does not exist")
  if field.dataType = .fixedSizeList dataType dimension then return ()
  throw (.invalidInput
    s!"batch column {upstream.debugText column} must be FixedSizeList<{upstream.displayType dataType}, {dimension}>, got {upstream.displayType field.dataType}")

def nearestBatchInner [Target] (upstream : Upstream) (self : LanceScanner) (column : CString)
    (queryData : QueryData)
    (dimension numQueries : Nat) (elementType : Int) (k : Nat) : Except LanceError LanceScanner := do
  refuseIf (column = .null ∨ queryData.address = 0)
    (.invalidInput "scanner, column, and query_data must not be NULL")
  self.ensureScanNotStarted "nearest_batch"
  refuseIf (dimension = 0 ∨ dimension > i32Max ∨ k = 0)
    (.invalidInput
      s!"dimension ({dimension}) and k ({k}) must be positive; dimension must fit int32")
  refuseIf (numQueries = 0 ∨ numQueries > maxBatchQueries)
    (.invalidInput s!"num_queries ({numQueries}) must be in 1..={maxBatchQueries}")
  refuseIf (self.ftsQuery.isSome ∨ self.ftsContext.isSome)
    (.invalidInput "batch nearest and full-text search are mutually exclusive")
  refuseIf (self.limit.isSome ∨ self.offset.isSome)
    (.invalidInput
      "batch nearest does not support global limit/offset; apply windows per query_index in the caller")
  validateBatchCandidates numQueries k self.refineFactor
  let some dataType := LanceDataType.ofCode elementType
    | throw (.invalidInput
        s!"batch element_type ({elementType}) must be float16, float32, float64, uint8, or int8")
  let count ← batchQueryValueCount dimension numQueries dataType.width
  let column ← columnName column
  checkBatchColumn upstream self column dimension dataType.dataType
  let values ← decodeQueryValues queryData count elementType
  refuseIf (!values.allFinite) (.invalidInput "batch query values must be finite and non-null")
  return { self with
    nearest := some
      { mode := .batch numQueries, column, query := .fixedSizeList dimension values, k
        lowerBound := none, upperBound := none } }

def checkMultivectorColumn (upstream : Upstream) (self : LanceScanner) (column : String) (dimension : Nat)
    (dataType : DataType) : Except LanceError Unit := do
  let some field := upstream.field self.dataset.value.schema column
    | throw (.invalidInput "multi-vector column does not exist")
  match field.dataType with
  | .list child false =>
    if child = .fixedSizeList dataType dimension then return ()
    throw (.invalidInput "multi-vector dimension/type mismatch")
  | _ => throw (.invalidInput "multi-vector column must be List of non-nullable FixedSizeList")

def nearestMultivectorInner [Target] (upstream : Upstream) (self : LanceScanner) (column : CString)
    (queryData : QueryData) (dimension numVectors : Nat) (elementType : Int) (k : Nat) :
    Except LanceError LanceScanner := do
  refuseIf (column = .null ∨ queryData.address = 0)
    (.invalidInput "scanner, column, and query_data must not be NULL")
  refuseIf (dimension = 0 ∨ dimension > i32Max ∨ numVectors = 0 ∨ k = 0)
    (.invalidInput "dimension, num_vectors, and k must be positive; dimension must fit int32")
  refuseIf (numVectors > maxQueryVectors ∨ numVectors > maxQueryVectorCandidates / k)
    (.invalidInput "multi-vector query exceeds 128 subvectors or 100000 subvector-candidates")
  let some dataType := (LanceDataType.ofCode elementType).filter LanceDataType.isFloat
    | throw (.invalidInput "multi-vector queries require float16, float32, or float64")
  let some count := (checkedMul dimension numVectors).filter (· ≤ isizeMax / dataType.width)
    | throw (.invalidInput "query matrix byte size overflows")
  refuseIf (self.ftsQuery.isSome ∨ self.ftsContext.isSome)
    (.invalidInput "nearest and full-text search are mutually exclusive")
  let column ← columnName column
  checkMultivectorColumn upstream self column dimension dataType.dataType
  let values ← decodeQueryValues queryData count elementType
  validateQuery values
  return { self with
    nearest := some
      { mode := .multiVector, column, query := .fixedSizeList dimension values, k
        lowerBound := none, upperBound := none } }

def ftsInner (upstream : Upstream) (self : LanceScanner) (query : CString)
    (columns : Option (List CString)) (maxFuzzyDistance : Nat) : Except LanceError LanceScanner := do
  refuseIf (query = .null) (.invalidInput "scanner and query must not be NULL")
  refuseIf (self.nearest.isSome)
    (.invalidInput "cannot call full_text_search after nearest; they are mutually exclusive")
  refuseIf (self.ftsContext.isSome)
    (.invalidInput
      "cannot call full_text_search after attaching an FTS query context; the context already owns the query")
  let terms ← columnName query
  let columns ← parseCStringArray columns
  let fts := if maxFuzzyDistance > 0 then FullTextSearchQuery.newFuzzy terms (some maxFuzzyDistance)
    else FullTextSearchQuery.new terms
  match columns with
  | some (column :: rest) => return { self with ftsQuery := some (← upstream.withColumns fts (column :: rest)) }
  | _ => return { self with ftsQuery := some fts }

def setFtsQueryContext (self : LanceScanner) (context : Option FtsQueryContextInner) :
    Except LanceError LanceScanner := do
  let context ← cloneContext context
  refuseIf (self.nearest.isSome)
    (.invalidInput
      "cannot attach an FTS query context after nearest; they are mutually exclusive")
  refuseIf (self.ftsQuery.isSome)
    (.invalidInput
      "cannot attach an FTS query context after full_text_search; the context already owns the query")
  context.validateDatasetIdentity self.dataset
  return { self with ftsContext := some context }

end LanceScanner

/-- One call on the handle, with its arguments. -/
inductive Setter where
  | limit (limit : Int)
  | offset (offset : Int)
  | batchSizeBytes (batchSizeBytes : Nat)
  | strictBatchSize (strictBatchSize : Bool)
  | nprobes (nprobes : Nat)
  | minimumNprobes (minimumNprobes : Nat)
  | maximumNprobes (maximumNprobes : Nat)
  | refineFactor (value : Nat)
  | distanceRange (lowerBound upperBound : Option Float32Value)
  | nearest (column : CString) (queryData : QueryData) (queryLen : Nat) (elementType : Int) (k : Nat)
  | nearestBatch (column : CString) (queryData : QueryData) (dimension numQueries : Nat) (elementType : Int)
      (k : Nat)
  | nearestMultivector (column : CString) (queryData : QueryData) (dimension numVectors : Nat)
      (elementType : Int) (k : Nat)
  | fullTextSearch (query : CString) (columns : Option (List CString)) (maxFuzzyDistance : Nat)
  | ftsQueryContext (context : Option FtsQueryContextInner)
  | startScan

namespace LanceScanner

variable [Target]

def set (upstream : Upstream) (self : LanceScanner) : Setter → Except LanceError LanceScanner
  | .limit limit => self.setLimit limit
  | .offset offset => self.setOffset offset
  | .batchSizeBytes batchSizeBytes => self.setBatchSizeBytes batchSizeBytes
  | .strictBatchSize strictBatchSize => self.setStrictBatchSize strictBatchSize
  | .nprobes nprobes => self.setNprobes nprobes
  | .minimumNprobes minimumNprobes => self.setMinimumNprobes minimumNprobes
  | .maximumNprobes maximumNprobes => self.setMaximumNprobes maximumNprobes
  | .refineFactor value => self.setRefineFactor value
  | .distanceRange lowerBound upperBound => self.setDistanceRange lowerBound upperBound
  | .nearest column queryData queryLen elementType k => self.nearestInner column queryData queryLen elementType k
  | .nearestBatch column queryData dimension numQueries elementType k =>
    self.nearestBatchInner upstream column queryData dimension numQueries elementType k
  | .nearestMultivector column queryData dimension numVectors elementType k =>
    self.nearestMultivectorInner upstream column queryData dimension numVectors elementType k
  | .fullTextSearch query columns maxFuzzyDistance => self.ftsInner upstream query columns maxFuzzyDistance
  | .ftsQueryContext context => self.setFtsQueryContext context
  | .startScan => .ok self.startScan

/-- A failed call leaves the handle as it was. -/
def call (upstream : Upstream) (self : LanceScanner) (setter : Setter) : LanceScanner :=
  match self.set upstream setter with
  | .ok next => next
  | .error _ => self

def run (upstream : Upstream) (self : LanceScanner) (calls : List Setter) : LanceScanner :=
  calls.foldl (call upstream) self

end LanceScanner

end LanceC.Scanner
