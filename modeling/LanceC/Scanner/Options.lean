import LanceC.Dataset.Tuning
import LanceC.Fts.SegmentSelection
import LanceC.Index.VectorParams

/-! The whole scanner handle: beside the options that depend on each other, those that
no other setter reads, and every call that sets one (scanner.rs). -/

namespace LanceC.Scanner

open Ffi Fts Index Machine Tuning

inductive BlobHandling where
  | blobsDescriptions
  | allBinary
  | allDescriptions
  deriving DecidableEq, Repr

inductive LanceApproxMode where
  | fast
  | normal
  | accurate
  deriving DecidableEq, Repr

def LanceApproxMode.fromI32 (value : Int) : Except LanceError LanceApproxMode :=
  match value with
  | 0 => .ok .fast
  | 1 => .ok .normal
  | 2 => .ok .accurate
  | _ => .error (.invalidInput
      s!"approx_mode must be 0 (FAST), 1 (NORMAL), or 2 (ACCURATE), got {value}")

/-- A registered callback: the function and its context, by address. -/
structure SendScanStatisticsCallback where
  callback : Nat
  ctx : Nat
  deriving DecidableEq, Repr

/-- The scanner with every option that reaches Lance. The row lists are kept as the
caller's ids, the masks are built from them. -/
structure ScannerHandle extends SizedScanner where
  columns : Option (List String)
  filter : Option String
  substraitFilter : Option (List Byte)
  additionalSqlFilters : List String
  blobHandling : Option BlobHandling
  ioBufferSize : Option Nat
  batchReadahead : Option Nat
  fragmentReadahead : Option Nat
  targetParallelism : Option Nat
  scanInOrder : Option Bool
  useScalarIndex : Option Bool
  useStats : Option Bool
  withRowId : Bool
  withRowAddress : Bool
  includeDeletedRows : Bool
  fragmentIds : Option (List Nat)
  rowAddrAllowlist : Option (List Nat)
  rowAddrBlocklist : Option (List Nat)
  indexSegments : Option (List Uuid)
  scalarIndexSegment : Option Uuid
  scalarIndexAutoSelection : Bool
  approxMode : Option LanceApproxMode
  queryParallelism : Option Int
  ef : Option Nat
  metricOverride : Option LanceMetricType
  useIndex : Option Bool
  prefilter : Bool
  ftsIndexSegments : Option (List Uuid)
  scanStatisticsCallback : Option SendScanStatisticsCallback
  deriving DecidableEq

inductive RowAddrList where
  | allow
  | block
  deriving DecidableEq, Repr

def RowAddrList.settingName : RowAddrList → String
  | allow => "row_addr_allowlist"
  | block => "row_addr_blocklist"

def i64Max : Nat := 2 ^ 63 - 1

namespace ScannerHandle

def new (dataset : Arc Dataset) (columns : Option (List String)) (filter : Option String) : ScannerHandle :=
  { toLanceScanner := .new dataset, batchSize := none, columns, filter, substraitFilter := none
    additionalSqlFilters := [], blobHandling := none, ioBufferSize := none, batchReadahead := none
    fragmentReadahead := none, targetParallelism := none, scanInOrder := none, useScalarIndex := none
    useStats := none, withRowId := false, withRowAddress := false, includeDeletedRows := false
    fragmentIds := none, rowAddrAllowlist := none, rowAddrBlocklist := none, indexSegments := none
    scalarIndexSegment := none, scalarIndexAutoSelection := false, approxMode := none
    queryParallelism := none, ef := none, metricOverride := none, useIndex := none, prefilter := false
    ftsIndexSegments := none, scanStatisticsCallback := none }

/-- `dataset` is the snapshot of the dataset handle, `none` a NULL handle. -/
def scannerNewInner (dataset : Option (Arc Dataset)) (columns : Option (List CString)) (filter : CString) :
    Except LanceError ScannerHandle := do
  let some dataset := dataset | throw (.invalidInput "dataset must not be NULL")
  return new dataset (← parseCStringArray columns) (← parseCString filter)

variable (self : ScannerHandle)

/-- A setting that is stored unless the scan has started. -/
def setBeforeScan (settingName : String) (stored : ScannerHandle) : Except LanceError ScannerHandle := do
  self.ensureScanNotStarted settingName
  return stored

/-- As `setBeforeScan`, for a count that must not be zero. -/
def setPositive (settingName : String) (value : Nat) (stored : ScannerHandle) :
    Except LanceError ScannerHandle := do
  refuseIf (value = 0) (.invalidInput s!"{settingName} must be greater than 0, got 0")
  self.setBeforeScan settingName stored

def setBlobHandling (handling : Int) : Except LanceError ScannerHandle := do
  self.ensureScanNotStarted "blob_handling"
  match handling with
  | 0 => return { self with blobHandling := some .blobsDescriptions }
  | 1 => return { self with blobHandling := some .allBinary }
  | 2 => return { self with blobHandling := some .allDescriptions }
  | other => throw (.invalidInput
      s!"blob_handling must be 0 (blobs as descriptions), 1 (all binary) or 2 (all descriptions); got {other}")

def setIoBufferSize (ioBufferSizeBytes : Nat) : Except LanceError ScannerHandle := do
  refuseIf (ioBufferSizeBytes = 0) (.invalidInput "io_buffer_size_bytes must be greater than 0, got 0")
  refuseIf (i64Max < ioBufferSizeBytes)
    (.invalidInput s!"io_buffer_size_bytes must be at most {i64Max}, got {ioBufferSizeBytes}")
  self.setBeforeScan "io_buffer_size_bytes" { self with ioBufferSize := some ioBufferSizeBytes }

def setBatchReadahead (batchReadahead : Nat) : Except LanceError ScannerHandle :=
  self.setPositive "batch_readahead" batchReadahead { self with batchReadahead := some batchReadahead }

def setFragmentReadahead (fragmentReadahead : Nat) : Except LanceError ScannerHandle :=
  self.setPositive "fragment_readahead" fragmentReadahead { self with fragmentReadahead := some fragmentReadahead }

def setTargetParallelism (targetParallelism : Nat) : Except LanceError ScannerHandle :=
  self.setPositive "target_parallelism" targetParallelism { self with targetParallelism := some targetParallelism }

def setScanInOrder (scanInOrder : Bool) : Except LanceError ScannerHandle :=
  self.setBeforeScan "scan_in_order" { self with scanInOrder := some scanInOrder }

def setUseScalarIndex (useScalarIndex : Bool) : Except LanceError ScannerHandle :=
  self.setBeforeScan "use_scalar_index" { self with useScalarIndex := some useScalarIndex }

def setUseStats (useStats : Bool) : Except LanceError ScannerHandle :=
  self.setBeforeScan "use_stats" { self with useStats := some useStats }

def setWithRowAddress (enable : Bool) : Except LanceError ScannerHandle :=
  self.setBeforeScan "with_row_address" { self with withRowAddress := enable }

def setIncludeDeletedRows (includeDeletedRows : Bool) : Except LanceError ScannerHandle :=
  self.setBeforeScan "include_deleted_rows" { self with includeDeletedRows }

/-- `ids` is the memory behind the pointer, `none` a NULL pointer. -/
def setFragmentIds (ids : Option (List Nat)) (len : Nat) : Except LanceError ScannerHandle := do
  refuseIf (ids = none ∧ 0 < len) (.invalidInput "ids is NULL but len > 0")
  return { self with fragmentIds := some ((ids.getD []).take len) }

def setRowAddrList (rowIds : Option (List Nat)) (len : Nat) (list : RowAddrList) :
    Except LanceError ScannerHandle := do
  refuseIf (rowIds = none ∧ 0 < len) (.invalidInput "row_ids is NULL but len > 0")
  self.ensureScanNotStarted list.settingName
  let ids := (rowIds.getD []).take len
  match list with
  | .allow => return { self with rowAddrAllowlist := some ids }
  | .block => return { self with rowAddrBlocklist := some ids }

def setSubstraitFilter (bytes : Option (List Byte)) (len : Nat) : Except LanceError ScannerHandle := do
  let some bytes := bytes | throw (.invalidInput "bytes is NULL")
  refuseIf (len = 0) (.invalidInput "Substrait filter bytes must be non-empty")
  return { self with substraitFilter := some (bytes.take len) }

def additionalSqlFilter (filter : CString) : Except LanceError ScannerHandle := do
  let some filter ← parseCString filter | throw (.invalidInput "filter must not be NULL")
  refuseIf (filter = "") (.invalidInput "additional SQL filter must be non-empty")
  refuseIf self.scanStarted (.invalidInput "additional SQL filter must be set before the scan starts")
  return { self with additionalSqlFilters := self.additionalSqlFilters ++ [filter] }

def setStatisticsCallback (callback : Option SendScanStatisticsCallback) : Except LanceError ScannerHandle := do
  let some callback := callback | throw (.invalidInput "statistics callback is NULL")
  refuseIf self.scanStarted
    (.invalidInput "statistics callback must be registered before the scan starts")
  return { self with scanStatisticsCallback := some callback }

/-- `none` is a NULL pointer, which clears the selection; otherwise the 16 bytes behind it. -/
def setScalarIndexSegment (segmentUuid : Option (List Byte)) : Except LanceError ScannerHandle :=
  self.setBeforeScan "scalar_index_segment"
    { self with scalarIndexSegment := segmentUuid.map fun bytes => Uuid.fromBytes (block 16 bytes 0) }

def setScalarIndexAutoSelection (enabled : Bool) : Except LanceError ScannerHandle :=
  self.setBeforeScan "scalar_index_auto_selection" { self with scalarIndexAutoSelection := enabled }

def setApproxMode (approxMode : Int) : Except LanceError ScannerHandle := do
  let approxMode ← LanceApproxMode.fromI32 approxMode
  self.setBeforeScan "approx_mode" { self with approxMode := some approxMode }

def setQueryParallelism (queryParallelism : Int) : Except LanceError ScannerHandle := do
  refuseIf (queryParallelism < -1)
    (.invalidInput s!"query_parallelism must be -1, 0, or greater than 0, got {queryParallelism}")
  self.setBeforeScan "query_parallelism" { self with queryParallelism := some queryParallelism }

def setMetric (metric : Int) : Except LanceError ScannerHandle :=
  match metric with
  | 0 => .ok { self with metricOverride := some .l2 }
  | 1 => .ok { self with metricOverride := some .cosine }
  | 2 => .ok { self with metricOverride := some .dot }
  | 3 => .ok { self with metricOverride := some .hamming }
  | _ => .error (.invalidInput s!"invalid metric: {metric}")

/-- `len == 0` clears the restriction; repeated UUIDs are kept. -/
def setIndexSegments (segmentUuids : Option (List Byte)) (len : Nat) : Except LanceError ScannerHandle := do
  refuseIf (segmentUuids = none ∧ 0 < len) (.invalidInput "segment_uuids is NULL but len > 0")
  if len = 0 then return { self with indexSegments := none }
  else
    let uuids := (List.range len).map fun position => Uuid.fromBytes (block 16 (segmentUuids.getD []) position)
    return { self with indexSegments := some uuids }

def setFtsIndexSegments [Target] (segmentUuids : Option (List Byte)) (len : Nat) :
    Except LanceError ScannerHandle := do
  return { self with ftsIndexSegments := ← Fts.setFtsIndexSegments segmentUuids len }

end ScannerHandle

/-- One call on the whole handle, with its arguments. -/
inductive OptionSetter where
  | core (setter : Setter)
  | batchSize (batchSize : Int)
  | blobHandling (handling : Int)
  | ioBufferSize (ioBufferSizeBytes : Nat)
  | batchReadahead (batchReadahead : Nat)
  | fragmentReadahead (fragmentReadahead : Nat)
  | targetParallelism (targetParallelism : Nat)
  | scanInOrder (scanInOrder : Bool)
  | useScalarIndex (useScalarIndex : Bool)
  | useStats (useStats : Bool)
  | withRowId (enable : Bool)
  | withRowAddress (enable : Bool)
  | includeDeletedRows (includeDeletedRows : Bool)
  | fragmentIds (ids : Option (List Nat)) (len : Nat)
  | rowAddrList (rowIds : Option (List Nat)) (len : Nat) (list : RowAddrList)
  | substraitFilter (bytes : Option (List Byte)) (len : Nat)
  | additionalSqlFilter (filter : CString)
  | statisticsCallback (callback : Option SendScanStatisticsCallback)
  | scalarIndexSegment (segmentUuid : Option (List Byte))
  | scalarIndexAutoSelection (enabled : Bool)
  | approxMode (approxMode : Int)
  | queryParallelism (queryParallelism : Int)
  | metric (metric : Int)
  | ef (value : Nat)
  | useIndex (enable : Bool)
  | prefilter (enable : Bool)
  | indexSegments (segmentUuids : Option (List Byte)) (len : Nat)
  | ftsIndexSegments (segmentUuids : Option (List Byte)) (len : Nat)

namespace ScannerHandle

variable [Target] (upstream : Upstream) (self : ScannerHandle)

def set : OptionSetter → Except LanceError ScannerHandle
  | .core setter => do return { self with toLanceScanner := ← self.toLanceScanner.set upstream setter }
  | .batchSize batchSize => do
    return { self with toSizedScanner := ← scannerSetBatchSizeInner self.toSizedScanner batchSize }
  | .blobHandling handling => self.setBlobHandling handling
  | .ioBufferSize ioBufferSizeBytes => self.setIoBufferSize ioBufferSizeBytes
  | .batchReadahead batchReadahead => self.setBatchReadahead batchReadahead
  | .fragmentReadahead fragmentReadahead => self.setFragmentReadahead fragmentReadahead
  | .targetParallelism targetParallelism => self.setTargetParallelism targetParallelism
  | .scanInOrder scanInOrder => self.setScanInOrder scanInOrder
  | .useScalarIndex useScalarIndex => self.setUseScalarIndex useScalarIndex
  | .useStats useStats => self.setUseStats useStats
  | .withRowId enable => .ok { self with withRowId := enable }
  | .withRowAddress enable => self.setWithRowAddress enable
  | .includeDeletedRows includeDeletedRows => self.setIncludeDeletedRows includeDeletedRows
  | .fragmentIds ids len => self.setFragmentIds ids len
  | .rowAddrList rowIds len list => self.setRowAddrList rowIds len list
  | .substraitFilter bytes len => self.setSubstraitFilter bytes len
  | .additionalSqlFilter filter => self.additionalSqlFilter filter
  | .statisticsCallback callback => self.setStatisticsCallback callback
  | .scalarIndexSegment segmentUuid => self.setScalarIndexSegment segmentUuid
  | .scalarIndexAutoSelection enabled => self.setScalarIndexAutoSelection enabled
  | .approxMode approxMode => self.setApproxMode approxMode
  | .queryParallelism queryParallelism => self.setQueryParallelism queryParallelism
  | .metric metric => self.setMetric metric
  | .ef value => .ok { self with ef := some value }
  | .useIndex enable => .ok { self with useIndex := some enable }
  | .prefilter enable => .ok { self with prefilter := enable }
  | .indexSegments segmentUuids len => self.setIndexSegments segmentUuids len
  | .ftsIndexSegments segmentUuids len => self.setFtsIndexSegments segmentUuids len

/-- A failed call leaves the handle as it was. -/
def call (setter : OptionSetter) : ScannerHandle :=
  match self.set upstream setter with
  | .ok next => next
  | .error _ => self

def run (calls : List OptionSetter) : ScannerHandle := calls.foldl (call upstream) self

end ScannerHandle

end LanceC.Scanner
