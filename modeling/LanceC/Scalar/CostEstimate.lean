import LanceC.Logic.ParseInt
import LanceC.Logic.Traced
import LanceC.Scalar.Expression
import LanceC.Snapshot

/-! The bounded BTree cost probe of scalar_index_selection.rs. Estimates only
steer the choice of an accelerator; a failure of any kind is an unknown cost. -/

namespace LanceC.Scalar

open Logic Machine

def maxCandidates : Nat := 8
def maxLookupBytes : Nat := 8 * 1024 * 1024
def maxDecodedLookupBytes : Nat := 8 * 1024 * 1024
def maxLookupPages : Nat := 65536
def maxInValues : Nat := 256
def maxEstimateComparisons : Nat := 1000000

/-- Comparison of two non-NULL scalars; values of different types do not compare. -/
class ScalarOrder (Value : Type) where
  partialCmp : Value → Value → Option Ordering

/-- The page lookup as a record batch: the minimum, maximum and null-count
columns by row, each absent where it cannot be read as its type. -/
structure LookupBatch (Value : Type) where
  numColumns : Nat
  numRows : Nat
  min : Nat → Option (ScalarValue Value)
  max : Nat → Option (ScalarValue Value)
  nulls : Option (Nat → Nat)

structure Lookup (Value : Type) where
  batch : LookupBatch Value
  rowsPerPage : Nat
  decodedBytes : Nat

structure ProbeBudget where
  serializedBytes : Nat
  decodedBytes : Nat
  deriving DecidableEq, Repr

def ProbeBudget.default : ProbeBudget := ⟨maxLookupBytes, maxDecodedLookupBytes⟩

/-- What a probe does to its files and to its budget. -/
inductive ProbeEvent where
  | probe
  | charge (size : Nat)
  | openFile (size : Nat)
  | materialise (decodedBytes : Nat)
  | spend (decodedBytes : Nat)
  deriving DecidableEq, Repr

def fixedWidth : DataType → Option Nat
  | .null => some 0
  | .boolean => some 1
  | .fixedSizeBinary width => if 0 ≤ width then some width.toNat else none
  | .int8 | .uint8 => some 1
  | .float16 => some 2
  | .float32 => some 4
  | .float64 | .uint64 => some 8
  | .primitive width => some width
  | .variable _ | .fixedSizeList _ _ | .list _ _ => none

def decodedLookupBytes [Target] (schema : List DataType) (rows : Nat) : Option Nat :=
  schema.foldlM (fun bytes dataType => do
    let values ← checkedMul rows (← fixedWidth dataType)
    let bytes ← checkedAdd bytes values
    let bytes ← checkedAdd bytes ((rows + 7) / 8)
    checkedAdd bytes 1024) 0

section Pages

variable {Value : Type}

def isBtreeExpression : ScalarIndexExpr Value → Bool
  | .query search => search.indexType.toLower == "btree"
  | .and lhs rhs => isBtreeExpression lhs && isBtreeExpression rhs
  | .or lhs rhs => isBtreeExpression lhs && isBtreeExpression rhs
  | .not _ => false

variable [ScalarOrder Value]

/-- The `contains` closure of `overlaps`; the second comparison is only made
when the first leaves the answer open. -/
def containsValue (min max : ScalarValue Value) (nulls : Nat) : ScalarValue Value → Option Bool
  | none => some (nulls != 0)
  | some value =>
    match min, max with
    | some min, some max => do
      let below ← ScalarOrder.partialCmp min value
      if below == .gt then some false
      else
        let above ← ScalarOrder.partialCmp max value
        some (above != .lt)
    | _, _ => some false

def containsAny (min max : ScalarValue Value) (nulls : Nat) : List (ScalarValue Value) → Option Bool
  | [] => some false
  | value :: rest => do
    if ← containsValue min max nulls value then some true
    else containsAny min max nulls rest

def aboveLower (max : Value) : Bound (ScalarValue Value) → Option Bool
  | .included (some value) => do some ((← ScalarOrder.partialCmp max value) != .lt)
  | .excluded (some value) => do some ((← ScalarOrder.partialCmp max value) == .gt)
  | .unbounded => some true
  | _ => none

def belowUpper (min : Value) : Bound (ScalarValue Value) → Option Bool
  | .included (some value) => do some ((← ScalarOrder.partialCmp min value) != .gt)
  | .excluded (some value) => do some ((← ScalarOrder.partialCmp min value) == .lt)
  | .unbounded => some true
  | _ => none

def overlaps (min max : ScalarValue Value) (query : SargableQuery Value) (nulls : Nat) : Option Bool :=
  match query with
  | .equals value => containsValue min max nulls value
  | .isNull => some (nulls != 0)
  | .isIn values => if values.length ≤ maxInValues then containsAny min max nulls values else none
  | .range start stop =>
    match min, max with
    | some min, some max => do
      let above ← aboveLower max start
      let below ← belowUpper min stop
      some (above && below)
    | _, _ => some false
  | .other _ => none

def matchesPage (expr : ScalarIndexExpr Value) (min max : ScalarValue Value) (nulls : Nat) : Option Bool :=
  match expr with
  | .query search => overlaps min max search.query nulls
  | .and lhs rhs => do if ← matchesPage lhs min max nulls then matchesPage rhs min max nulls else some false
  | .or lhs rhs => do if ← matchesPage lhs min max nulls then some true else matchesPage rhs min max nulls
  | .not _ => none

def comparisonsPerPage [Target] : ScalarIndexExpr Value → Option Nat
  | .query search =>
    match search.query with
    | .isIn values => if values.length ≤ maxInValues then some (max values.length 1) else none
    | .equals _ | .range _ _ | .isNull => some 1
    | .other _ => none
  | .and lhs rhs => do checkedAdd (← comparisonsPerPage lhs) (← comparisonsPerPage rhs)
  | .or lhs rhs => do checkedAdd (← comparisonsPerPage lhs) (← comparisonsPerPage rhs)
  | .not _ => none

/-- The page loop of `estimate_pages` over the rows still to visit. -/
def countPages (batch : LookupBatch Value) (expr : ScalarIndexExpr Value) (nulls : Nat → Nat) :
    List Nat → Nat → Option Nat
  | [], pages => some pages
  | row :: rest, pages => do
    let min ← batch.min row
    let max ← batch.max row
    let hit ← matchesPage expr min max (nulls row)
    countPages batch expr nulls rest (pages + hit.toNat)

def estimatePages [Target] (batch : LookupBatch Value) (expr : ScalarIndexExpr Value) : Option Nat :=
  if batch.numColumns < 3 ∨ batch.numRows > maxLookupPages then none
  else do
    let comparisons ← checkedMul batch.numRows (← comparisonsPerPage expr)
    if comparisons > maxEstimateComparisons then none
    else countPages batch expr (← batch.nulls) (List.range batch.numRows) 0

end Pages

/-- An opened lookup file. `readRange` is absent when reading its rows fails. -/
structure LookupReader (Value : Type) where
  numRows : Nat
  schema : List DataType
  batchSize : Option String
  readRange : Option (LookupBatch Value)

/-- What the probe needs of Lance: the name of the lookup file, the default
page size, and the file itself, absent when the store or the file does not open. -/
structure LookupStore (Value : Type) where
  btreeLookupName : String
  defaultBtreeBatchSize : Nat
  openIndexFile : Uuid → Option (LookupReader Value)

/-- The session cache is keyed by dataset URI and index UUID. -/
structure LookupKey where
  uri : String
  uuid : Uuid
  deriving DecidableEq, Repr

abbrev LookupCache (Value : Type) := LookupKey → Option (Lookup Value)

section Probe

variable {Value : Type} [Target]

def rowsPerPage (store : LookupStore Value) (batchSize : Option String) : Option Nat :=
  match batchSize with
  | none => some store.defaultBtreeBatchSize
  | some text => (parseUnsigned u64Max text).toOption

/-- The cache's loader. The decoded size is checked before the rows are read; `size` is the
file's size by the manifest. -/
def loadLookup (store : LookupStore Value) (uuid : Uuid) (size availableDecodedBytes : Nat) :
    Traced ProbeEvent (Option (Lookup Value)) := do
  Traced.record (.openFile size)
  match store.openIndexFile uuid with
  | none => return none
  | some reader =>
    if reader.numRows > maxLookupPages then return none
    else
      match decodedLookupBytes reader.schema reader.numRows with
      | none => return none
      | some decodedBytes =>
        if decodedBytes > availableDecodedBytes then return none
        else
          match rowsPerPage store reader.batchSize with
          | none | some 0 => return none
          | some rowsPerPage =>
            Traced.record (.materialise decodedBytes)
            return reader.readRange.map fun batch => { batch, rowsPerPage, decodedBytes }

/-- A failed load is not cached. -/
def getOrInsertWithKey (cache : LookupCache Value) (key : LookupKey)
    (load : Traced ProbeEvent (Option (Lookup Value))) :
    Traced ProbeEvent (Option (Lookup Value) × LookupCache Value) :=
  match cache key with
  | some lookup => return (some lookup, cache)
  | none => do
    match ← load with
    | none => return (none, cache)
    | some lookup => return (some lookup, fun other => if other = key then some lookup else cache other)

/-- The size of the index's lookup file, where a probe of it may be opened at all. -/
def lookupFileSize (store : LookupStore Value) (dataset : Dataset) (index : IndexMetadata) : Option Nat := do
  let field ← dataset.schema.fieldById (← index.keyedField)
  let _ ← fixedWidth field.dataType
  let file ← (← index.files).find? (·.path == store.btreeLookupName)
  some file.sizeBytes

variable [ScalarOrder Value]

def estimateCost (store : LookupStore Value) (dataset : Dataset) (index : IndexMetadata)
    (expr : ScalarIndexExpr Value) (budget : ProbeBudget) (cache : LookupCache Value) :
    Traced ProbeEvent (Option (Nat × Nat) × ProbeBudget × LookupCache Value) := do
  Traced.record .probe
  if !isBtreeExpression expr then return (none, budget, cache)
  else
    match lookupFileSize store dataset index with
    | none => return (none, budget, cache)
    | some size =>
      if size > budget.serializedBytes then return (none, budget, cache)
      else
        Traced.record (.charge size)
        let budget := { budget with serializedBytes := budget.serializedBytes - size }
        match ← getOrInsertWithKey cache ⟨dataset.uri, index.uuid⟩
            (loadLookup store index.uuid size budget.decodedBytes) with
        | (none, cache) => return (none, budget, cache)
        | (some lookup, cache) =>
          -- Cache hits consume the same preparation budget as new loads.
          match checkedSub budget.decodedBytes lookup.decodedBytes with
          | none => return (none, budget, cache)
          | some decodedBytes =>
            Traced.record (.spend lookup.decodedBytes)
            let budget := { budget with decodedBytes }
            match estimatePages lookup.batch expr with
            | none => return (none, budget, cache)
            | some pages => return (some (saturatingMulU64 lookup.rowsPerPage pages, pages), budget, cache)

end Probe

end LanceC.Scalar
