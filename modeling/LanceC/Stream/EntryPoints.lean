import LanceC.Ffi.Guard
import LanceC.Ffi.StorageOptions
import LanceC.Stream.ReaderOwnership

/-! The entry points that consume a stream: dataset write, merge insert, column
splicing and the fragment writer. -/

namespace LanceC.Stream

open Ffi Logic Machine

structure FFIArrowSchema where
  address : Nat
  deriving DecidableEq, Repr

inductive LanceWriteMode where
  | create
  | append
  | overwrite
  deriving DecidableEq, Repr

def LanceWriteMode.fromRaw (raw : Int) : Except LanceError LanceWriteMode :=
  match raw with
  | 0 => .ok .create
  | 1 => .ok .append
  | 2 => .ok .overwrite
  | other => .error (.invalidInput
      s!"invalid write mode {other}; expected 0 (create), 1 (append), or 2 (overwrite)")

structure AutoCleanupParams where
  interval : Nat
  olderThanDays : Nat
  deriving DecidableEq, Repr

structure WriteParams where
  mode : LanceWriteMode
  storeParams : Option (HashMap String String)
  autoCleanup : Option AutoCleanupParams
  maxRowsPerFile : Nat
  maxRowsPerGroup : Nat
  maxBytesPerFile : Nat
  dataStorageVersion : Option String
  enableStableRowIds : Bool

structure LanceWriteParams where
  maxRowsPerFile : Nat
  maxRowsPerGroup : Nat
  maxBytesPerFile : Nat
  dataStorageVersion : CString
  enableStableRowIds : Bool
  deriving DecidableEq, Repr

inductive WhenMatched where
  | doNothing
  | updateAll
  | updateIf (expr : String)
  | fail
  | delete
  deriving DecidableEq, Repr

inductive WhenNotMatched where
  | insertAll
  | doNothing
  deriving DecidableEq, Repr

inductive WhenNotMatchedBySource where
  | keep
  | delete
  | deleteIf (expr : String)
  deriving DecidableEq, Repr

structure LanceMergeInsertParams where
  whenMatched : Int
  whenMatchedExpr : CString
  whenNotMatched : Int
  whenNotMatchedBySource : Int
  whenNotMatchedBySourceExpr : CString
  deriving DecidableEq, Repr

structure ResolvedParams where
  whenMatched : WhenMatched
  whenNotMatched : WhenNotMatched
  whenNotMatchedBySource : WhenNotMatchedBySource
  deriving DecidableEq, Repr

def ResolvedParams.defaults : ResolvedParams := ⟨.doNothing, .insertAll, .keep⟩

/-- What the entry points call in Arrow and Lance. `prepareMerge` stands for
`delete_if`, `try_new` and `try_build` in turn; `held` and `allocator` are the
snapshots alive elsewhere and the memory the handle's next one gets. -/
structure StreamLibrary where
  alreadyReleased : String
  importSchema : FFIArrowSchema → Unwind (Except String ArrowSchema)
  displaySchema : ArrowSchema → String
  parseVersion : String → Except String String
  defaultWriteParams : WriteParams
  executeUncommittedStream : String → WriteParams → ReaderCall (Unwind (Except LanceError Unit))
  writeDataset : String → WriteParams → ReaderCall (Unwind (Except LanceError Dataset))
  prepareMerge : Dataset → List String → ResolvedParams → Unwind (Except LanceError Unit)
  executeReader : Dataset → List String → ResolvedParams →
    ReaderCall (Unwind (Except LanceError (Dataset × LanceMergeInsertResult)))
  addColumns : Dataset → Option Nat → ReaderCall (Unwind (Except LanceError Unit) × Dataset)
  held : List (Arc Dataset)
  allocator : Allocator

section Arguments

variable [Target]

def u64ToUsize (value : Nat) (field : String) : Except LanceError Nat :=
  if value ≤ usizeMax then .ok value
  else .error (.invalidInput s!"{field}={value} exceeds usize::MAX on this target")

/-- A zero keeps the default. -/
def overrideLimit (default value : Nat) (field : String) : Except LanceError Nat :=
  if 0 < value then u64ToUsize value field else .ok default

/-- `{:?}` of a string. -/
def debugString (text : String) : String :=
  let escape (c : Char) : String :=
    if c = '"' then "\\\"" else if c = '\\' then "\\\\"
    else if c = '\n' then "\\n" else if c = '\r' then "\\r" else if c = '\t' then "\\t"
    else if c = Char.ofNat 0 then "\\0" else c.toString
  "\"" ++ String.join (text.toList.map escape) ++ "\""

def parseStorageVersion (library : StreamLibrary) (version : CString) : Except LanceError (Option String) := do
  match ← parseCString version with
  | none => return none
  | some text =>
    refuseIf (text = "") (.invalidInput "data_storage_version must not be an empty string")
    match library.parseVersion text with
    | .ok version => return some version
    | .error reason => .error (.invalidInput s!"invalid data_storage_version {debugString text}: {reason}")

def applyWriteParams (library : StreamLibrary) (target : WriteParams) (params : LanceWriteParams) :
    Except LanceError WriteParams := do
  let maxRowsPerFile ← overrideLimit target.maxRowsPerFile params.maxRowsPerFile "max_rows_per_file"
  let maxRowsPerGroup ← overrideLimit target.maxRowsPerGroup params.maxRowsPerGroup "max_rows_per_group"
  let maxBytesPerFile ← overrideLimit target.maxBytesPerFile params.maxBytesPerFile "max_bytes_per_file"
  let version ← parseStorageVersion library params.dataStorageVersion
  return { target with
    maxRowsPerFile, maxRowsPerGroup, maxBytesPerFile
    dataStorageVersion := version.or target.dataStorageVersion
    enableStableRowIds := params.enableStableRowIds }

inductive LanceMergeWhenMatched where
  | doNothing
  | updateAll
  | updateIf
  | fail
  | delete
  deriving DecidableEq, Repr

def LanceMergeWhenMatched.fromRaw (raw : Int) : Except LanceError LanceMergeWhenMatched :=
  match raw with
  | 0 => .ok .doNothing
  | 1 => .ok .updateAll
  | 2 => .ok .updateIf
  | 3 => .ok .fail
  | 4 => .ok .delete
  | other => .error (.invalidInput s!"invalid when_matched {other}; expected 0..=4 (see LanceMergeWhenMatched)")

def WhenNotMatched.fromRaw (raw : Int) : Except LanceError WhenNotMatched :=
  match raw with
  | 0 => .ok .insertAll
  | 1 => .ok .doNothing
  | other => .error (.invalidInput
      s!"invalid when_not_matched {other}; expected 0 or 1 (see LanceMergeWhenNotMatched)")

inductive LanceMergeWhenNotMatchedBySource where
  | keep
  | delete
  | deleteIf
  deriving DecidableEq, Repr

def LanceMergeWhenNotMatchedBySource.fromRaw (raw : Int) : Except LanceError LanceMergeWhenNotMatchedBySource :=
  match raw with
  | 0 => .ok .keep
  | 1 => .ok .delete
  | 2 => .ok .deleteIf
  | other => .error (.invalidInput
      s!"invalid when_not_matched_by_source {other}; expected 0..=2 (see LanceMergeWhenNotMatchedBySource)")

def readOptionalExpr (expr : CString) (field : String) : Except LanceError (Option String) :=
  optionalText expr s!"{field} must not be empty"

def rejectUnusedExpr {α : Type} (field mode : String) (expr : Option String) (resolved : α) :
    Except LanceError α := do
  refuseIf (expr.isSome = true) (.invalidInput s!"{field}_expr must be NULL when {field}={mode}")
  return resolved

def requireExpr {α : Type} (field mode : String) (expr : Option String) (resolved : String → α) :
    Except LanceError α :=
  match expr with
  | none => .error (.invalidInput s!"{field}={mode} requires {field}_expr")
  | some expr => .ok (resolved expr)

def resolveParams : Option LanceMergeInsertParams → Except LanceError ResolvedParams
  | none => .ok .defaults
  | some params => do
    let matchedKind ← LanceMergeWhenMatched.fromRaw params.whenMatched
    let whenNotMatched ← WhenNotMatched.fromRaw params.whenNotMatched
    let bySourceKind ← LanceMergeWhenNotMatchedBySource.fromRaw params.whenNotMatchedBySource
    let matchedExpr ← readOptionalExpr params.whenMatchedExpr "when_matched_expr"
    let bySourceExpr ← readOptionalExpr params.whenNotMatchedBySourceExpr "when_not_matched_by_source_expr"
    let whenMatched ← match matchedKind with
      | .doNothing => rejectUnusedExpr "when_matched" "DoNothing" matchedExpr .doNothing
      | .updateAll => rejectUnusedExpr "when_matched" "UpdateAll" matchedExpr .updateAll
      | .updateIf => requireExpr "when_matched" "UpdateIf" matchedExpr .updateIf
      | .fail => rejectUnusedExpr "when_matched" "Fail" matchedExpr .fail
      | .delete => rejectUnusedExpr "when_matched" "Delete" matchedExpr .delete
    let whenNotMatchedBySource ← match bySourceKind with
      | .keep => rejectUnusedExpr "when_not_matched_by_source" "Keep" bySourceExpr .keep
      | .delete => rejectUnusedExpr "when_not_matched_by_source" "Delete" bySourceExpr .delete
      | .deleteIf => requireExpr "when_not_matched_by_source" "DeleteIf" bySourceExpr .deleteIf
    return { whenMatched, whenNotMatched, whenNotMatchedBySource }

def resolveBatchSize (batchSize : Nat) : Except LanceError (Option Nat) :=
  if batchSize = 0 then .ok none
  else match u32TryFrom batchSize with
    | some narrowed => .ok (some narrowed)
    | none => .error (.invalidInput s!"batch_size={batchSize} exceeds u32::MAX")

/-- `Vec::with_capacity` of elements of `size` machine words. -/
def vecWithCapacity (size count : Nat) : Unwind (Except LanceError Unit) :=
  if isizeMax < size * (Target.usizeBits / 8) * count then .panicked (.text "capacity overflow") else .returned (.ok ())

def requireKey (onColumns : List CString) (i : Nat) : Except LanceError String :=
  requireText (onColumns.getD i .null) s!"on_columns[{i}] must not be NULL or empty"

def importSchema (library : StreamLibrary) (schema : FFIArrowSchema) : Unwind (Except LanceError ArrowSchema) :=
  match library.importSchema schema with
  | .returned (.ok schema) => .returned (.ok schema)
  | .returned (.error reason) => .returned (.error (.invalidInput s!"invalid schema: {reason}"))
  | .panicked payload => .panicked payload

def checkStreamSchema (library : StreamLibrary) (expected stream : ArrowSchema) : Except LanceError Unit :=
  refuseIf (stream.fields ≠ expected.fields) (.invalidInput
    s!"stream schema does not match the provided schema.\n  expected: {library.displaySchema expected}\n  got:      {library.displaySchema stream}")

def storeParams (opts : HashMap String String) : Option (HashMap String String) :=
  if opts.entries = [] then none else some opts

end Arguments

section Bodies

abbrev StreamBody := Body StreamWorld LanceError

variable (library : StreamLibrary)

/-- The rest of a body that has moved the stream into its reader, up to the drop. -/
def withReader (stream : FFIArrowArrayStream) (rest : ArrowSchema → StreamBody Int) : StreamBody Int :=
  Body.dropping StreamWorld.dropReader (fromRaw library.alreadyReleased stream >>= rest)

/-- A body that checks the stream argument and moves the stream out before anything else. -/
def takingStream (nullMessage : String) (rest : ArrowSchema → StreamBody Int) : StreamBody Int := do
  match (← Body.get).caller with
  | none => Body.ofExcept (.error (.invalidInput nullMessage))
  | some stream => withReader library stream rest

/-- `with_mut` around a closure that works on the stream as well. -/
def withMut {R : Type} (handle : LanceDataset)
    (f : Dataset → StreamWorld → (Unwind (Except LanceError R) × Dataset) × StreamWorld) :
    StreamBody R := fun world =>
  let (ended, reached) := f handle.inner.value world
  let (outcome, handle) := handle.withMut library.held library.allocator fun _ => ended
  (outcome, { reached with handle := some handle })

variable [Target]

def writeWithReader (uri : CString) (schema : Option FFIArrowSchema) (mode : Int)
    (params : Option LanceWriteParams)
    (storageOpts : Option (List CString)) (outDataset : Bool) (streamSchema : ArrowSchema) : StreamBody Int := do
  Body.ofExcept (refuseIf (uri = .null) (.invalidInput "uri must not be NULL"))
  match schema with
  | none => Body.ofExcept (.error (.invalidInput "schema must not be NULL"))
  | some schema =>
    let mode ← Body.ofExcept (LanceWriteMode.fromRaw mode)
    let uri ← Body.ofExcept (parseCString uri)
    Body.ofExcept (refuseIf (uri.getD "" = "") (.invalidInput "uri must not be empty"))
    let expected ← Body.ofUnwind (importSchema library schema)
    let opts ← Body.ofExcept (parseStorageOptions storageOpts)
    Body.ofExcept (checkStreamSchema library expected streamSchema)
    let base := { library.defaultWriteParams with
      mode, storeParams := storeParams opts, autoCleanup := some ⟨20, 14⟩ }
    let writeParams ← Body.ofExcept (match params with
      | none => .ok base
      | some params => applyWriteParams library base params)
    let dataset ← (library.writeDataset (uri.getD "") writeParams).run
    if outDataset then Body.modify fun world => { world with outDataset := some dataset }
    return 0

def writeDatasetInner (uri : CString) (schema : Option FFIArrowSchema) (mode : Int)
    (params : Option LanceWriteParams)
    (storageOpts : Option (List CString)) (outDataset : Bool) : StreamBody Int :=
  takingStream library "stream must not be NULL"
    (writeWithReader library uri schema mode params storageOpts outDataset)

def mergeClosure (keys : List String) (resolved : ResolvedParams) (dataset : Dataset) (world : StreamWorld) :
    (Unwind (Except LanceError LanceMergeInsertResult) × Dataset) × StreamWorld :=
  match library.prepareMerge dataset keys resolved with
  | .panicked payload => ((.panicked payload, dataset), world)
  | .returned (.error error) => ((.returned (.error error), dataset), world)
  | .returned (.ok ()) =>
    match (library.executeReader dataset keys resolved).run world with
    | (.panicked payload, reached) => ((.panicked payload, dataset), reached)
    | (.returned (.error error), reached) => ((.returned (.error error), dataset), reached)
    | (.returned (.ok (merged, stats)), reached) => ((.returned (.ok stats), merged), reached)

def mergeWithReader (onColumns : Option (List CString)) (numOnColumns : Nat)
    (params : Option LanceMergeInsertParams)
    (outResult : Bool) : StreamBody Int := do
  match (← Body.get).handle with
  | none => Body.ofExcept (.error (.invalidInput "dataset must not be NULL"))
  | some handle =>
    Body.ofExcept (refuseIf (numOnColumns = 0) (.invalidInput "num_on_columns must be >= 1"))
    match onColumns with
    | none => Body.ofExcept (.error (.invalidInput "on_columns must not be NULL when num_on_columns > 0"))
    | some onColumns =>
      Body.ofUnwind (vecWithCapacity 3 numOnColumns)
      let keys ← Body.ofExcept ((List.range numOnColumns).mapM (requireKey onColumns))
      let resolved ← Body.ofExcept (resolveParams params)
      let stats ← withMut library handle (mergeClosure library keys resolved)
      if outResult then Body.modify fun world => { world with outResult := some stats }
      return 0

def mergeInsertInner (onColumns : Option (List CString)) (numOnColumns : Nat)
    (params : Option LanceMergeInsertParams) (outResult : Bool) : StreamBody Int :=
  takingStream library "source stream must not be NULL" fun _ =>
    mergeWithReader library onColumns numOnColumns params outResult

def addColumnsWithReader (batchSize : Nat) : StreamBody Int := do
  match (← Body.get).handle with
  | none => Body.ofExcept (.error (.invalidInput "dataset must not be NULL"))
  | some handle =>
    let batchSize ← Body.ofExcept (resolveBatchSize batchSize)
    withMut library handle fun dataset world => (library.addColumns dataset batchSize).run world
    return 0

/-- The release by hand: the caller's struct is marked first, then the callback runs. -/
def releaseByHand (stream : FFIArrowArrayStream) (world : StreamWorld) : StreamWorld :=
  { world with caller := some { stream with release := false }, releases := world.releases + 1 }

def addColumnsStreamInner (batchSize : Nat) : StreamBody Int := do
  match (← Body.get).caller with
  | none => Body.ofExcept (.error (.invalidInput "stream must not be NULL"))
  | some stream =>
    if !stream.release || stream.getSchema.isNone || !stream.getNext then
      if stream.release then Body.modify (releaseByHand stream)
      Body.ofExcept (.error (.invalidInput
        "stream is uninitialised, already released, or missing a required get_schema/get_next/release callback"))
    else withReader library stream fun _ => addColumnsWithReader library batchSize

def writeFragmentsWithReader (uri : String) (expected : ArrowSchema) (opts : HashMap String String)
    (streamSchema : ArrowSchema) : StreamBody Int := do
  Body.ofExcept (checkStreamSchema library expected streamSchema)
  let params := { library.defaultWriteParams with storeParams := storeParams opts }
  (library.executeUncommittedStream uri params).run
  return 0

def writeFragmentsInner (uri : CString) (schema : Option FFIArrowSchema) (storageOpts : Option (List CString)) :
    StreamBody Int := do
  match uri, schema, (← Body.get).caller with
  | .null, _, _ | _, none, _ | _, _, none =>
    Body.ofExcept (.error (.invalidInput "uri, schema, and stream must not be NULL"))
  | uri, some schema, some stream =>
    let uri ← Body.ofExcept (parseCString uri)
    let expected ← Body.ofUnwind (importSchema library schema)
    let opts ← Body.ofExcept (parseStorageOptions storageOpts)
    withReader library stream (writeFragmentsWithReader library (uri.getD "") expected opts)

/-- A call of one of the consuming entry points with everything but the stream and the handle. -/
inductive StreamCall where
  | write (uri : CString) (schema : Option FFIArrowSchema) (mode : Int) (params : Option LanceWriteParams)
      (storageOpts : Option (List CString)) (outDataset : Bool)
  | mergeInsert (onColumns : Option (List CString)) (numOnColumns : Nat) (params : Option LanceMergeInsertParams)
      (outResult : Bool)
  | addColumnsStream (batchSize : Nat)
  | writeFragments (uri : CString) (schema : Option FFIArrowSchema) (storageOpts : Option (List CString))

def StreamCall.body : StreamCall → StreamBody Int
  | write uri schema mode params storageOpts outDataset =>
    writeDatasetInner library uri schema mode params storageOpts outDataset
  | mergeInsert onColumns numOnColumns params outResult =>
    mergeInsertInner library onColumns numOnColumns params outResult
  | addColumnsStream batchSize => addColumnsStreamInner library batchSize
  | writeFragments uri schema storageOpts => writeFragmentsInner library uri schema storageOpts

/-- What a call leaves: its return code, the error it reports and the world. -/
structure Returned where
  code : Int
  error : Option LastError
  world : StreamWorld

/-- `ffi_try!(body, neg)`. -/
def ffiTryNeg (body : StreamBody Int) (world : StreamWorld) : Returned :=
  match body world with
  | (.returned (.ok code), reached) => ⟨code, none, reached⟩
  | (.returned (.error error), reached) => ⟨-1, some (.of (errorCodeFromLance error) error.message), reached⟩
  | (.panicked payload, reached) => ⟨-1, some (.of .panic (panicInCall payload)), reached⟩

def StreamCall.run (call : StreamCall) (world : StreamWorld) : Returned :=
  ffiTryNeg (call.body library) world

end Bodies

end LanceC.Stream
