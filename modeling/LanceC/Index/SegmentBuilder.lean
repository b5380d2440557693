import LanceC.Index.ProgressGate
import LanceC.Index.VectorParams
import LanceC.Machine.Program
import LanceC.Snapshot

/-! The single-use index segment builder: its progress callback and its execution
(index_segment.rs). Lance's own index build and the encoding of its result are parameters. -/

namespace LanceC.Index

open Logic Machine

def nul : Char := Char.ofNat 0

/-- `CString::new`, whose error the caller maps. -/
def cStringNew (value : String) (error : LanceError) : Except LanceError String := do
  refuseIf (nul ∈ value.toList) error
  return value

def progressCString (value : String) : Except LanceError String :=
  let cleaned := if nul ∈ value.toList then String.ofList (value.toList.filter (· ≠ nul)) else value
  cStringNew cleaned (.internal "index build progress stage/unit contained an interior NUL")

inductive IndexBuildProgressEvent where
  | stageStart
  | stageProgress
  | stageComplete
  deriving DecidableEq, Repr

variable {Callback Context Gate Item Codebook Metadata : Type}

/-- `gate` is the shared gate's allocation. -/
structure SendIndexBuildProgressCallback (Callback Context Gate : Type) where
  callback : Callback
  ctx : Context
  gate : Gate
  deriving DecidableEq, Repr

/-- One call of the C callback, with its arguments. -/
structure Invocation (Callback Context : Type) where
  callback : Callback
  ctx : Context
  event : IndexBuildProgressEvent
  stage : String
  total : Nat
  unit : String
  completed : Nat
  deriving DecidableEq, Repr

namespace SendIndexBuildProgressCallback

variable (self : SendIndexBuildProgressCallback Callback Context Gate)

/-- What `stage_start` calls if the gate lets it in, and so for the other two. -/
def stageStart (stage : String) (total : Option Nat) (unit : String) :
    Except LanceError (Invocation Callback Context) := do
  let stage ← progressCString stage
  let unit ← progressCString unit
  return { callback := self.callback, ctx := self.ctx, event := .stageStart, stage, total := total.getD 0, unit
           completed := 0 }

def stageProgress (stage : String) (completed : Nat) : Except LanceError (Invocation Callback Context) := do
  let stage ← progressCString stage
  return { callback := self.callback, ctx := self.ctx, event := .stageProgress, stage, total := 0, unit := "", completed }

def stageComplete (stage : String) : Except LanceError (Invocation Callback Context) := do
  let stage ← progressCString stage
  return { callback := self.callback, ctx := self.ctx, event := .stageComplete, stage, total := 0, unit := ""
           completed := 0 }

/-- The invocations that holding a clone allows. -/
inductive Reports : Invocation Callback Context → Prop where
  | stageStart {call stage total unit} : self.stageStart stage total unit = .ok call → Reports call
  | stageProgress {call stage completed} : self.stageProgress stage completed = .ok call → Reports call
  | stageComplete {call stage} : self.stageComplete stage = .ok call → Reports call

end SendIndexBuildProgressCallback

inductive SegmentKind (Item Codebook : Type) where
  | scalar (scalarType : LanceScalarIndexType) (paramsJson : Option String)
  | vector (params : LanceVectorIndexParams) (centroids : Option (FixedSizeListArray Item)) (codebook : Option Codebook)

structure LanceIndexSegmentBuilder (Callback Context Gate Item Codebook : Type) where
  dataset : Dataset
  column : String
  indexName : Option String
  kind : SegmentKind Item Codebook
  fragmentIds : Option (List Nat)
  indexUuid : Option Uuid
  progress : Option (SendIndexBuildProgressCallback Callback Context Gate)
  executed : Bool

inductive CoreIndexParams (Item Codebook : Type) where
  | scalar (builtin : BuiltinIndexType) (params : Option String)
  | vector (params : LanceCoreVectorIndexParams Item Codebook)

/-- Lance's builder as it is executed. -/
structure CoreIndexBuilder (Callback Context Gate Item Codebook : Type) where
  dataset : Dataset
  columns : List String
  indexType : IndexType
  params : CoreIndexParams Item Codebook
  name : Option String
  fragments : Option (List Nat)
  indexUuid : Option Uuid
  progress : Option (SendIndexBuildProgressCallback Callback Context Gate)
  train : Option Bool

/-- What one execution meets: how the build ends, the protobuf encoding, and whether
an allocation of a given size succeeds. -/
structure BuildOutside (Callback Context Gate Item Codebook Metadata : Type) where
  executeUncommitted :
    CoreIndexBuilder Callback Context Gate Item Codebook → Unwind (Except LanceError Metadata)
  encodeToVec : Metadata → List UInt8
  malloc : Nat → Bool

/-- What runs under the retire guard, and the gate that the guard retires. -/
structure GuardedBuild (Callback Context Gate : Type) where
  progressRetire : Option Gate
  body : Program (List (SendIndexBuildProgressCallback Callback Context Gate)) (Except LanceError (List UInt8))

namespace LanceIndexSegmentBuilder

/-- A builder as the constructors return it. -/
def new (dataset : Dataset) (column : String) (indexName : Option String) (kind : SegmentKind Item Codebook)
    (fragmentIds : Option (List Nat)) (indexUuid : Option Uuid) :
    LanceIndexSegmentBuilder Callback Context Gate Item Codebook :=
  { dataset, column, indexName, kind, fragmentIds, indexUuid, progress := none, executed := false }

/-- The metadata bytes, in the allocation that the out-pointers receive. -/
def encodeMetadata (outside : BuildOutside Callback Context Gate Item Codebook Metadata)
    (result : Except LanceError Metadata) : Except LanceError (List UInt8) := do
  let metadata ← result
  let bytes := outside.encodeToVec metadata
  refuseIf (outside.malloc bytes.length = false)
    (.internal s!"failed to allocate {bytes.length} metadata bytes")
  return bytes

/-- Hands the clone of the progress callback to Lance, of which it keeps as many as it
likes, and waits for the build. -/
def buildCore (outside : BuildOutside Callback Context Gate Item Codebook Metadata)
    (core : CoreIndexBuilder Callback Context Gate Item Codebook) :
    Program (List (SendIndexBuildProgressCallback Callback Context Gate)) (Except LanceError (List UInt8)) := do
  Program.modify (core.progress.toList ++ ·)
  let result ← Program.ofUnwind (outside.executeUncommitted core)
  return encodeMetadata outside result

/-- The request to Lance's index build. -/
def core (builder : LanceIndexSegmentBuilder Callback Context Gate Item Codebook) :
    Except LanceError (CoreIndexBuilder Callback Context Gate Item Codebook) :=
  match builder.kind with
  | .scalar scalarType paramsJson =>
    .ok
      { dataset := builder.dataset, columns := [builder.column], indexType := scalarType.toIndexType
        params := .scalar scalarType.toBuiltin paramsJson, name := builder.indexName
        fragments := builder.fragmentIds, indexUuid := builder.indexUuid, progress := builder.progress
        train := none }
  | .vector params centroids codebook => do
    let coreParams ← buildVectorParamsWithModels params centroids codebook
    return {
      dataset := builder.dataset, columns := [builder.column], indexType := .vector
      params := .vector coreParams, name := builder.indexName, fragments := builder.fragmentIds
      indexUuid := builder.indexUuid, progress := builder.progress, train := some true }

theorem core_dataset {builder : LanceIndexSegmentBuilder Callback Context Gate Item Codebook}
    {core : CoreIndexBuilder Callback Context Gate Item Codebook} (requested : builder.core = .ok core) :
    core.dataset = builder.dataset ∧ core.columns = [builder.column] ∧ core.fragments = builder.fragmentIds ∧
      core.indexUuid = builder.indexUuid ∧ core.name = builder.indexName ∧ core.progress = builder.progress := by
  unfold LanceIndexSegmentBuilder.core at requested
  split at requested
  · cases requested
    exact ⟨rfl, rfl, rfl, rfl, rfl, rfl⟩
  · obtain ⟨coreParams, _, success⟩ := bind_eq_ok.mp requested
    cases success
    exact ⟨rfl, rfl, rfl, rfl, rfl, rfl⟩

/-- `execute_uncommitted_inner` from the guard on; its state are the clones in Lance's hands. -/
def build (outside : BuildOutside Callback Context Gate Item Codebook Metadata)
    (builder : LanceIndexSegmentBuilder Callback Context Gate Item Codebook) :
    Program (List (SendIndexBuildProgressCallback Callback Context Gate)) (Except LanceError (List UInt8)) :=
  match builder.core with
  | .error error => return .error error
  | .ok core => buildCore outside core

end LanceIndexSegmentBuilder

/-- `none` is a NULL builder; `outsNull` where one of the out-pointers is NULL. An error
is an early return, before the guard. -/
def executeUncommittedInner (outside : BuildOutside Callback Context Gate Item Codebook Metadata)
    (builder : Option (LanceIndexSegmentBuilder Callback Context Gate Item Codebook)) (outsNull : Bool) :
    Except LanceError (GuardedBuild Callback Context Gate) ×
      Option (LanceIndexSegmentBuilder Callback Context Gate Item Codebook) :=
  match builder with
  | none => (.error (.invalidInput "builder must not be NULL"), none)
  | some builder =>
    if builder.executed then
      (.error (.invalidInput "index segment builder is single-use and has already been executed"), some builder)
    else
      let builder := { builder with executed := true }
      if outsNull then (.error (.invalidInput "out_bytes and out_len must not be NULL"), some builder)
      else
        let progressRetire := builder.progress.map SendIndexBuildProgressCallback.gate
        (.ok ⟨progressRetire, builder.build outside⟩, some builder)

/-- `gate` is the allocation of a fresh gate. -/
def setProgressCallbackInner (builder : Option (LanceIndexSegmentBuilder Callback Context Gate Item Codebook))
    (callback : Option Callback) (callbackCtx : Context) (gate : Gate) :
    Except LanceError (LanceIndexSegmentBuilder Callback Context Gate Item Codebook) :=
  match builder, callback with
  | none, _ => .error (.invalidInput "builder must not be NULL")
  | some _, none => .error (.invalidInput "progress callback must not be NULL")
  | some builder, some callback =>
    if builder.executed then
      .error (.invalidInput "progress callback must be set before the builder is executed")
    else .ok { builder with progress := some ⟨callback, callbackCtx, gate⟩ }

end LanceC.Index
