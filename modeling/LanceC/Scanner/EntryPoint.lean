import LanceC.Ffi.Guard

/-! The guarded entry points of the scanner handle, the readers behind the streams
it exports and its scan tasks (scanner.rs, stream_guard.rs). Every guarded function
is given by its three parts, over what such a function can reach: the handle, the
exported readers, and the caller's output slot and last error. A call here has a
handle: a NULL one is refused before the flag of any scanner is looked at. -/

namespace LanceC.Scanner

open Ffi Machine

variable {Config Stream Wakers Built Batch : Type}

inductive LancePollStatus where
  | ready
  | pending
  | finished
  | error
  deriving DecidableEq, Repr

inductive Poll (α : Type) where
  | ready (value : α)
  | pending

/-- The reader behind an exported stream; its inner stream is detached on release. -/
structure GuardedReader (Stream : Type) where
  inner : Option Stream
  poisoned : Bool
  deriving DecidableEq, Repr

/-- A completion, less the callback it is for. -/
structure DispatcherMessage (Stream : Type) where
  status : Int
  result : Option (GuardedReader Stream)
  error : Option (LanceErrorCode × String)
  deriving DecidableEq, Repr

structure ScanHandle (Config Stream Wakers : Type) where
  config : Config
  stream : Option Stream
  pollWakers : Wakers
  deriving DecidableEq, Repr

inductive Output (Stream Batch : Type) where
  | batch (batch : Batch)
  | stream (reader : GuardedReader Stream)
  deriving DecidableEq, Repr

/-- The caller's side: no slot for a NULL `out`, else what the slot holds. -/
structure Caller (Stream Batch : Type) where
  out : Option (Option (Output Stream Batch))
  lastError : Option LastError
  deriving DecidableEq, Repr

structure Shared (Config Stream Wakers : Type) where
  handle : ScanHandle Config Stream Wakers
  exported : List (GuardedReader Stream)
  deriving DecidableEq, Repr

structure Frame (Config Stream Wakers Batch : Type) where
  shared : Shared Config Stream Wakers
  caller : Caller Stream Batch
  deriving DecidableEq, Repr

inductive Returned (Batch : Type) where
  | code (code : Int)
  | status (status : LancePollStatus)
  | item (item : Option (Except String Batch))
  | void
  deriving Repr

/-- What a function hands on when it ends. -/
inductive Effect (Stream Built : Type) where
  | none
  | handOut (reader : GuardedReader Stream)
  | dispatch (message : DispatcherMessage Stream)
  | spawn (scanner : Built)

/-- `poison` says that the function stores `true` to the scanner's flag. -/
structure Reply (Stream Built Batch : Type) where
  value : Returned Batch
  poison : Bool
  effect : Effect Stream Built

def Reply.plain (value : Returned Batch) : Reply Stream Built Batch := ⟨value, false, .none⟩

/-- One call's view of what lies outside: Lance, Arrow and the runtime. Each part
may take any number of steps and end in a value or a panic. -/
structure Outside (Config Stream Wakers Built Batch : Type) where
  display : LanceError → Unwind String
  configure : Program Config (Except LanceError Int)
  buildScanner : Program Config (Except LanceError Built)
  tryIntoStream : Built → Program Unit (Except LanceError Stream)
  convertSchema : Stream → Unwind (Except String Unit)
  next : Program Stream (Option (Except LanceError Batch))
  pollNext : Program Stream (Poll (Option (Except LanceError Batch)))
  register : Program Wakers Unit
  enter : Unwind Unit
  spawn : Unwind Unit
  close : Program (ScanHandle Config Stream Wakers) Unit
  dropStream : Stream → Program Unit Unit

/-- Everything succeeds at once, but a setter's body panics. -/
def samplePanic : Outside Unit Unit Unit Unit Unit where
  display error := .returned error.message
  configure := .panic "index out of bounds"
  buildScanner := pure (.ok ())
  tryIntoStream _ := pure (.ok ())
  convertSchema _ := .returned (.ok ())
  next := pure none
  pollNext := pure .pending
  register := pure ()
  enter := .returned ()
  spawn := .returned ()
  close := pure ()
  dropStream _ := pure ()

namespace Frame

abbrev Call (Config Stream Wakers Batch α : Type) := Program (Frame Config Stream Wakers Batch) α

def onHandle {α : Type} (program : Program (ScanHandle Config Stream Wakers) α) :
    Call Config Stream Wakers Batch α :=
  program.zoom (fun frame => frame.shared.handle) fun handle frame => { frame with shared.handle := handle }

def onConfig {α : Type} (program : Program Config α) : Call Config Stream Wakers Batch α :=
  onHandle (program.zoom (fun handle => handle.config) fun config handle => { handle with config })

def onWakers {α : Type} (program : Program Wakers α) : Call Config Stream Wakers Batch α :=
  onHandle (program.zoom (fun handle => handle.pollWakers) fun pollWakers handle => { handle with pollWakers })

/-- The handle's stream, which was found to be `found`. -/
def onStream {α : Type} (found : Stream) (program : Program Stream α) : Call Config Stream Wakers Batch α :=
  onHandle (program.zoom (fun handle => handle.stream.getD found) fun stream handle =>
    { handle with stream := some stream })

/-- The inner stream of an exported reader, which was found to be `found`. -/
def onReader {α : Type} (index : Nat) (found : Stream) (program : Program Stream α) :
    Call Config Stream Wakers Batch α :=
  program.zoom (fun frame => ((frame.shared.exported[index]?).bind GuardedReader.inner).getD found)
    fun stream frame => { frame with shared.exported := frame.shared.exported.modify index fun reader =>
      { reader with inner := some stream } }

def elsewhere {α : Type} (program : Program Unit α) : Call Config Stream Wakers Batch α :=
  program.zoom (fun _ => ()) fun _ frame => frame

def withError (frame : Frame Config Stream Wakers Batch) (code : LanceErrorCode) (message : String) :
    Frame Config Stream Wakers Batch :=
  { frame with caller.lastError := some (.of code message) }

/-- `*out = value`; a NULL pointer is not written through. -/
def withOut (frame : Frame Config Stream Wakers Batch) (value : Option (Output Stream Batch)) :
    Frame Config Stream Wakers Batch :=
  { frame with caller.out := frame.caller.out.map fun _ => value }

def setLastError (code : LanceErrorCode) (message : String) : Call Config Stream Wakers Batch Unit :=
  .modify fun frame => frame.withError code message

def clearLastError : Call Config Stream Wakers Batch Unit :=
  .modify fun frame => { frame with caller.lastError := none }

def setOut (value : Option (Output Stream Batch)) : Call Config Stream Wakers Batch Unit :=
  .modify fun frame => frame.withOut value

end Frame

open LanceC.Scanner.Frame

variable (outside : Outside Config Stream Wakers Built Batch)

def setLanceError (error : LanceError) : Call Config Stream Wakers Batch Unit := do
  let text ← Program.ofUnwind (outside.display error)
  setLastError (errorCodeFromLance error) text

def scannerPoisonCheck (errval : Reply Stream Built Batch) (poisoned : Bool)
    (frame : Frame Config Stream Wakers Batch)
    (rest : Option (Reply Stream Built Batch) × Frame Config Stream Wakers Batch) :
    Option (Reply Stream Built Batch) × Frame Config Stream Wakers Batch :=
  if poisoned then (some errval, frame.withError .panic "scanner is poisoned by an earlier panic") else rest

/-- The guard of `error.rs`: the closure includes the mapping of its result. -/
def ffiGuardWith (prologue : Bool → Frame Config Stream Wakers Batch →
      Option (Reply Stream Built Batch) × Frame Config Stream Wakers Batch)
    (body : Call Config Stream Wakers Batch (Except LanceError Int))
    (onFailure : FfiFailure → Reply Stream Built Batch) :
    Guarded (Frame Config Stream Wakers Batch) (Reply Stream Built Batch) where
  prologue := prologue
  body := do
    match ← body with
    | .ok value =>
      clearLastError
      return .plain (.code value)
    | .error error =>
      setLanceError outside error
      return onFailure .lance
  caught payload frame := (onFailure .panic, frame.withError .panic (panicInCall payload))

/-- Every setter is this call around its own body. -/
def scannerFfiTry : Guarded (Frame Config Stream Wakers Batch) (Reply Stream Built Batch) :=
  ffiGuardWith outside (fun poisoned frame => scannerPoisonCheck (.plain (.code (-1))) poisoned frame (none, frame))
    (onConfig outside.configure) fun failure => ⟨.code (-1), failure = .panic, .none⟩

/-- `build_scanner` and `try_into_stream`, stored as the handle's stream. -/
def materializeStream : Call Config Stream Wakers Batch (Except LanceError Unit) := do
  match ← onConfig outside.buildScanner with
  | .error error => return .error error
  | .ok preparedScanner =>
    match ← elsewhere (outside.tryIntoStream preparedScanner) with
    | .error error => return .error error
    | .ok stream =>
      Program.modify fun frame => { frame with shared.handle.stream := some stream }
      return .ok ()

/-- Arrow's schema conversion, tried once where a panic can still be caught. -/
def preflightSchema (stream : Stream) : Except String Unit :=
  match (outside.convertSchema stream).catchUnwind with
  | .ok (.ok ()) => .ok ()
  | .ok (.error error) => .error (escapeNul error)
  | .error payload => .error (escapeNul s!"panic exporting Arrow schema: {panicPayloadMessage payload}")

def GuardedReader.new (inner : Stream) : Unwind (GuardedReader Stream) :=
  match preflightSchema outside inner with
  | .ok () => .returned { inner := some inner, poisoned := false }
  | .error error => .panicked (.text s!"Arrow schema cannot be exported: External error: {error}")

def scannerToArrowStreamInner : Call Config Stream Wakers Batch (Except LanceError (GuardedReader Stream)) := do
  match ← onConfig outside.buildScanner with
  | .error error => return .error error
  | .ok builtScanner =>
    match ← elsewhere (outside.tryIntoStream builtScanner) with
    | .error error => return .error error
    | .ok stream =>
      let reader ← Program.ofUnwind (GuardedReader.new outside stream)
      setOut (some (.stream reader))
      return .ok reader

def lanceScannerToArrowStream : Guarded (Frame Config Stream Wakers Batch) (Reply Stream Built Batch) where
  prologue poisoned frame :=
    scannerPoisonCheck (.plain (.code (-1))) poisoned frame
      (if frame.caller.out = none then
        (some (.plain (.code (-1))), frame.withError .invalidArgument "out must not be NULL")
      else (none, frame))
  body := do
    match ← scannerToArrowStreamInner outside with
    | .ok reader =>
      clearLastError
      return ⟨.code 0, false, .handOut reader⟩
    | .error error =>
      setLanceError outside error
      return .plain (.code (-1))
  caught payload frame :=
    (⟨.code (-1), true, .none⟩, frame.withError .panic (panicInCall payload))

/-- What both iteration calls do with the item a stream gave them. -/
def deliverItem {α : Type} (ready finished error : α) : Option (Except LanceError Batch) →
    Call Config Stream Wakers Batch α
  | some (.ok batch) => do
    clearLastError
    setOut (some (.batch batch))
    return ready
  | some (.error failure) => do
    setLanceError outside failure
    setOut none
    return error
  | none => do
    clearLastError
    setOut none
    return finished

/-- Materializes the stream on the first call, then goes on with it. -/
def withStream {α : Type} (error : α) (continue' : Stream → Call Config Stream Wakers Batch α) :
    Call Config Stream Wakers Batch α := do
  match (← Program.read).shared.handle.stream with
  | some stream => continue' stream
  | none =>
    match ← materializeStream outside with
    | .error failure =>
      setLanceError outside failure
      setOut none
      return error
    | .ok () =>
      match (← Program.read).shared.handle.stream with
      | some stream => continue' stream
      | none => .panic "called Option::unwrap() on a None value"

def scannerNextInner : Call Config Stream Wakers Batch Int :=
  withStream outside (-1) fun stream => do
    deliverItem outside 0 1 (-1) (← onStream stream outside.next)

def lanceScannerNext : Guarded (Frame Config Stream Wakers Batch) (Reply Stream Built Batch) where
  prologue poisoned frame :=
    let frame := frame.withOut none
    scannerPoisonCheck (.plain (.code (-1))) poisoned frame
      (if frame.caller.out = none then
        (some (.plain (.code (-1))), frame.withError .invalidArgument "out must not be NULL")
      else (none, frame))
  body := do return .plain (.code (← scannerNextInner outside))
  caught payload frame :=
    (⟨.code (-1), true, .none⟩, (frame.withError .panic (panicInCall payload)).withOut none)

def scannerPollNextInner : Call Config Stream Wakers Batch LancePollStatus :=
  withStream outside .error fun stream => do
    onWakers outside.register
    Program.ofUnwind outside.enter
    match ← onStream stream outside.pollNext with
    | .ready item => deliverItem outside .ready .finished .error item
    | .pending =>
      clearLastError
      setOut none
      return .pending

def lanceScannerPollNext (waker : Bool) :
    Guarded (Frame Config Stream Wakers Batch) (Reply Stream Built Batch) where
  prologue poisoned frame :=
    let frame := frame.withOut none
    scannerPoisonCheck (.plain (.status .error)) poisoned frame
      (if frame.caller.out = none then
        (some (.plain (.status .error)), frame.withError .invalidArgument "out must not be NULL")
      else if !waker then
        (some (.plain (.status .error)), frame.withError .invalidArgument "waker must not be NULL")
      else (none, frame))
  body := do return .plain (.status (← scannerPollNextInner outside))
  caught payload frame :=
    (⟨.status .error, true, .none⟩, (frame.withError .panic (panicInCall payload)).withOut none)

/-- Best effort for functions that cannot report: a caught panic is only logged. -/
def swallowUnwind (prologue : Bool → Frame Config Stream Wakers Batch →
      Option (Reply Stream Built Batch) × Frame Config Stream Wakers Batch)
    (body : Call Config Stream Wakers Batch Unit) :
    Guarded (Frame Config Stream Wakers Batch) (Reply Stream Built Batch) where
  prologue := prologue
  body := do
    body
    return .plain .void
  caught _ frame := (.plain .void, frame)

/-- Closing checks no flag. -/
def lanceScannerClose : Guarded (Frame Config Stream Wakers Batch) (Reply Stream Built Batch) :=
  swallowUnwind (fun _ frame => (none, frame)) (onHandle outside.close)

namespace GuardedReader

/-- The reader's inner stream, unless it is fused or detached. -/
def live (reader : GuardedReader Stream) : Option Stream := if reader.poisoned then none else reader.inner

def next (index : Nat) : Guarded (Frame Config Stream Wakers Batch) (Reply Stream Built Batch) where
  prologue _ frame :=
    if ((frame.shared.exported[index]?).bind live).isSome then (none, frame)
    else (some (.plain (.item none)), frame)
  body := do
    match ((← Program.read).shared.exported[index]?).bind live with
    | none => return .plain (.item none)
    | some inner =>
      match ← onReader index inner outside.next with
      | some (.ok batch) => return .plain (.item (some (.ok batch)))
      | some (.error error) =>
        let text ← Program.ofUnwind (outside.display error)
        return .plain (.item (some (.error (escapeNul text))))
      | none => return .plain (.item none)
  caught payload frame :=
    (⟨.item (some (.error (escapeNul s!"panic in stream: {panicPayloadMessage payload}"))), true, .none⟩,
      { frame with shared.exported := frame.shared.exported.modify index fun reader =>
        { reader with poisoned := true } })

/-- `Drop`, which the stream's `release` runs: the inner stream is detached first. -/
def drop (index : Nat) : Guarded (Frame Config Stream Wakers Batch) (Reply Stream Built Batch) :=
  swallowUnwind
    (fun _ frame =>
      if ((frame.shared.exported[index]?).bind GuardedReader.inner).isSome then (none, frame)
      else (some (.plain .void), frame)) do
    let frame ← Program.access
      (fun frame => { frame with shared.exported := frame.shared.exported.modify index fun reader =>
        { reader with inner := none } })
      fun frame => pure frame
    match (frame.shared.exported[index]?).bind GuardedReader.inner with
    | none => return ()
    | some inner => elsewhere (outside.dropStream inner)

end GuardedReader

end LanceC.Scanner
