import LanceC.Scanner.EntryPoint

/-! The asynchronous scan: its entry guard, its set-up on the caller's thread and
the task it spawns (scanner.rs). A set-up ends in one effect: it has dispatched a
completion, or the runtime has taken the task. -/

namespace LanceC.Scanner

open Ffi Machine LanceC.Scanner.Frame

variable {Config Stream Wakers Built Batch : Type}

/-- A failed completion. -/
def failure (code : LanceErrorCode) (message : String) : DispatcherMessage Stream :=
  { status := -1, result := none, error := some (code, message) }

/-- What a task dispatches that has not panicked. -/
def completion : Except (LanceErrorCode × String) (GuardedReader Stream) → DispatcherMessage Stream
  | .ok reader => { status := 0, result := some reader, error := none }
  | .error (code, message) => failure code message

/-- What both panic arms dispatch. -/
def panicCompletion (payload : Payload) : DispatcherMessage Stream := failure .panic (panicInCall payload)

/-- The checks that come first: `none` is a NULL scanner, else its flag. -/
def scanAsyncRefusal : Option Bool → Option (LanceErrorCode × String)
  | none => some (.invalidArgument, "scanner is NULL")
  | some true => some (.panic, "scanner is poisoned by an earlier panic")
  | some false => none

variable (outside : Outside Config Stream Wakers Built Batch)

/-- The set-up past its checks: an error to dispatch, or the scan whose task was spawned. -/
def scanAsyncSetup : Call Config Stream Wakers Batch (Except (LanceErrorCode × String) Built) := do
  match ← onConfig outside.buildScanner with
  | .error error =>
    setLanceError outside error
    let text ← Program.ofUnwind (outside.display error)
    return .error (errorCodeFromLance error, text)
  | .ok builtScanner =>
    Program.ofUnwind outside.spawn
    return .ok builtScanner

/-- The future under the task's own `catch_unwind`, up to its dispatch. -/
def scanAsyncStream (builtScanner : Built) :
    Program Unit (Except (LanceErrorCode × String) (GuardedReader Stream)) := do
  match ← outside.tryIntoStream builtScanner with
  | .ok stream => return .ok (← Program.ofUnwind (GuardedReader.new outside stream))
  | .error error =>
    let text ← Program.ofUnwind (outside.display error)
    return .error (errorCodeFromLance error, text)

def lanceScannerScanAsync (callback : Bool) :
    Guarded (Frame Config Stream Wakers Batch) (Reply Stream Built Batch) where
  prologue poisoned frame :=
    if !callback then (some (.plain .void), frame.withError .invalidArgument "callback must not be NULL")
    else
      match scanAsyncRefusal (some poisoned) with
      | some (code, message) =>
        (some ⟨.void, false, .dispatch (failure code message)⟩, frame.withError code message)
      | none => (none, frame)
  body := do
    match ← scanAsyncSetup outside with
    | .error (code, message) => return ⟨.void, false, .dispatch (failure code message)⟩
    | .ok builtScanner => return ⟨.void, false, .spawn builtScanner⟩
  caught payload frame :=
    (⟨.void, true, .dispatch (panicCompletion payload)⟩, frame)

def scanAsyncTask (builtScanner : Built) :
    Guarded (Frame Config Stream Wakers Batch) (Reply Stream Built Batch) where
  prologue _ frame := (none, frame)
  body := do return ⟨.void, false, .dispatch (completion (← elsewhere (scanAsyncStream outside builtScanner)))⟩
  caught payload frame :=
    (⟨.void, true, .dispatch (panicCompletion payload)⟩, frame)

end LanceC.Scanner
