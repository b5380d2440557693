import LanceC.Logic.Transition
import LanceC.Scanner.ScanAsync
import Mathlib.Logic.Function.Basic

/-! Any number of asynchronous scans with their set-ups, their tasks and the one
dispatcher (scanner.rs, async_dispatcher.rs). A completion is produced on the caller's
thread or on a worker, and delivered by the dispatcher's thread or, where that cannot
take it, by the thread that produced it. Between the installation of a completion's
error and the call of its callback its thread does nothing else; whatever else the
host does on its threads is one step of its own. -/

namespace LanceC.Scanner

open Ffi Logic Machine

variable {Config Stream Wakers Built Batch Scan Thread Scanner : Type}

/-- A call with a non-NULL callback. -/
structure ScanCall (Config Stream Wakers Built Batch Thread Scanner : Type) where
  scanner : Option Scanner
  caller : Thread
  worker : Thread
  outside : Outside Config Stream Wakers Built Batch

/-- How a scan came to its completion: refused by the first checks, or by the end of
its set-up or task. -/
inductive Cause (Stream : Type) where
  | refused (code : LanceErrorCode) (message : String)
  | ended (outcome : Unwind (Except (LanceErrorCode × String) (GuardedReader Stream)))

/-- `gone` is a channel whose receiver has been dropped. -/
inductive Dispatcher (Scan Stream : Type) where
  | unavailable
  | alive (queue : List (Scan × DispatcherMessage Stream))
  | gone

inductive Phase (Config Stream Wakers Built Batch Thread : Type) where
  | waiting
  | settingUp (program : Program (Frame Config Stream Wakers Batch) (Except (LanceErrorCode × String) Built))
  | spawned (scanner : Built)
  | streaming (program : Program Unit (Except (LanceErrorCode × String) (GuardedReader Stream)))
  | dispatching (thread : Thread) (message : DispatcherMessage Stream)
  | queued (message : DispatcherMessage Stream)
  | installed (thread : Thread) (message : DispatcherMessage Stream)
  | inCallback (thread : Thread)
  | finished

/-- One run of a callback, and what it finds as it starts: the last error of its
thread and the flag of its scanner. -/
structure Delivery (Stream Scan Thread : Type) where
  scan : Scan
  thread : Thread
  message : DispatcherMessage Stream
  lastError : Option LastError
  poisoned : Bool

structure AsyncSystem (Config Stream Wakers Built Batch Scan Thread Scanner : Type) where
  handle : Scanner → ScanHandle Config Stream Wakers
  poisoned : Scanner → Bool
  lastError : Thread → Option LastError
  dispatcher : Dispatcher Scan Stream
  phase : Scan → Phase Config Stream Wakers Built Batch Thread
  cause : Scan → Option (Cause Stream)
  delivered : List (Delivery Stream Scan Thread)

/-- `call` is the caller's decision, `work` a step on behalf of a scan. -/
inductive Action (Scan : Type) where
  | call (scan : Scan)
  | work (scan : Scan)
  | dispatcherEnds
  | host

def DispatcherMessage.lastError (message : DispatcherMessage Stream) : Option LastError :=
  message.error.map fun (code, text) => .of code text

def Dispatcher.queue : Dispatcher Scan Stream → List (Scan × DispatcherMessage Stream)
  | alive queue => queue
  | unavailable | gone => []

namespace AsyncSystem

section State

variable (system : AsyncSystem Config Stream Wakers Built Batch Scan Thread Scanner)

/-- Threads between installing an error and calling the callback are not free. -/
def Free (thread : Thread) : Prop := ∀ scan message, system.phase scan ≠ .installed thread message

/-- No delivery is under way on the thread. -/
def Idle (thread : Thread) : Prop := system.Free thread ∧ ∀ scan, system.phase scan ≠ .inCallback thread

def isPoisoned (scanner : Option Scanner) : Bool := (scanner.map system.poisoned).getD false

/-- What the set-up of a scan reaches. -/
def frame (scanner : Scanner) (thread : Thread) : Frame Config Stream Wakers Batch :=
  ⟨⟨system.handle scanner, []⟩, ⟨none, system.lastError thread⟩⟩

def move [DecidableEq Scan] (scan : Scan) (phase : Phase Config Stream Wakers Built Batch Thread) :
    AsyncSystem Config Stream Wakers Built Batch Scan Thread Scanner :=
  { system with phase := Function.update system.phase scan phase }

def setError [DecidableEq Thread] (thread : Thread) (error : Option LastError) :
    AsyncSystem Config Stream Wakers Built Batch Scan Thread Scanner :=
  { system with lastError := Function.update system.lastError thread error }

def poison [DecidableEq Scanner] (scanner : Option Scanner) :
    AsyncSystem Config Stream Wakers Built Batch Scan Thread Scanner :=
  match scanner with
  | some scanner => { system with poisoned := Function.update system.poisoned scanner true }
  | none => system

/-- The scan has come to its completion and is about to dispatch it. -/
def produce [DecidableEq Scan] (scan : Scan) (thread : Thread) (cause : Cause Stream)
    (message : DispatcherMessage Stream) :
    AsyncSystem Config Stream Wakers Built Batch Scan Thread Scanner :=
  { system.move scan (.dispatching thread message) with cause := Function.update system.cause scan (some cause) }

/-- `deliver_message` up to the call of the callback. -/
def install [DecidableEq Scan] [DecidableEq Thread] (scan : Scan) (thread : Thread)
    (message : DispatcherMessage Stream) :
    AsyncSystem Config Stream Wakers Built Batch Scan Thread Scanner :=
  (system.setError thread message.lastError).move scan (.installed thread message)

def enterCallback [DecidableEq Scan] (scanner : Option Scanner) (scan : Scan) (thread : Thread)
    (message : DispatcherMessage Stream) :
    AsyncSystem Config Stream Wakers Built Batch Scan Thread Scanner :=
  { system.move scan (.inCallback thread) with
    delivered := system.delivered ++
      [⟨scan, thread, message, system.lastError thread, system.isPoisoned scanner⟩] }

/-- The frame of a set-up, put back. -/
def restore [DecidableEq Thread] [DecidableEq Scanner] (scanner : Scanner) (thread : Thread)
    (frame : Frame Config Stream Wakers Batch) :
    AsyncSystem Config Stream Wakers Built Batch Scan Thread Scanner :=
  { system.setError thread frame.caller.lastError with
    handle := Function.update system.handle scanner frame.shared.handle }

end State

variable [DecidableEq Scan] [DecidableEq Thread] [DecidableEq Scanner]

/-- One step. A set-up's panic arm stores to the flag before it dispatches, and so
does a task's. -/
inductive Step (calls : Scan → ScanCall Config Stream Wakers Built Batch Thread Scanner)
    (dispatcherThread : Thread) : AsyncSystem Config Stream Wakers Built Batch Scan Thread Scanner → Action Scan →
    AsyncSystem Config Stream Wakers Built Batch Scan Thread Scanner → Prop where
  | refuse {system : AsyncSystem Config Stream Wakers Built Batch Scan Thread Scanner} {scan code text} :
      system.phase scan = .waiting → system.Free (calls scan).caller →
      scanAsyncRefusal ((calls scan).scanner.map system.poisoned) = some (code, text) →
      Step calls dispatcherThread system (.call scan)
        ((system.setError (calls scan).caller (some (.of code text))).produce scan (calls scan).caller
          (.refused code text) (failure code text))
  | begin {system : AsyncSystem Config Stream Wakers Built Batch Scan Thread Scanner} {scan} :
      system.phase scan = .waiting → scanAsyncRefusal ((calls scan).scanner.map system.poisoned) = none →
      Step calls dispatcherThread system (.call scan)
        (system.move scan (.settingUp (scanAsyncSetup (calls scan).outside)))
  | setUp {system : AsyncSystem Config Stream Wakers Built Batch Scan Thread Scanner} {scan scanner update rest} :
      system.phase scan = .settingUp (.access update rest) → (calls scan).scanner = some scanner →
      system.Free (calls scan).caller →
      Step calls dispatcherThread system (.work scan)
        ((system.restore scanner (calls scan).caller (update (system.frame scanner (calls scan).caller))).move scan
          (.settingUp (rest (system.frame scanner (calls scan).caller))))
  | setUpFailed {system : AsyncSystem Config Stream Wakers Built Batch Scan Thread Scanner} {scan code text} :
      system.phase scan = .settingUp (.finish (.returned (.error (code, text)))) →
      Step calls dispatcherThread system (.work scan)
        (system.produce scan (calls scan).caller (.ended (.returned (.error (code, text)))) (failure code text))
  | setUpSpawned {system : AsyncSystem Config Stream Wakers Built Batch Scan Thread Scanner} {scan builtScanner} :
      system.phase scan = .settingUp (.finish (.returned (.ok builtScanner))) →
      Step calls dispatcherThread system (.work scan) (system.move scan (.spawned builtScanner))
  | setUpPanicked {system : AsyncSystem Config Stream Wakers Built Batch Scan Thread Scanner} {scan payload} :
      system.phase scan = .settingUp (.finish (.panicked payload)) →
      Step calls dispatcherThread system (.work scan)
        ((system.poison (calls scan).scanner).produce scan (calls scan).caller (.ended (.panicked payload))
          (panicCompletion payload))
  | start {system : AsyncSystem Config Stream Wakers Built Batch Scan Thread Scanner} {scan builtScanner} :
      system.phase scan = .spawned builtScanner →
      Step calls dispatcherThread system (.work scan)
        (system.move scan (.streaming (scanAsyncStream (calls scan).outside builtScanner)))
  | stream {system : AsyncSystem Config Stream Wakers Built Batch Scan Thread Scanner} {scan update rest} :
      system.phase scan = .streaming (.access update rest) →
      Step calls dispatcherThread system (.work scan) (system.move scan (.streaming (rest ())))
  | streamEnded {system : AsyncSystem Config Stream Wakers Built Batch Scan Thread Scanner} {scan result} :
      system.phase scan = .streaming (.finish (.returned result)) →
      Step calls dispatcherThread system (.work scan)
        (system.produce scan (calls scan).worker (.ended (.returned result)) (completion result))
  | streamPanicked {system : AsyncSystem Config Stream Wakers Built Batch Scan Thread Scanner} {scan payload} :
      system.phase scan = .streaming (.finish (.panicked payload)) →
      Step calls dispatcherThread system (.work scan)
        ((system.poison (calls scan).scanner).produce scan (calls scan).worker (.ended (.panicked payload))
          (panicCompletion payload))
  | send {system : AsyncSystem Config Stream Wakers Built Batch Scan Thread Scanner} {scan thread message queue} :
      system.phase scan = .dispatching thread message → system.dispatcher = .alive queue →
      Step calls dispatcherThread system (.work scan)
        { system.move scan (.queued message) with dispatcher := .alive (queue ++ [(scan, message)]) }
  | deliverHere {system : AsyncSystem Config Stream Wakers Built Batch Scan Thread Scanner} {scan thread message} :
      system.phase scan = .dispatching thread message →
      system.dispatcher = .unavailable ∨ system.dispatcher = .gone → system.Free thread →
      Step calls dispatcherThread system (.work scan) (system.install scan thread message)
  | receive {system : AsyncSystem Config Stream Wakers Built Batch Scan Thread Scanner} {scan message queue} :
      system.dispatcher = .alive ((scan, message) :: queue) → system.Idle dispatcherThread →
      Step calls dispatcherThread system (.work scan)
        { system.install scan dispatcherThread message with dispatcher := .alive queue }
  | invoke {system : AsyncSystem Config Stream Wakers Built Batch Scan Thread Scanner} {scan thread message} :
      system.phase scan = .installed thread message →
      Step calls dispatcherThread system (.work scan)
        (system.enterCallback (calls scan).scanner scan thread message)
  | callbackReturns {system : AsyncSystem Config Stream Wakers Built Batch Scan Thread Scanner} {scan thread} :
      system.phase scan = .inCallback thread →
      Step calls dispatcherThread system (.work scan) (system.move scan .finished)
  | dispatcherEnds {system : AsyncSystem Config Stream Wakers Built Batch Scan Thread Scanner} :
      system.dispatcher = .alive [] → system.Idle dispatcherThread →
      Step calls dispatcherThread system .dispatcherEnds { system with dispatcher := .gone }
  | host {system : AsyncSystem Config Stream Wakers Built Batch Scan Thread Scanner} {handle poisoned lastError} :
      (∀ scanner, system.poisoned scanner = true → poisoned scanner = true) →
      (∀ thread, system.Free thread ∨ lastError thread = system.lastError thread) →
      Step calls dispatcherThread system .host { system with handle, poisoned, lastError }

end AsyncSystem

end LanceC.Scanner
