import LanceC.Ffi.Guard
import LanceC.Machine.Stateful

/-! The last error of a thread over sequences of guarded calls and of the calls that
read it (`ffi_guard_with` of error.rs). -/

namespace LanceC.ErrorState

open Ffi Machine

variable {ω T : Type}

/-- The thread-local slot, and whatever else bodies and sentinels read and write. -/
structure Thread (ω : Type) where
  lastError : Option LastError
  world : ω
  deriving DecidableEq, Repr

/-- `CString::new`, and what becomes of a message that it refuses. -/
def messageCString (message : String) : String :=
  if Char.ofNat 0 ∉ message.toList then message
  else
    let replaced := escapeNul message
    if Char.ofNat 0 ∉ replaced.toList then replaced else "invalid error message"

def clearLastError : Stateful (Thread ω) Unit := .modify fun thread => { thread with lastError := none }

def setLastError (code : LanceErrorCode) (message : String) : Stateful (Thread ω) Unit :=
  .modify fun thread => { thread with lastError := some ⟨code, messageCString message⟩ }

/-- `display` is the error's own formatting. -/
def setLanceError (display : LanceError → Unwind String) (error : LanceError) : Stateful (Thread ω) Unit := do
  let text ← Stateful.ofUnwind (display error)
  setLastError (errorCodeFromLance error) text

/-- A guarded call. The body may do anything to the slot, which covers callbacks that call the
API; the closure that makes the error sentinel works on its own captures. -/
structure GuardedCall (ω T : Type) where
  body : Stateful (Thread ω) (Except LanceError T)
  display : LanceError → Unwind String
  onFailure : FfiFailure → Stateful ω T

def GuardedCall.sentinel (call : GuardedCall ω T) (failure : FfiFailure) : Stateful (Thread ω) T :=
  (call.onFailure failure).zoom Thread.world fun world thread => { thread with world }

def recoverFromFfiPanic (payload : Payload) (recover : Stateful (Thread ω) T) : Stateful (Thread ω) T := do
  let reported : Stateful (Thread ω) T := do
    setLastError .panic (panicInCall payload)
    recover
  match ← reported.catchUnwind with
  | .ok value => return value
  | .error payload => .resumeUnwind payload

/-- What runs under the first `catch_unwind`. -/
def GuardedCall.mapped (call : GuardedCall ω T) : Stateful (Thread ω) T := do
  match ← call.body with
  | .ok value =>
    clearLastError
    return value
  | .error error =>
    setLanceError call.display error
    call.sentinel .lance

def ffiGuardWith (call : GuardedCall ω T) : Stateful (Thread ω) T := do
  match ← call.mapped.catchUnwind with
  | .ok value => return value
  | .error payload => recoverFromFfiPanic payload (call.sentinel .panic)

def lanceLastErrorCode (thread : Thread ω) : LanceErrorCode := (thread.lastError.map LastError.code).getD .ok

/-- The message is taken out of the slot; `none` is NULL. -/
def lanceLastErrorMessage (thread : Thread ω) : Option String × Thread ω :=
  (thread.lastError.map LastError.message, { thread with lastError := none })

inductive Event (ω T : Type) where
  | guarded (call : GuardedCall ω T)
  | lastErrorCode
  | lastErrorMessage

namespace Thread

def step (thread : Thread ω) : Event ω T → Thread ω
  | .guarded call => (ffiGuardWith call thread).2
  | .lastErrorCode => thread
  | .lastErrorMessage => (lanceLastErrorMessage thread).2

def after (thread : Thread ω) (events : List (Event ω T)) : Thread ω := events.foldl step thread

end Thread

section Endings

/-- How a guarded call ends before anything is recovered. -/
inductive Ending (T : Type) where
  | value (value : T)
  | refused (error : LanceError) (text : String) (sentinel : T)
  | panicked (payload : Payload)

/-- The error that belongs to the ending. -/
def Ending.error : Ending T → Option LastError
  | value _ => none
  | refused error text _ => some (.of (errorCodeFromLance error) text)
  | panicked payload => some (.of .panic (panicInCall payload))

/-- The call comes to the ending, with the world as it is then. -/
inductive GuardedCall.Ends (call : GuardedCall ω T) (thread : Thread ω) : Ending T → ω → Prop where
  | value {value : T} {reached : Thread ω} : call.body thread = (.returned (.ok value), reached) →
      Ends call thread (.value value) reached.world
  | refused {error : LanceError} {text : String} {sentinel : T} {reached : Thread ω} {world : ω} :
      call.body thread = (.returned (.error error), reached) → call.display error = .returned text →
      call.onFailure .lance reached.world = (.returned sentinel, world) →
      Ends call thread (.refused error text sentinel) world
  | body {payload : Payload} {reached : Thread ω} : call.body thread = (.panicked payload, reached) →
      Ends call thread (.panicked payload) reached.world
  | display {error : LanceError} {payload : Payload} {reached : Thread ω} :
      call.body thread = (.returned (.error error), reached) → call.display error = .panicked payload →
      Ends call thread (.panicked payload) reached.world
  | sentinel {error : LanceError} {text : String} {payload : Payload} {reached : Thread ω} {world : ω} :
      call.body thread = (.returned (.error error), reached) → call.display error = .returned text →
      call.onFailure .lance reached.world = (.panicked payload, world) →
      Ends call thread (.panicked payload) world

/-- What the caller gets after the ending. -/
def GuardedCall.answer (call : GuardedCall ω T) : Ending T → ω → Unwind T
  | .value value, _ => .returned value
  | .refused _ _ sentinel, _ => .returned sentinel
  | .panicked _, world => (call.onFailure .panic world).1

/-- Making the sentinel panics after an earlier panic of the same call. -/
def GuardedCall.PanicsAgain (call : GuardedCall ω T) (ending : Ending T) (world : ω) : Prop :=
  ∃ payload second, ending = .panicked payload ∧ (call.onFailure .panic world).1 = .panicked second

variable {call : GuardedCall ω T} {thread : Thread ω}

theorem GuardedCall.exists_ends (call : GuardedCall ω T) (thread : Thread ω) :
    ∃ ending world, call.Ends thread ending world := by
  cases ran : call.body thread with
  | mk outcome reached =>
    cases outcome with
    | panicked payload => exact ⟨_, _, .body ran⟩
    | returned result =>
      cases result with
      | ok value => exact ⟨_, _, .value ran⟩
      | error error =>
        cases shown : call.display error with
        | panicked payload => exact ⟨_, _, .display ran shown⟩
        | returned text =>
          cases made : call.onFailure .lance reached.world with
          | mk outcome world =>
            cases outcome with
            | returned sentinel => exact ⟨_, _, .refused ran shown made⟩
            | panicked payload => exact ⟨_, _, .sentinel ran shown made⟩

/-- Whatever the message, the slot gets it with its NULs escaped. -/
theorem messageCString_eq (message : String) : messageCString message = escapeNul message := by
  unfold messageCString
  split
  · rename_i clean
    exact (escapeNul_eq_self clean).symm
  · exact if_pos (escapeNul_noNul message)

theorem setLastError_apply (code : LanceErrorCode) (message : String) (thread : Thread ω) :
    setLastError code message thread = (.returned (), { thread with lastError := some (.of code message) }) := by
  rw [setLastError, messageCString_eq]
  rfl

theorem setLanceError_apply {display : LanceError → Unwind String} {error : LanceError} {text : String}
    (shown : display error = .returned text) (thread : Thread ω) :
    setLanceError display error thread =
      (.returned (), { thread with lastError := some (.of (errorCodeFromLance error) text) }) := by
  rw [setLanceError, Stateful.bind_returned (by rw [Stateful.ofUnwind, shown]), setLastError_apply]

theorem sentinel_apply {failure : FfiFailure} {outcome : Unwind T} {world : ω}
    (made : call.onFailure failure thread.world = (outcome, world)) :
    call.sentinel failure thread = (outcome, { thread with world }) := by
  rw [GuardedCall.sentinel, Stateful.zoom, made]

/-- The second `catch_unwind` hands on what the sentinel does. -/
theorem recoverFromFfiPanic_apply (payload : Payload) (thread : Thread ω) :
    recoverFromFfiPanic payload (call.sentinel .panic) thread =
      ((call.onFailure .panic thread.world).1,
        ⟨some (.of .panic (panicInCall payload)), (call.onFailure .panic thread.world).2⟩) := by
  have reported : (setLastError .panic (panicInCall payload) >>= fun _ => call.sentinel .panic) thread =
      ((call.onFailure .panic thread.world).1,
        ⟨some (.of .panic (panicInCall payload)), (call.onFailure .panic thread.world).2⟩) := by
    rw [Stateful.bind_returned (setLastError_apply ..)]
    exact sentinel_apply rfl
  rw [recoverFromFfiPanic, Stateful.bind_returned (Stateful.catchUnwind_eq reported)]
  cases (call.onFailure .panic thread.world).1 with
  | returned value => rfl
  | panicked second => rfl

/-- What runs under the first `catch_unwind`, by how it ends. -/
theorem mapped_of_ends {ending : Ending T} {world : ω} (ends : call.Ends thread ending world) :
    match ending with
    | .value value => call.mapped thread = (.returned value, ⟨none, world⟩)
    | .refused _ _ sentinel => call.mapped thread = (.returned sentinel, ⟨ending.error, world⟩)
    | .panicked payload => ∃ slot, call.mapped thread = (.panicked payload, ⟨slot, world⟩) := by
  cases ends with
  | value ran =>
    rw [GuardedCall.mapped, Stateful.bind_returned ran]
    rfl
  | @refused error text sentinel reached world ran shown made =>
    rw [GuardedCall.mapped, Stateful.bind_returned ran]
    exact (Stateful.bind_returned (setLanceError_apply shown reached)).trans (sentinel_apply made)
  | @body payload reached ran =>
    rw [GuardedCall.mapped, Stateful.bind_panicked ran]
    exact ⟨reached.lastError, rfl⟩
  | @display error payload reached ran shown =>
    have unprinted : setLanceError call.display error reached = (.panicked payload, reached) := by
      rw [setLanceError, Stateful.bind_panicked (by rw [Stateful.ofUnwind, shown])]
    rw [GuardedCall.mapped, Stateful.bind_returned ran]
    exact ⟨reached.lastError, Stateful.bind_panicked unprinted⟩
  | @sentinel error text payload reached world ran shown made =>
    rw [GuardedCall.mapped, Stateful.bind_returned ran]
    exact ⟨_, (Stateful.bind_returned (setLanceError_apply shown reached)).trans (sentinel_apply made)⟩

/-- What the guard returns for each ending, and the slot afterwards. -/
theorem ffiGuardWith_of_ends {ending : Ending T} {world : ω} (ends : call.Ends thread ending world) :
    (ffiGuardWith call thread).1 = call.answer ending world ∧
      (ffiGuardWith call thread).2.lastError = ending.error := by
  have ran := mapped_of_ends ends
  cases ending with
  | value value =>
    rw [ffiGuardWith, Stateful.bind_returned (Stateful.catchUnwind_eq ran)]
    exact ⟨rfl, rfl⟩
  | refused error text sentinel =>
    rw [ffiGuardWith, Stateful.bind_returned (Stateful.catchUnwind_eq ran)]
    exact ⟨rfl, rfl⟩
  | panicked payload =>
    obtain ⟨slot, ran⟩ := ran
    have recovered : ffiGuardWith call thread = recoverFromFfiPanic payload (call.sentinel .panic) ⟨slot, world⟩ := by
      rw [ffiGuardWith, Stateful.bind_returned (Stateful.catchUnwind_eq ran)]
      rfl
    rw [recovered, recoverFromFfiPanic_apply]
    exact ⟨rfl, rfl⟩

theorem GuardedCall.answer_returned {ending : Ending T} {world : ω} :
    (∃ value, call.answer ending world = .returned value) ↔ ¬call.PanicsAgain ending world := by
  cases ending with
  | value value => exact iff_of_true ⟨value, rfl⟩ nofun
  | refused error text sentinel => exact iff_of_true ⟨sentinel, rfl⟩ nofun
  | panicked payload =>
    rw [GuardedCall.answer, GuardedCall.PanicsAgain]
    cases (call.onFailure .panic world).1 with
    | returned value => simp
    | panicked second => simp

end Endings

section Runs

variable {thread : Thread ω} {events rest : List (Event ω T)}

/-- No NUL is in the pending message. -/
def Thread.Clean (thread : Thread ω) : Prop :=
  ∀ error ∈ thread.lastError, Char.ofNat 0 ∉ error.message.toList

theorem Ending.error_clean (ending : Ending T) : ∀ error ∈ ending.error, Char.ofNat 0 ∉ error.message.toList := by
  cases ending with
  | value value => exact nofun
  | refused error text sentinel =>
    rintro _ ⟨⟩
    exact escapeNul_noNul text
  | panicked payload =>
    rintro _ ⟨⟩
    exact escapeNul_noNul (panicInCall payload)

theorem Thread.clean_fresh (world : ω) : (Thread.mk none world).Clean := nofun

theorem Thread.Clean.step (clean : thread.Clean) (event : Event ω T) : (thread.step event).Clean := by
  cases event with
  | guarded call =>
    obtain ⟨ending, world, ends⟩ := call.exists_ends thread
    intro error pending
    rw [Thread.step, (ffiGuardWith_of_ends ends).2] at pending
    exact ending.error_clean error pending
  | lastErrorCode => exact clean
  | lastErrorMessage => exact nofun

theorem Thread.Clean.after (clean : thread.Clean) (events : List (Event ω T)) : (thread.after events).Clean := by
  induction events generalizing thread with
  | nil => exact clean
  | cons event rest ih => exact ih (clean.step event)

/-- Between guarded calls the slot changes only by being emptied. -/
theorem Thread.after_quiet (thread : Thread ω) (quiet : ∀ call, .guarded call ∉ rest) :
    (.lastErrorMessage ∈ rest → (thread.after rest).lastError = none) ∧
      (.lastErrorMessage ∉ rest → (thread.after rest).lastError = thread.lastError) := by
  induction rest generalizing thread with
  | nil => exact ⟨nofun, fun _ => rfl⟩
  | cons event rest ih =>
    have later := fun thread => @ih thread fun call inside => quiet call (List.mem_cons_of_mem _ inside)
    cases event with
    | guarded call => exact absurd List.mem_cons_self (quiet call)
    | lastErrorCode =>
      simp only [List.mem_cons, reduceCtorEq, false_or]
      exact later thread
    | lastErrorMessage =>
      refine ⟨fun _ => ?_, fun kept => absurd List.mem_cons_self kept⟩
      by_cases again : .lastErrorMessage ∈ rest
      · exact (later _).1 again
      · exact (later _).2 again

theorem Thread.after_guarded (thread : Thread ω) (before : List (Event ω T)) (call : GuardedCall ω T) :
    thread.after (before ++ .guarded call :: rest) = (ffiGuardWith call (thread.after before)).2.after rest := by
  rw [Thread.after, List.foldl_append]
  rfl

/-- Every run of guarded calls and readings of the error, on a thread that starts without one. A call
returns its value or its sentinel unless making the sentinel panics after an earlier panic; the error
that is pending is the last guarded call's until its message is taken. -/
theorem errorState_runs (events : List (Event ω T)) (world : ω) :
    (∀ before call rest, events = before ++ .guarded call :: rest → ∃ ending reached,
      call.Ends ((Thread.mk none world).after before) ending reached ∧
      (ffiGuardWith call ((Thread.mk none world).after before)).1 = call.answer ending reached ∧
      ((∃ value, call.answer ending reached = .returned value) ↔ ¬call.PanicsAgain ending reached) ∧
      (((Thread.mk none world).after (before ++ [.guarded call])).lastError.map LastError.code = some .panic ↔
        ∃ payload, ending = .panicked payload) ∧
      ((∀ other, .guarded other ∉ rest) →
        (.lastErrorMessage ∈ rest → ((Thread.mk none world).after events).lastError = none) ∧
        (.lastErrorMessage ∉ rest → ((Thread.mk none world).after events).lastError = ending.error))) ∧
    ((∀ call, .guarded call ∉ events) → ((Thread.mk none world).after events).lastError = none) ∧
    ((Thread.mk none world).after events).Clean := by
  refine ⟨?_, fun quiet => ?_, (Thread.clean_fresh world).after events⟩
  · rintro before call rest rfl
    obtain ⟨ending, reached, ends⟩ := call.exists_ends ((Thread.mk none world).after before)
    obtain ⟨answer, slot⟩ := ffiGuardWith_of_ends ends
    refine ⟨ending, reached, ends, answer, GuardedCall.answer_returned, ?_, fun quiet => ?_⟩
    · rw [Thread.after_guarded, Thread.after, List.foldl_nil, slot]
      cases ending with
      | value value => simp [Ending.error]
      | refused error text sentinel => simp [Ending.error, LastError.of, (errorCodeFromLance_ordinary error).2]
      | panicked payload => simp [Ending.error, LastError.of]
    · rw [Thread.after_guarded, ← slot]
      exact Thread.after_quiet _ quiet
  · by_cases taken : .lastErrorMessage ∈ events
    · exact (Thread.after_quiet _ quiet).1 taken
    · exact (Thread.after_quiet _ quiet).2 taken

end Runs

section Sample

/-- Among the sentinels that one call makes at most one panics. -/
def GuardedCall.SentinelPanicsOnce (call : GuardedCall ω T) : Prop :=
  ∀ world payload reached, call.onFailure .lance world = (.panicked payload, reached) →
    ∃ value after, call.onFailure .panic reached = (.returned value, after)

/-- The body panics, and the sentinel does when it is first asked for. -/
def sampleDoublePanic : GuardedCall Nat Int where
  body thread := (.panicked (.text "index out of bounds"), thread)
  display error := .returned error.message
  onFailure _
    | 0 => (.panicked (.text "no sentinel"), 1)
    | asked + 1 => (.returned (-1), asked + 2)

/-- The call unwinds with the second panic and leaves the first one in the slot. -/
theorem ffiGuardWith_unwinds :
    sampleDoublePanic.SentinelPanicsOnce ∧
      (ffiGuardWith sampleDoublePanic ⟨none, 0⟩).1 = .panicked (.text "no sentinel") ∧
      ¬(∃ value, (ffiGuardWith sampleDoublePanic ⟨none, 0⟩).1 = .returned value) ∧
      (ffiGuardWith sampleDoublePanic ⟨none, 0⟩).2.lastError =
        some (.of .panic (panicInCall (.text "index out of bounds"))) := by
  have ends : sampleDoublePanic.Ends ⟨none, 0⟩ (.panicked (.text "index out of bounds")) 0 :=
    @GuardedCall.Ends.body _ _ _ _ _ ⟨none, 0⟩ rfl
  obtain ⟨answer, slot⟩ := ffiGuardWith_of_ends ends
  refine ⟨fun world payload reached panics => ?_, answer, ?_, slot⟩
  · cases world with
    | zero =>
      cases panics
      exact ⟨-1, 2, rfl⟩
    | succ asked => cases panics
  · rw [answer]
    exact nofun

end Sample

end LanceC.ErrorState
