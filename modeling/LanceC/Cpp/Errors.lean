import LanceC.Ffi.ErrorState
import LanceC.Machine.Body

/-! How the C++ wrappers turn the last error of the C API into exceptions (lance.hpp). -/

namespace LanceC.Cpp

open ErrorState Ffi Machine

variable {ω T α : Type}

/-- What a wrapper throws: `lance::Error`, or what a container throws that gets no memory. -/
inductive Exception where
  | error (code : LanceErrorCode) (message : String)
  | allocation
  deriving DecidableEq, Repr

def Exception.ofLast (error : LastError) : Exception := .error error.code error.message

/-- C++ code on a thread. It panics where the process ends: a NULL pointer is followed, a box is
read or closed that is not live, or a panic leaves an `extern "C"` function. -/
abbrev Threaded (ω α : Type) := Body (Thread ω) Exception α

/-- A function of the C API: what it does to the process, how its errors print, and what it
returns in place of a value. -/
structure Entry (ω T : Type) where
  body : Body ω LanceError T
  display : LanceError → Unwind String
  sentinel : T

/-- Its `ffi_try!`. -/
def Entry.guarded (entry : Entry ω T) : GuardedCall ω T where
  body thread :=
    let (outcome, world) := entry.body thread.world
    (outcome, { thread with world })
  display := entry.display
  onFailure _ := pure entry.sentinel

/-- The entry point whose value reaches C in another form. -/
def Entry.returning (entry : Entry ω T) (convert : T → α) (sentinel : α) : Entry ω α where
  body := do return convert (← entry.body)
  display := entry.display
  sentinel

/-- It returns 0 or -1. -/
def Entry.code (entry : Entry ω Unit) : Entry ω Int := entry.returning (fun _ => 0) (-1)

/-- It returns a new pointer or NULL. -/
def Entry.pointer (entry : Entry ω T) : Entry ω (Option T) := entry.returning some none

def call (entry : Entry ω T) : Threaded ω T := fun thread =>
  let (outcome, reached) := ffiGuardWith entry.guarded thread
  (do return .ok (← outcome), reached)

def lastErrorCode : Threaded ω LanceErrorCode := fun thread => (.returned (.ok (lanceLastErrorCode thread)), thread)

def lastErrorMessage : Threaded ω (Option String) := fun thread =>
  let (message, reached) := lanceLastErrorMessage thread
  (.returned (.ok message), reached)

def throwing (exception : Exception) : Threaded ω α := Body.ofExcept (.error exception)

/-- It always finds the memory for its text. -/
def checkError : Threaded ω Unit := do
  let code ← lastErrorCode
  if code ≠ .ok then
    let message ← lastErrorMessage
    throwing (.error code (message.getD "Unknown error"))

/-- `if (f(..) != 0) check_error();`. -/
def byCode (entry : Entry ω Unit) : Threaded ω Unit := do
  let code ← call entry.code
  if code ≠ 0 then checkError

/-- `auto* p = f(..); if (!p) check_error();`, and what follows uses `*p`. -/
def byPointer (entry : Entry ω T) : Threaded ω T := do
  let pointer ← call entry.pointer
  if pointer.isNone then checkError
  match pointer with
  | some value => return value
  | none => Body.ofUnwind (.panicked (.text "null pointer"))

/-- `auto v = f(..); if (lance_last_error_code() != LANCE_OK) check_error();`. -/
def byValue (entry : Entry ω T) : Threaded ω T := do
  let value ← call entry
  let code ← lastErrorCode
  if code ≠ .ok then checkError
  return value

/-- `auto v = f(..); if (v < 0) check_error();`. -/
def bySign (entry : Entry ω Int) : Threaded ω Int := do
  let value ← call entry
  if value < 0 then checkError
  return value

/-- Memory of a `std::vector` or a `std::string`; `memory` says whether there is room for so many elements. -/
def reserve (memory : Nat → Bool) (count : Nat) : Threaded ω Unit :=
  if memory count then return else throwing .allocation

/-- `out.resize(written)`. -/
def resized (zero : α) (written : Nat) (out : List α) : List α :=
  out.take written ++ List.replicate (written - out.length) zero

theorem resized_of_le {zero : α} {written : Nat} {out : List α} (fits : written ≤ out.length) :
    resized zero written out = out.take written := by
  rw [resized, Nat.sub_eq_zero_of_le fits, List.replicate_zero, List.append_nil]

/-- How a guarded call ends: with its value, or with the error that is pending afterwards. -/
def guardedResult (display : LanceError → Unwind String) : Unwind (Except LanceError α) → Except LastError α
  | .returned (.ok value) => .ok value
  | .returned (.error error) =>
    match display error with
    | .returned text => .error (.of (errorCodeFromLance error) text)
    | .panicked payload => .error (.of .panic (panicInCall payload))
  | .panicked payload => .error (.of .panic (panicInCall payload))

def Entry.ends (entry : Entry ω T) (world : ω) : Except LastError T × ω :=
  (guardedResult entry.display (entry.body world).1, (entry.body world).2)

theorem guardedResult_code_ne {display : LanceError → Unwind String} {outcome : Unwind (Except LanceError α)}
    {error : LastError} (failed : guardedResult display outcome = .error error) : error.code ≠ .ok := by
  rcases outcome with (failure | value) | payload
  · rw [guardedResult] at failed
    split at failed <;> cases failed
    · exact (errorCodeFromLance_ordinary failure).1
    · simp [LastError.of]
  · cases failed
  · cases failed
    simp [LastError.of]

theorem Entry.ends_returning (entry : Entry ω T) (convert : T → α) (sentinel : α) (world : ω) :
    (entry.returning convert sentinel).ends world = ((entry.ends world).1.map convert, (entry.ends world).2) := by
  have body : (entry.returning convert sentinel).body world =
      (entry.body.bind fun value => pure (convert value)) world := rfl
  have printed : (entry.returning convert sentinel).display = entry.display := rfl
  rw [Entry.ends, Entry.ends, body, printed, Body.bind]
  rcases entry.body world with ⟨⟨error | value⟩ | payload, reached⟩
  · simp only [guardedResult]
    cases entry.display error <;> rfl
  · rfl
  · rfl

section Calls

variable {entry : Entry ω T} {thread : Thread ω} {reached : ω} {value : T} {error : LastError}

theorem Entry.ends_code_ne (ended : entry.ends thread.world = (.error error, reached)) : error.code ≠ .ok :=
  guardedResult_code_ne (congrArg Prod.fst ended)

/-- A panic leaves the sentinel and an error of its own. -/
theorem guarded_panicked {payload : Payload} (ends : entry.guarded.Ends thread (.panicked payload) reached) :
    ffiGuardWith entry.guarded thread =
      (.returned entry.sentinel, ⟨some (.of .panic (panicInCall payload)), reached⟩) := by
  obtain ⟨slot, ran⟩ := mapped_of_ends ends
  have recovered : ffiGuardWith entry.guarded thread =
      recoverFromFfiPanic payload (entry.guarded.sentinel .panic) ⟨slot, reached⟩ := by
    rw [ffiGuardWith, Stateful.bind_returned (Stateful.catchUnwind_eq ran)]
    rfl
  rw [recovered, recoverFromFfiPanic_apply]
  rfl

/-- The guard keeps the error for `check_error`, and forgets the one that was pending before. -/
theorem call_eq (entry : Entry ω T) (thread : Thread ω) : call entry thread =
    match entry.ends thread.world with
    | (.ok value, reached) => (.returned (.ok value), ⟨none, reached⟩)
    | (.error error, reached) => (.returned (.ok entry.sentinel), ⟨some error, reached⟩) := by
  cases ran : entry.body thread.world with
  | mk outcome reached =>
    have body : entry.guarded.body thread = (outcome, { thread with world := reached }) := by
      simp only [Entry.guarded, ran]
    rw [call, Entry.ends, ran]
    cases outcome with
    | panicked payload => rw [guarded_panicked (.body body)]; rfl
    | returned result =>
      cases result with
      | ok value =>
        have mapped := mapped_of_ends (.value body)
        rw [ffiGuardWith, Stateful.bind_returned (Stateful.catchUnwind_eq mapped)]
        rfl
      | error error =>
        dsimp only
        rw [guardedResult]
        cases shown : entry.display error with
        | panicked payload => rw [guarded_panicked (.display body shown)]; rfl
        | returned text =>
          have mapped := mapped_of_ends (.refused body shown rfl)
          rw [ffiGuardWith, Stateful.bind_returned (Stateful.catchUnwind_eq mapped)]
          rfl

theorem call_ok (ended : entry.ends thread.world = (.ok value, reached)) :
    call entry thread = (.returned (.ok value), ⟨none, reached⟩) := by
  rw [call_eq, ended]

theorem call_error (ended : entry.ends thread.world = (.error error, reached)) :
    call entry thread = (.returned (.ok entry.sentinel), ⟨some error, reached⟩) := by
  rw [call_eq, ended]

theorem checkError_pending (pending : thread.lastError = some error) (serious : error.code ≠ .ok) :
    checkError thread = (.returned (.error (.ofLast error)), ⟨none, thread.world⟩) := by
  obtain ⟨slot, world⟩ := thread
  cases pending
  have read : (lastErrorCode : Threaded ω LanceErrorCode) ⟨some error, world⟩ =
      (.returned (.ok error.code), ⟨some error, world⟩) := rfl
  rw [checkError, Body.bind_of_ok read, if_pos serious]
  rfl

end Calls

/-- The call as if it threw its errors itself. -/
def Entry.thrown (entry : Entry ω T) : Body ω Exception T := fun world =>
  (.returned ((entry.ends world).1.mapError .ofLast), (entry.ends world).2)

section Thrown

/-- Whatever error is pending before, a checked call ends as if it threw its own error, and leaves none behind. -/
theorem byValue_apply (entry : Entry ω T) (thread : Thread ω) : byValue entry thread =
    ((entry.thrown thread.world).1, ⟨none, (entry.thrown thread.world).2⟩) := by
  rw [Entry.thrown]
  rcases ended : entry.ends thread.world with ⟨error | value, reached⟩
  · have serious := Entry.ends_code_ne ended
    have read : (lastErrorCode : Threaded ω LanceErrorCode) ⟨some error, reached⟩ =
        (.returned (.ok error.code), ⟨some error, reached⟩) := rfl
    rw [byValue, Body.bind_of_ok (call_error ended), Body.bind_of_ok read, if_pos serious]
    exact Body.bind_of_error (checkError_pending rfl serious)
  · rw [byValue, Body.bind_of_ok (call_ok ended)]
    rfl

theorem byCode_apply (entry : Entry ω Unit) (thread : Thread ω) : byCode entry thread =
    ((entry.thrown thread.world).1, ⟨none, (entry.thrown thread.world).2⟩) := by
  have code : entry.code.ends thread.world =
      ((entry.ends thread.world).1.map fun _ => 0, (entry.ends thread.world).2) :=
    entry.ends_returning ..
  rw [Entry.thrown]
  rcases ended : entry.ends thread.world with ⟨error | value, reached⟩
  · rw [ended] at code
    rw [byCode, Body.bind_of_ok (call_error code)]
    exact checkError_pending rfl (Entry.ends_code_ne ended)
  · rw [ended] at code
    rw [byCode, Body.bind_of_ok (call_ok code)]
    rfl

theorem byPointer_apply (entry : Entry ω T) (thread : Thread ω) : byPointer entry thread =
    ((entry.thrown thread.world).1, ⟨none, (entry.thrown thread.world).2⟩) := by
  have pointer : entry.pointer.ends thread.world =
      ((entry.ends thread.world).1.map some, (entry.ends thread.world).2) :=
    entry.ends_returning ..
  rw [Entry.thrown]
  rcases ended : entry.ends thread.world with ⟨error | value, reached⟩
  · rw [ended] at pointer
    rw [byPointer, Body.bind_of_ok (call_error pointer)]
    exact Body.bind_of_error (checkError_pending rfl (Entry.ends_code_ne ended))
  · rw [ended] at pointer
    rw [byPointer, Body.bind_of_ok (call_ok pointer)]
    rfl

/-- A value below 0 that is no error goes through as well. -/
theorem bySign_apply {entry : Entry ω Int} (negative : entry.sentinel < 0) (thread : Thread ω) : bySign entry thread =
    ((entry.thrown thread.world).1, ⟨none, (entry.thrown thread.world).2⟩) := by
  rw [Entry.thrown]
  rcases ended : entry.ends thread.world with ⟨error | value, reached⟩
  · rw [bySign, Body.bind_of_ok (call_error ended), if_pos negative]
    exact Body.bind_of_error (checkError_pending rfl (Entry.ends_code_ne ended))
  · have nothing : (checkError : Threaded ω Unit) ⟨none, reached⟩ = (.returned (.ok ()), ⟨none, reached⟩) := rfl
    rw [bySign, Body.bind_of_ok (call_ok ended)]
    split
    · exact Body.bind_of_ok nothing
    · rfl

end Thrown

end LanceC.Cpp
