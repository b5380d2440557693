import LanceC.Logic.Fuse
import LanceC.Machine.Unwind

/-! The panic guards of exported Arrow streams (`GuardedReader` and
`GuardedRecordBatchReader` of stream_guard.rs) over whole sequences of calls. -/

namespace LanceC.Stream

open Logic Machine

/-- An error text that Arrow can format and turn into a C string. -/
structure FfiSafeStreamError where
  message : String
  deriving DecidableEq, Repr

inductive ArrowError where
  | externalError (error : FfiSafeStreamError)
  deriving DecidableEq, Repr

def ffiSafeStreamError (message : String) : ArrowError := .externalError ⟨escapeNul message⟩

def ArrowError.message : ArrowError → String
  | externalError error => error.message

/-- What a call of `next` returns; `none` is the end of the stream. -/
abbrev Item (Batch : Type) := Option (Except ArrowError Batch)

/-- The inner stream or reader: what its `next` does in each of its states, what
formatting one of its errors comes to, and what dropping it does. -/
structure Inner (S Batch Error : Type) where
  next : S → Unwind (Option (Except Error Batch)) × S
  toString : Error → Unwind String
  drop : S → Unwind Unit

section Code

variable {S Batch Error : Type} (source : Inner S Batch Error)

/-- The match on the inner item; an error is formatted here, where that may panic. -/
def Inner.detach : Option (Except Error Batch) → Unwind (Item Batch)
  | some (.ok batch) => pure (some (.ok batch))
  | some (.error err) => do return some (.error (ffiSafeStreamError (← source.toString err)))
  | none => pure none

/-- `Handle::block_on` panics before it polls on a thread that drives a runtime. -/
def blockOn {α : Type} (refused : Option Payload) (future : S → Unwind α × S) (inner : S) : Unwind α × S :=
  match refused with
  | some payload => (.panicked payload, inner)
  | none => future inner

structure GuardedReader (S : Type) where
  inner : Option S
  poisoned : Bool
  scannerPoison : Bool
  deriving DecidableEq, Repr

structure GuardedRecordBatchReader (R : Type) where
  inner : Option R
  poisoned : Bool
  deriving DecidableEq, Repr

namespace GuardedReader

/-- As `new` leaves it, with the scanner's flag as it is then. -/
def new (inner : S) (scannerPoison : Bool) : GuardedReader S := ⟨some inner, false, scannerPoison⟩

def next (refused : Option Payload) (self : GuardedReader S) : Item Batch × GuardedReader S :=
  if self.poisoned then (none, self)
  else
    match self.inner with
    | none => (none, self)
    | some inner =>
      let (polled, inner) := blockOn refused source.next inner
      match (polled >>= source.detach).catchUnwind with
      | .ok item => (item, { self with inner := some inner })
      | .error payload =>
        (some (.error (ffiSafeStreamError s!"panic in stream: {panicPayloadMessage payload}")),
          { inner := some inner, poisoned := true, scannerPoison := true })

end GuardedReader

namespace GuardedRecordBatchReader

def new (inner : S) : GuardedRecordBatchReader S := ⟨some inner, false⟩

def next (self : GuardedRecordBatchReader S) : Item Batch × GuardedRecordBatchReader S :=
  if self.poisoned then (none, self)
  else
    match self.inner with
    | none => (none, self)
    | some inner =>
      let (item, inner) := source.next inner
      match (item >>= source.detach).catchUnwind with
      | .ok item => (item, { self with inner := some inner })
      | .error payload =>
        (some (.error (ffiSafeStreamError s!"panic in record batch reader: {panicPayloadMessage payload}")),
          { inner := some inner, poisoned := true })

end GuardedRecordBatchReader

/-- The lines it writes to the log. -/
def swallowUnwind (context : String) (f : Unwind Unit) : Unwind (List String) :=
  match f.catchUnwind with
  | .ok () => .returned []
  | .error payload => .returned [s!"{context}: swallowed panic during unwinding: {panicPayloadMessage payload}"]

def GuardedReader.drop (self : GuardedReader S) : Unwind (List String) × GuardedReader S :=
  match self.inner with
  | none => (.returned [], self)
  | some inner =>
    (swallowUnwind "GuardedReader::drop (ArrowArrayStream release)" (source.drop inner), { self with inner := none })

def GuardedRecordBatchReader.drop (self : GuardedRecordBatchReader S) :
    Unwind (List String) × GuardedRecordBatchReader S :=
  match self.inner with
  | none => (.returned [], self)
  | some inner =>
    (swallowUnwind "GuardedRecordBatchReader::drop (ArrowArrayStream release)" (source.drop inner),
      { self with inner := none })

end Code

section Spec

variable {S Batch Error : Type}

/-- What one call of the inner `next` comes to: an item, its error as text, or a panic,
in the call itself or in the formatting of its error. -/
def Inner.outcome (source : Inner S Batch Error) :
    Unwind (Option (Except Error Batch)) → Except Payload (Option (Except String Batch))
  | .panicked payload => .error payload
  | .returned none => .ok none
  | .returned (some (.ok batch)) => .ok (some (.ok batch))
  | .returned (some (.error err)) =>
    match source.toString err with
    | .returned text => .ok (some (.error text))
    | .panicked payload => .error payload

/-- What the calls come to one after the other, on an inner stream nobody guards. -/
def Inner.behaviour (source : Inner S Batch Error) (calls : Nat → S → Unwind (Option (Except Error Batch)) × S)
    (inner : S) (n : Nat) : Except Payload (Option (Except String Batch)) :=
  source.outcome (outputAt calls inner n)

def passed : Option (Except String Batch) → Item Batch
  | some (.ok batch) => some (.ok batch)
  | some (.error text) => some (.error (ffiSafeStreamError text))
  | none => none

/-- The one item in which a caught panic is reported. -/
def panicItem (label : String) (payload : Payload) : Item Batch :=
  some (.error (.externalError ⟨label ++ panicPayloadMessage payload⟩))

namespace GuardedReader

variable (source : Inner S Batch Error) (refused : Nat → Option Payload) (inner : S)

/-- The raw calls a reader makes, the runtime's refusals among them. -/
def calls (n : Nat) : S → Unwind (Option (Except Error Batch)) × S := blockOn (refused n) source.next

def behaviour : Nat → Except Payload (Option (Except String Batch)) :=
  source.behaviour (calls source refused) inner

/-- The reader before its `n`-th call, its scanner not poisoned at first. -/
def before : Nat → GuardedReader S := stateAt (fun n => next source (refused n)) (new inner false)

def outputs : Nat → Item Batch := outputAt (fun n => next source (refused n)) (new inner false)

end GuardedReader

namespace GuardedRecordBatchReader

variable (source : Inner S Batch Error) (inner : S)

def behaviour : Nat → Except Payload (Option (Except String Batch)) :=
  source.behaviour (fun _ => source.next) inner

def before : Nat → GuardedRecordBatchReader S := stateAt (fun _ => next source) (new inner)

def outputs : Nat → Item Batch := outputAt (fun _ => next source) (new inner)

end GuardedRecordBatchReader

/-- Transparent up to the first panic, which is reported, and at an end from then on. -/
structure Guards (behaviour : Nat → Except Payload (Option (Except String Batch))) (label : String)
    (outputs : Nat → Item Batch) : Prop where
  passes (n : Nat) (item : Option (Except String Batch)) :
    ¬Blown behaviour n → behaviour n = .ok item → outputs n = passed item
  reports (n : Nat) (payload : Payload) :
    ¬Blown behaviour n → behaviour n = .error payload → outputs n = panicItem label payload
  ends (n : Nat) : Blown behaviour n → outputs n = none

end Spec

section Proofs

variable {S Batch Error : Type} {source : Inner S Batch Error}

theorem panic_message {label : String} (clean : Char.ofNat 0 ∉ label.toList) (payload : Payload) :
    some (.error (ffiSafeStreamError (label ++ panicPayloadMessage payload))) =
      (panicItem label payload : Item Batch) := by
  have sanitized : Char.ofNat 0 ∉ (panicPayloadMessage payload).toList := by
    cases payload with
    | text message => exact escapeNul_noNul message
    | other => exact escapeNul_noNul _
  rw [ffiSafeStreamError, escapeNul_append, escapeNul_eq_self clean, escapeNul_eq_self sanitized, panicItem]

/-- The closure under the guard is the inner call, its error formatted. -/
theorem catch_detach (polled : Unwind (Option (Except Error Batch))) :
    (polled >>= source.detach).catchUnwind = (source.outcome polled).map passed := by
  match polled with
  | .panicked payload => rfl
  | .returned none => rfl
  | .returned (some (.ok batch)) => rfl
  | .returned (some (.error err)) =>
    change (Unwind.bind (source.toString err) _).catchUnwind = _
    cases formatted : source.toString err with
    | returned text => simp [Unwind.bind, Inner.outcome, formatted, passed, Except.map, Unwind.catchUnwind, pure]
    | panicked payload => simp [Unwind.bind, Inner.outcome, formatted, Except.map, Unwind.catchUnwind]

namespace GuardedReader

/-- One call on a reader that is not fused. -/
theorem next_live (refused : Option Payload) (inner : S) (scannerPoison : Bool) :
    next source refused ⟨some inner, false, scannerPoison⟩ =
      match source.outcome (blockOn refused source.next inner).1 with
      | .ok item => (passed item, ⟨some (blockOn refused source.next inner).2, false, scannerPoison⟩)
      | .error payload =>
        (panicItem "panic in stream: " payload, ⟨some (blockOn refused source.next inner).2, true, true⟩) := by
  simp only [next, Bool.false_eq_true, ↓reduceIte, catch_detach]
  cases source.outcome (blockOn refused source.next inner).1 with
  | ok item => rfl
  | error payload =>
    have message := @panic_message Batch "panic in stream: " (by decide) payload
    exact congrArg (fun item => (item, (_ : GuardedReader S))) message

variable (source) in
theorem fuses (refused : Nat → Option Payload) (inner : S) (scannerPoison : Bool) :
    Fuses (source.behaviour (fun n => blockOn (refused n) source.next) inner) passed (panicItem "panic in stream: ")
      none (fun n => next source (refused n))
      (fun n reader => reader =
        ⟨some (stateAt (fun n => blockOn (refused n) source.next) inner n), false, scannerPoison⟩)
      (fun k reader => reader =
        ⟨some (stateAt (fun n => blockOn (refused n) source.next) inner (k + 1)), true, true⟩) where
  passes live attempt := by
    subst live
    rw [Inner.behaviour, outputAt] at attempt
    rw [next_live, attempt]
    exact ⟨rfl, rfl⟩
  reports live attempt := by
    subst live
    rw [Inner.behaviour, outputAt] at attempt
    rw [next_live, attempt]
    exact ⟨rfl, rfl⟩
  ends n _ dead := by
    subst dead
    exact ⟨rfl, rfl⟩

end GuardedReader

namespace GuardedRecordBatchReader

theorem next_live (inner : S) :
    next source ⟨some inner, false⟩ =
      match source.outcome (source.next inner).1 with
      | .ok item => (passed item, ⟨some (source.next inner).2, false⟩)
      | .error payload => (panicItem "panic in record batch reader: " payload, ⟨some (source.next inner).2, true⟩) := by
  simp only [next, Bool.false_eq_true, ↓reduceIte, catch_detach]
  cases source.outcome (source.next inner).1 with
  | ok item => rfl
  | error payload =>
    have message := @panic_message Batch "panic in record batch reader: " (by decide) payload
    exact congrArg (fun item => (item, (_ : GuardedRecordBatchReader S))) message

variable (source) in
theorem fuses (inner : S) :
    Fuses (source.behaviour (fun _ => source.next) inner) passed (panicItem "panic in record batch reader: ")
      none (fun _ => next source) (fun n reader => reader = ⟨some (stateAt (fun _ => source.next) inner n), false⟩)
      (fun k reader => reader = ⟨some (stateAt (fun _ => source.next) inner (k + 1)), true⟩) where
  passes live attempt := by
    subst live
    rw [Inner.behaviour, outputAt] at attempt
    rw [next_live, attempt]
    exact ⟨rfl, rfl⟩
  reports live attempt := by
    subst live
    rw [Inner.behaviour, outputAt] at attempt
    rw [next_live, attempt]
    exact ⟨rfl, rfl⟩
  ends n _ dead := by
    subst dead
    exact ⟨rfl, rfl⟩

end GuardedRecordBatchReader

theorem Guards.of_fuses {State : Type} {behaviour : Nat → Except Payload (Option (Except String Batch))}
    {label : String} {next : Nat → State → Item Batch × State} {Live Dead : Nat → State → Prop} {start : State}
    (fuses : Fuses behaviour passed (panicItem label) none next Live Dead) (starts : Live 0 start) :
    Guards behaviour label (outputAt next start) where
  passes _ _ intact attempt := fuses.outputAt_ok starts intact attempt
  reports _ _ intact attempt := fuses.outputAt_error starts intact attempt
  ends _ blown := fuses.outputAt_ended starts blown

/-- Where one behaviour is guarded twice, only the labels can tell the outputs apart. -/
theorem Guards.same {behaviour : Nat → Except Payload (Option (Except String Batch))} {label label' : String}
    {outputs outputs' : Nat → Item Batch} (guards : Guards behaviour label outputs)
    (guards' : Guards behaviour label' outputs') (n : Nat) :
    outputs n = outputs' n ∨
      ∃ payload, outputs n = panicItem label payload ∧ outputs' n = panicItem label' payload := by
  by_cases blown : Blown behaviour n
  · exact .inl ((guards.ends n blown).trans (guards'.ends n blown).symm)
  · cases attempt : behaviour n with
    | ok item => exact .inl ((guards.passes n item blown attempt).trans (guards'.passes n item blown attempt).symm)
    | error payload =>
      exact .inr ⟨payload, guards.reports n payload blown attempt, guards'.reports n payload blown attempt⟩

theorem GuardedReader.guards (source : Inner S Batch Error) (refused : Nat → Option Payload) (inner : S) :
    Guards (behaviour source refused inner) "panic in stream: " (outputs source refused inner) :=
  .of_fuses (fuses source refused inner false) rfl

theorem GuardedRecordBatchReader.guards (source : Inner S Batch Error) (inner : S) :
    Guards (behaviour source inner) "panic in record batch reader: " (outputs source inner) :=
  .of_fuses (fuses source inner) rfl

/-- A caught panic is the last the inner stream is asked for anything. -/
theorem GuardedReader.untouched (source : Inner S Batch Error) (refused : Nat → Option Payload) (inner : S)
    {k n : Nat} (first : FirstFailure (behaviour source refused inner) k) (later : k < n) :
    (before source refused inner n).inner = some (stateAt (calls source refused) inner (k + 1)) :=
  congrArg GuardedReader.inner ((fuses source refused inner false).dead rfl first later)

theorem GuardedRecordBatchReader.untouched (source : Inner S Batch Error) (inner : S) {k n : Nat}
    (first : FirstFailure (behaviour source inner) k) (later : k < n) :
    (before source inner n).inner = some (stateAt (fun _ => source.next) inner (k + 1)) :=
  congrArg GuardedRecordBatchReader.inner ((fuses source inner).dead rfl first later)

variable (stream : Inner S Batch Error) (refused : Nat → Option Payload) (inner : S)

end Proofs

end LanceC.Stream
