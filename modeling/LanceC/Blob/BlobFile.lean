import LanceC.Error
import LanceC.Machine.Body
import LanceC.Machine.Integer
import LanceC.Machine.Memory

/-! The accessors of a blob handle (blob.rs) over Lance's own `BlobFile`, which is a parameter. -/

namespace LanceC.Blob

open Machine

/-- Lance's handle of a blob value; `σ` is all that it keeps, its cursor included. -/
structure BlobFile (σ : Type) where
  size : σ → Nat
  tell : σ → Except LanceError Nat × σ
  seek : Nat → σ → Except LanceError Unit × σ
  read : σ → Except LanceError (List Byte) × σ
  readUpTo : Nat → σ → Except LanceError (List Byte) × σ
  readRange : Nat → Nat → σ → Except LanceError (List Byte) × σ

/-- What a call works on: the handle, the memory, and the slot of its out-parameter; `none` are NULL pointers. -/
structure CallState (σ : Type) where
  inner : Option σ
  memory : Memory
  slot : Option Nat

section Accessors

variable {σ α : Type}

abbrev Accessor (σ α : Type) := Body (CallState σ) LanceError α

def blobRef : Accessor σ σ := do
  match (← Body.get).inner with
  | none => Body.ofExcept (.error (.invalidInput "blob must not be NULL"))
  | some blob => return blob

/-- `block_on(handle.inner.call())?`. -/
def upstream (call : σ → Except LanceError α × σ) : Accessor σ α := fun state =>
  match state.inner with
  | none => (.returned (.error (.invalidInput "blob must not be NULL")), state)
  | some blob => (.returned (call blob).1, { state with inner := some (call blob).2 })

/-- `slice::from_raw_parts_mut(dst, len).copy_from_slice(&bytes)`. -/
def copyFromSlice (dst len : Nat) (bytes : List Byte) : Accessor σ Unit := fun state =>
  if bytes.length = len then (.returned (.ok ()), { state with memory := state.memory.write dst bytes })
  else (.panicked (.text "copy_from_slice: source slice length does not match destination slice length"), state)

def writeSlot (value : Nat) : Accessor σ Unit := Body.modify fun state => { state with slot := state.slot.map fun _ => value }

def refuse (condition : Prop) [Decidable condition] (message : String) : Accessor σ Unit :=
  Body.ofExcept (refuseIf condition (.invalidInput message))

variable (file : BlobFile σ)

def blobFileReadInner (dst dstLen : Nat) : Accessor σ Int := do
  let handle ← blobRef
  let size := file.size handle
  let cursor ← upstream file.tell
  let remaining := size - cursor
  refuse (dstLen < remaining) (String.join ["dst_len ", toString dstLen, " is smaller than the ", toString remaining,
    " bytes remaining from cursor ", toString cursor, " (blob size ", toString size, ")"])
  refuse (dst = 0 ∧ remaining > 0)
    s!"dst must not be NULL when {remaining} bytes remain from cursor {cursor} (blob size {size})"
  let bytes ← upstream file.read
  if !bytes.isEmpty then copyFromSlice dst bytes.length bytes
  return 0

def blobFileReadUpToInner (dst len : Nat) : Accessor σ Int := do
  let _ ← blobRef
  refuse ((← Body.get).slot.isNone) "bytes_read must not be NULL"
  refuse (dst = 0 ∧ len > 0) s!"dst must not be NULL when len = {len}"
  let bytes ← upstream (file.readUpTo len)
  if !bytes.isEmpty then copyFromSlice dst bytes.length bytes
  writeSlot bytes.length
  return 0

def blobFileReadRangeInner (offset dst len : Nat) : Accessor σ Int := do
  let _ ← blobRef
  match checkedAddU64 offset len with
  | none => Body.ofExcept (.error (.invalidInput s!"offset {offset} plus len {len} overflows a 64-bit byte range"))
  | some stop =>
    if len = 0 then return 0
    refuse (dst = 0) s!"dst must not be NULL when len = {len}"
    let bytes ← upstream (file.readRange offset stop)
    copyFromSlice dst len bytes
    return 0

def blobFileSeekInner (pos : Nat) : Accessor σ Int := do
  let _ ← blobRef
  upstream (file.seek pos)
  return 0

def blobFileTellInner : Accessor σ Int := do
  let _ ← blobRef
  refuse ((← Body.get).slot.isNone) "pos must not be NULL"
  let cursor ← upstream file.tell
  writeSlot cursor
  return 0

end Accessors

def errorOf {α : Type} : Except LanceError α → Option LanceError
  | .error error => some error
  | .ok _ => none

/-- A call on a handle. -/
inductive BlobCall where
  | read (dst dstLen : Nat)
  | readUpTo (dst len : Nat)
  | readRange (offset dst len : Nat)
  | seek (pos : Nat)
  | tell
  deriving DecidableEq, Repr

def BlobCall.inner {σ : Type} (file : BlobFile σ) : BlobCall → Accessor σ Int
  | read dst dstLen => blobFileReadInner file dst dstLen
  | readUpTo dst len => blobFileReadUpToInner file dst len
  | readRange offset dst len => blobFileReadRangeInner file offset dst len
  | seek pos => blobFileSeekInner file pos
  | tell => blobFileTellInner file

/-- The error in which Lance's fetch for the call ends, or would end if the call came to it. -/
def BlobCall.fetchError {σ : Type} (file : BlobFile σ) (blob : σ) : BlobCall → Option LanceError
  | read _ _ => errorOf (file.read (file.tell blob).2).1
  | readUpTo _ len => errorOf (file.readUpTo len blob).1
  | readRange offset _ len =>
    match checkedAddU64 offset len with
    | none => none
    | some stop => if len = 0 then none else errorOf (file.readRange offset stop blob).1
  | seek _ | tell => none

/-- `ffi_try!(.., neg)`. -/
def neg : Unwind (Except LanceError Int) → Int
  | .returned (.ok code) => code
  | .returned (.error _) | .panicked _ => -1

/-- A call with the caller's memory and slot before it and after it, and with what storage does to it. -/
structure BlobRecord where
  call : BlobCall
  memory : Memory
  slot : Option Nat
  fetchError : Option LanceError
  code : Int
  memoryAfter : Memory
  slotAfter : Option Nat

/-- The call returns from a live handle as recorded. -/
def BlobStep {σ : Type} (file : BlobFile σ) (blob : σ) (record : BlobRecord) (blob' : σ) : Prop :=
  ∃ result, record.call.inner file ⟨some blob, record.memory, record.slot⟩ =
      (.returned result, ⟨some blob', record.memoryAfter, record.slotAfter⟩) ∧
    record.fetchError = record.call.fetchError file blob ∧ record.code = neg (.returned result)

end LanceC.Blob
