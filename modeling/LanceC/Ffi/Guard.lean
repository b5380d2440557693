import LanceC.Error
import LanceC.Machine.Program

/-! The thread's last error and the panic guards of the C entry points (error.rs). -/

namespace LanceC.Ffi

open Machine

structure LastError where
  code : LanceErrorCode
  message : String
  deriving DecidableEq, Repr

/-- A message becomes a C string, its NUL bytes escaped. -/
def LastError.of (code : LanceErrorCode) (message : String) : LastError := ⟨code, escapeNul message⟩

def panicInCall (payload : Payload) : String := s!"panic in FFI call: {panicPayloadMessage payload}"

inductive FfiFailure where
  | lance
  | panic
  deriving DecidableEq, Repr

/-- A function around one `catch_unwind`: what runs before it and may already
return, the closure under it, and the arm for the panic it caught. `prologue` gets
the flag it loads. Nothing but the end of a part reads or writes the flag. -/
structure Guarded (σ ρ : Type) where
  prologue : Bool → σ → Option ρ × σ
  body : Program σ ρ
  caught : Payload → σ → ρ × σ

end LanceC.Ffi
