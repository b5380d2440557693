/-! Error values of Lance and the codes the C API reports for them. -/

namespace LanceC

inductive LanceErrorCode where
  | ok
  | invalidArgument
  | ioError
  | notFound
  | datasetAlreadyExists
  | indexError
  | internal
  | notSupported
  | commitConflict
  | panic
  deriving DecidableEq, Repr

/-- The variants of `lance_core::Error` that are told apart. -/
inductive ErrorKind where
  | invalidInput
  | datasetAlreadyExists
  | commitConflict
  | datasetNotFound
  | notFound
  | indexNotFound
  | io
  | index
  | notSupported
  | internal
  | other
  deriving DecidableEq, Repr

structure LanceError where
  kind : ErrorKind
  message : String
  deriving DecidableEq, Repr

def LanceError.invalidInput (message : String) : LanceError := ⟨.invalidInput, message⟩

def LanceError.internal (message : String) : LanceError := ⟨.internal, message⟩

def errorCodeFromLance (error : LanceError) : LanceErrorCode :=
  match error.kind with
  | .invalidInput => .invalidArgument
  | .datasetAlreadyExists => .datasetAlreadyExists
  | .commitConflict => .commitConflict
  | .datasetNotFound | .notFound | .indexNotFound => .notFound
  | .io => .ioError
  | .index => .indexError
  | .notSupported => .notSupported
  | .internal | .other => .internal

/-- `if condition { return Err(error) }`. -/
def refuseIf (condition : Prop) [Decidable condition] (error : LanceError) : Except LanceError Unit :=
  if condition then .error error else .ok ()

@[simp] theorem refuseIf_ok {condition : Prop} [Decidable condition] {error : LanceError} {done : Unit} :
    refuseIf condition error = .ok done ↔ ¬condition := by
  unfold refuseIf
  split <;> simp_all

theorem refuseIf_isError {condition : Prop} [Decidable condition] {error : LanceError} :
    (∃ refusal, refuseIf condition error = .error refusal) ↔ condition := by
  unfold refuseIf
  split
  · next refused => exact iff_of_true ⟨error, rfl⟩ refused
  · next passed => exact iff_of_false nofun passed

/-- The query engine's errors; `execution` is the one the scan code raises itself. -/
inductive DataFusionError where
  | execution (message : String)
  | arrow (message : String)
  | external (message : String)
  deriving DecidableEq, Repr

/-- No ordinary error is reported as success or as a panic. -/
theorem errorCodeFromLance_ordinary (error : LanceError) :
    errorCodeFromLance error ≠ .ok ∧ errorCodeFromLance error ≠ .panic := by
  obtain ⟨kind, message⟩ := error
  cases kind <;> simp [errorCodeFromLance]

end LanceC
