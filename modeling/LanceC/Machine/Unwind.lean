/-! Calls that may panic: a call returns a value or unwinds with a payload. -/

namespace LanceC.Machine

/-- What a panic carries; only string payloads have a message of their own. -/
inductive Payload where
  | text (message : String)
  | other
  deriving DecidableEq, Repr

/-- A message made fit for a C string. -/
def escapeNul (message : String) : String :=
  String.ofList (message.toList.flatMap fun c => if c = Char.ofNat 0 then "\\0".toList else [c])

theorem escapeNul_append (left right : String) : escapeNul (left ++ right) = escapeNul left ++ escapeNul right := by
  simp [escapeNul, String.toList_append, List.flatMap_append, String.ofList_append]

/-- No NUL is left. -/
theorem escapeNul_noNul (message : String) : Char.ofNat 0 ∉ (escapeNul message).toList := by
  rw [escapeNul, String.toList_ofList, List.mem_flatMap]
  rintro ⟨char, _, inside⟩
  split at inside
  · revert inside
    decide
  · next other => exact other (List.mem_singleton.mp inside).symm

theorem escapeNul_eq_self {message : String} (clean : Char.ofNat 0 ∉ message.toList) :
    escapeNul message = message := by
  have unchanged : ∀ chars : List Char, Char.ofNat 0 ∉ chars →
      (chars.flatMap fun c => if c = Char.ofNat 0 then "\\0".toList else [c]) = chars := by
    intro chars absent
    induction chars with
    | nil => rfl
    | cons char rest ih =>
      obtain ⟨here, later⟩ := not_or.mp fun inside => absent (List.mem_cons.mpr inside)
      rw [List.flatMap_cons, if_neg (Ne.symm here), ih later, List.singleton_append]
  rw [escapeNul, unchanged _ clean, String.ofList_toList]

def panicPayloadMessage : Payload → String
  | .text message => escapeNul message
  | .other => escapeNul "unknown panic payload"

inductive Unwind (α : Type) where
  | returned (value : α)
  | panicked (payload : Payload)
  deriving DecidableEq, Repr

namespace Unwind

variable {α β : Type}

def bind (first : Unwind α) (next : α → Unwind β) : Unwind β :=
  match first with
  | returned value => next value
  | panicked payload => panicked payload

instance : Monad Unwind where
  pure := returned
  bind := bind

def catchUnwind : Unwind α → Except Payload α
  | returned value => .ok value
  | panicked payload => .error payload

end Unwind

/-- What stops a fallible computation early: an error that it returns, or a panic. -/
inductive Stop (ε : Type) where
  | error (error : ε)
  | panic (payload : Payload)
  deriving DecidableEq, Repr

section Settled

variable {ε α : Type}

/-- A fallible call as one step of a computation that either kind of failure stops. -/
def Unwind.settle : Unwind (Except ε α) → Except (Stop ε) α
  | returned (.ok value) => .ok value
  | returned (.error error) => .error (.error error)
  | panicked payload => .error (.panic payload)

/-- How such a computation ends for its caller. -/
def Unwind.ofSettled : Except (Stop ε) α → Unwind (Except ε α)
  | .ok value => returned (.ok value)
  | .error (.error error) => returned (.error error)
  | .error (.panic payload) => panicked payload

def settled (result : Except ε α) : Except (Stop ε) α := Unwind.settle (.returned result)

@[simp] theorem Unwind.settle_eq_ok {outcome : Unwind (Except ε α)} {value : α} :
    outcome.settle = .ok value ↔ outcome = .returned (.ok value) := by
  rcases outcome with (_ | _) | _ <;> simp [settle]

@[simp] theorem Unwind.settle_eq_error {outcome : Unwind (Except ε α)} {error : ε} :
    outcome.settle = .error (.error error) ↔ outcome = .returned (.error error) := by
  rcases outcome with (_ | _) | _ <;> simp [settle]

@[simp] theorem settled_eq_ok {result : Except ε α} {value : α} : settled result = .ok value ↔ result = .ok value := by
  simp [settled]

@[simp] theorem settled_eq_error {result : Except ε α} {error : ε} :
    settled result = .error (.error error) ↔ result = .error error := by
  simp [settled]

/-- Only an error stops a computation that cannot panic. -/
theorem settled_eq_stop {result : Except ε α} {stop : Stop ε} :
    settled result = .error stop ↔ ∃ error, stop = .error error ∧ result = .error error := by
  cases result <;> simp [settled, Unwind.settle, eq_comm]

end Settled

end LanceC.Machine
