import LanceC.Logic.Transition
import Mathlib.Logic.Function.Basic

/-! The wakers that `poll_next` hands to the stream, and their retirement by close
(scanner.rs). Every section under a lock is one step, and a callback has a start and
an end of its own. A strong count is not stored: it is the number of `Arc`s there
are, each of them a token, together with those retirement holds. -/

namespace LanceC.Scanner

open Logic

structure CWakerState where
  fired : Bool
  cancelled : Bool
  active : Bool
  deriving DecidableEq, Repr

namespace CWakerState

def default : CWakerState := ⟨false, false, false⟩

/-- The first section of `wake_once`: `none` where it returns at once. -/
def letIn (state : CWakerState) : Option CWakerState :=
  if state.cancelled || state.fired then none else some { state with fired := true, active := true }

/-- The last section of `wake_once`. -/
def quiesce (state : CWakerState) : CWakerState := { state with active := false }

def cancel (state : CWakerState) : CWakerState := { state with cancelled := true }

end CWakerState

variable {Context Token : Type}

structure PollWakerRegistryState (Context : Type) where
  retired : Bool
  registrations : List Context
  deriving DecidableEq, Repr

namespace PollWakerRegistryState

/-- The section of `register`; `alive` is `strong_count() > 0`. -/
def register (state : PollWakerRegistryState Context) (alive : Context → Bool) (registration : Context) :
    Bool × PollWakerRegistryState Context :=
  let kept := state.registrations.filter alive
  if state.retired then (true, { state with registrations := kept })
  else (false, { state with registrations := kept ++ [registration] })

/-- The section of `retire_and_wait`, and the registrations it could upgrade. -/
def retire (state : PollWakerRegistryState Context) (alive : Context → Bool) :
    List Context × PollWakerRegistryState Context :=
  (state.registrations.filter alive, { retired := true, registrations := [] })

end PollWakerRegistryState

/-- Where a wake is: before its first section, about to call the callback, in it,
before its last section, or about to return. -/
inductive WakeStep where
  | entering
  | admitted
  | inCallback
  | leaving
  | returning
  deriving DecidableEq, Repr

/-- What a token is for: the `Arc` of a registration that is being made, which `register` may
have told to cancel; a waker; a consuming wake, which owns its `Arc`; or a wake by
reference, which borrows the waker `from`. -/
inductive Role (Token : Type) where
  | registering
  | cancelling
  | waker
  | waking (at' : WakeStep)
  | borrowing (from' : Token) (at' : WakeStep)
  deriving DecidableEq, Repr

structure Hold (Context Token : Type) where
  context : Context
  role : Role Token
  deriving DecidableEq, Repr

/-- `retire_and_wait`: the registrations it upgraded and has still to cancel, and
all of them; then those it has still to wait for. -/
inductive Retirement (Context : Type) where
  | notCalled
  | cancelling (todo all : List Context)
  | waiting (todo : List Context)
  | returned
  deriving DecidableEq, Repr

structure WakerSystem (Context Token : Type) where
  state : Context → CWakerState
  allocated : List Context
  registry : PollWakerRegistryState Context
  hold : Token → Option (Hold Context Token)
  retirement : Retirement Context

inductive WakerEvent (Context : Type) where
  | callbackStarts (context : Context)
  | callbackEnds (context : Context)
  | other
  deriving DecidableEq, Repr

/-- The step of a wake, on whichever kind of token it runs. -/
def Role.step : Role Token → Option WakeStep
  | waking at' | borrowing _ at' => some at'
  | registering | cancelling | waker => none

def Role.goTo (role : Role Token) (next : WakeStep) : Role Token :=
  match role with
  | waking _ => .waking next
  | borrowing from' _ => .borrowing from' next
  | registering | cancelling | waker => role

/-- The `Arc`s that retirement holds. -/
def Retirement.held : Retirement Context → List Context
  | cancelling _ all => all
  | waiting todo => todo
  | notCalled | returned => []

namespace WakerSystem

variable (system : WakerSystem Context Token)

/-- `strong_count() > 0`. A wake by reference owns nothing. -/
def Live (context : Context) : Prop :=
  context ∈ system.retirement.held ∨
    ∃ token hold, system.hold token = some hold ∧ hold.context = context ∧
      ∀ from' at', hold.role ≠ .borrowing from' at'

/-- Nobody is using the waker by reference. -/
def Unborrowed (token : Token) : Prop :=
  ∀ user hold, system.hold user = some hold → ∀ at', hold.role ≠ .borrowing token at'

def setState [DecidableEq Context] (context : Context) (state : CWakerState) : WakerSystem Context Token :=
  { system with state := Function.update system.state context state }

def setHold [DecidableEq Token] (token : Token) (hold : Option (Hold Context Token)) : WakerSystem Context Token :=
  { system with hold := Function.update system.hold token hold }

section Access

variable {system} {context other : Context} {token user : Token} {state : CWakerState}
variable {hold : Option (Hold Context Token)}

section State

variable [DecidableEq Context]

@[simp, grind =] theorem state_setState :
    (system.setState context state).state other = if other = context then state else system.state other :=
  Function.update_apply ..

@[simp, grind =] theorem hold_setState : (system.setState context state).hold = system.hold := rfl

@[simp, grind =] theorem allocated_setState : (system.setState context state).allocated = system.allocated := rfl

@[simp, grind =] theorem registry_setState : (system.setState context state).registry = system.registry := rfl

@[simp, grind =] theorem retirement_setState :
    (system.setState context state).retirement = system.retirement := rfl

end State

section Holds

variable [DecidableEq Token]

@[simp, grind =] theorem hold_setHold :
    (system.setHold token hold).hold user = if user = token then hold else system.hold user :=
  Function.update_apply ..

@[simp, grind =] theorem state_setHold : (system.setHold token hold).state = system.state := rfl

@[simp, grind =] theorem allocated_setHold : (system.setHold token hold).allocated = system.allocated := rfl

@[simp, grind =] theorem registry_setHold : (system.setHold token hold).registry = system.registry := rfl

@[simp, grind =] theorem retirement_setHold : (system.setHold token hold).retirement = system.retirement := rfl

end Holds

end Access

def new : WakerSystem Context Token :=
  { state := fun _ => .default, allocated := [], registry := ⟨false, []⟩, hold := fun _ => none
    retirement := .notCalled }

end WakerSystem

open WakerSystem

/-- One step of a waker, a registration or the one retirement. -/
inductive WakerStep [DecidableEq Context] [DecidableEq Token] :
    WakerSystem Context Token → WakerEvent Context → WakerSystem Context Token → Prop where
  | allocate {system : WakerSystem Context Token} {context token} :
      context ∉ system.allocated → system.hold token = none →
      WakerStep system .other
        { (system.setState context .default).setHold token (some ⟨context, .registering⟩) with
          allocated := context :: system.allocated }
  | register {system : WakerSystem Context Token} {context token alive registry} :
      system.hold token = some ⟨context, .registering⟩ → (∀ context, alive context = true ↔ system.Live context) →
      system.registry.register alive context = (false, registry) →
      WakerStep system .other { system.setHold token (some ⟨context, .waker⟩) with registry }
  | registerRetired {system : WakerSystem Context Token} {context token alive registry} :
      system.hold token = some ⟨context, .registering⟩ → (∀ context, alive context = true ↔ system.Live context) →
      system.registry.register alive context = (true, registry) →
      WakerStep system .other { system.setHold token (some ⟨context, .cancelling⟩) with registry }
  | cancelRegistration {system : WakerSystem Context Token} {context token} :
      system.hold token = some ⟨context, .cancelling⟩ →
      WakerStep system .other
        ((system.setState context (system.state context).cancel).setHold token (some ⟨context, .waker⟩))
  | clone {system : WakerSystem Context Token} {context token fresh} :
      system.hold token = some ⟨context, .waker⟩ → system.hold fresh = none →
      WakerStep system .other (system.setHold fresh (some ⟨context, .waker⟩))
  | drop {system : WakerSystem Context Token} {context token} :
      system.hold token = some ⟨context, .waker⟩ → system.Unborrowed token →
      WakerStep system .other (system.setHold token none)
  | wake {system : WakerSystem Context Token} {context token} :
      system.hold token = some ⟨context, .waker⟩ → system.Unborrowed token →
      WakerStep system .other (system.setHold token (some ⟨context, .waking .entering⟩))
  | wakeByRef {system : WakerSystem Context Token} {context token user} :
      system.hold token = some ⟨context, .waker⟩ → system.hold user = none →
      WakerStep system .other (system.setHold user (some ⟨context, .borrowing token .entering⟩))
  | letIn {system : WakerSystem Context Token} {token hold state} :
      system.hold token = some hold → hold.role.step = some .entering →
      (system.state hold.context).letIn = some state →
      WakerStep system .other
        ((system.setState hold.context state).setHold token (some ⟨hold.context, hold.role.goTo .admitted⟩))
  | skip {system : WakerSystem Context Token} {token hold} :
      system.hold token = some hold → hold.role.step = some .entering → (system.state hold.context).letIn = none →
      WakerStep system .other (system.setHold token (some ⟨hold.context, hold.role.goTo .returning⟩))
  | callbackStarts {system : WakerSystem Context Token} {token hold} :
      system.hold token = some hold → hold.role.step = some .admitted →
      WakerStep system (.callbackStarts hold.context)
        (system.setHold token (some ⟨hold.context, hold.role.goTo .inCallback⟩))
  | callbackEnds {system : WakerSystem Context Token} {token hold} :
      system.hold token = some hold → hold.role.step = some .inCallback →
      WakerStep system (.callbackEnds hold.context)
        (system.setHold token (some ⟨hold.context, hold.role.goTo .leaving⟩))
  | quiesce {system : WakerSystem Context Token} {token hold} :
      system.hold token = some hold → hold.role.step = some .leaving →
      WakerStep system .other
        ((system.setState hold.context (system.state hold.context).quiesce).setHold token
          (some ⟨hold.context, hold.role.goTo .returning⟩))
  | wakeReturns {system : WakerSystem Context Token} {token hold} :
      system.hold token = some hold → hold.role.step = some .returning →
      WakerStep system .other (system.setHold token none)
  | retire {system : WakerSystem Context Token} {alive registrations registry} :
      system.retirement = .notCalled → (∀ context, alive context = true ↔ system.Live context) →
      system.registry.retire alive = (registrations, registry) →
      WakerStep system .other { system with registry, retirement := .cancelling registrations registrations }
  | cancel {system : WakerSystem Context Token} {context todo all} :
      system.retirement = .cancelling (context :: todo) all →
      WakerStep system .other
        { system.setState context (system.state context).cancel with retirement := .cancelling todo all }
  | beginWaiting {system : WakerSystem Context Token} {all} :
      system.retirement = .cancelling [] all →
      WakerStep system .other { system with retirement := .waiting all }
  | quiescent {system : WakerSystem Context Token} {context todo} :
      system.retirement = .waiting (context :: todo) → (system.state context).active = false →
      WakerStep system .other { system with retirement := .waiting todo }
  | retireReturns {system : WakerSystem Context Token} :
      system.retirement = .waiting [] → WakerStep system .other { system with retirement := .returned }

end LanceC.Scanner
