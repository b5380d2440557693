import LanceC.Logic.Transition
import LanceC.Scanner.ScanAsync

/-! The poison flag of a scanner over any interleaving of its calls, the reads and
releases of its exported streams and its scan tasks. A guarded function that is
running can be interrupted between any two accesses of its body; its prologue and
its end, whose only access that others see is the flag, are one step each. What lies
outside may answer differently in every call. -/

namespace LanceC.Scanner

open Ffi Logic Machine

variable {Config Stream Wakers Built Batch : Type}

/-- The entry points of a handle; `configure` is any setter. -/
inductive Entry where
  | configure
  | toArrowStream
  | next
  | pollNext (waker : Bool)
  | scanAsync (callback : Bool)
  | close
  deriving DecidableEq, Repr

/-- Where a guarded body can run: a call, the task of an asynchronous scan, or a
read or release of an exported stream. -/
inductive Site (Built : Type) where
  | entry (entry : Entry)
  | task (scanner : Built)
  | read (index : Nat)
  | release (index : Nat)

def Entry.guarded (outside : Outside Config Stream Wakers Built Batch) :
    Entry → Guarded (Frame Config Stream Wakers Batch) (Reply Stream Built Batch)
  | configure => scannerFfiTry outside
  | toArrowStream => lanceScannerToArrowStream outside
  | next => lanceScannerNext outside
  | pollNext waker => lanceScannerPollNext outside waker
  | scanAsync callback => lanceScannerScanAsync outside callback
  | close => lanceScannerClose outside

def Site.guarded (outside : Outside Config Stream Wakers Built Batch) :
    Site Built → Guarded (Frame Config Stream Wakers Batch) (Reply Stream Built Batch)
  | entry called => called.guarded outside
  | task scanner => scanAsyncTask outside scanner
  | read index => GuardedReader.next outside index
  | release index => GuardedReader.drop outside index

/-- The sites whose caught panics poison: all but close and release. -/
def Site.Poisons : Site Built → Prop
  | entry called => called ≠ .close
  | task _ | read _ => True
  | release _ => False

/-- A guarded function in its body. -/
structure Activity (Config Stream Wakers Built Batch : Type) where
  site : Site Built
  outside : Outside Config Stream Wakers Built Batch
  caller : Caller Stream Batch
  program : Program (Frame Config Stream Wakers Batch) (Reply Stream Built Batch)

structure System (Config Stream Wakers Built Batch : Type) where
  shared : Shared Config Stream Wakers
  poisoned : Bool
  closed : Bool
  spawned : List Built
  running : List (Activity Config Stream Wakers Built Batch)

inductive Event (Stream Built Batch : Type) where
  | refused (site : Site Built) (reply : Reply Stream Built Batch) (caller : Caller Stream Batch)
  | began (site : Site Built)
  | ran (site : Site Built)
  | returned (site : Site Built) (reply : Reply Stream Built Batch) (caller : Caller Stream Batch)
  | caught (site : Site Built) (payload : Payload) (reply : Reply Stream Built Batch) (caller : Caller Stream Batch)

/-- A panic caught in an entry point other than close, in a stream read or in a task. -/
def Event.Poisons : Event Stream Built Batch → Prop
  | caught site .. => site.Poisons
  | _ => False

/-- The event is the start of a call, refused at once or not. -/
def Event.Calls (entry : Entry) : Event Stream Built Batch → Prop
  | refused (.entry called) .. | began (.entry called) => called = entry
  | _ => False

namespace System

def new (config : Config) (pollWakers : Wakers) : System Config Stream Wakers Built Batch :=
  { shared := ⟨⟨config, none, pollWakers⟩, []⟩, poisoned := false, closed := false, spawned := [], running := [] }

/-- What a function has handed on, and its store to the flag. -/
def settle (system : System Config Stream Wakers Built Batch) (reply : Reply Stream Built Batch) :
    System Config Stream Wakers Built Batch :=
  let settled := { system with poisoned := system.poisoned || reply.poison }
  match reply.effect with
  | .none => settled
  | .handOut reader => { settled with shared.exported := system.shared.exported ++ [reader] }
  | .dispatch message => { settled with shared.exported := system.shared.exported ++ message.result.toList }
  | .spawn scanner => { settled with spawned := system.spawned ++ [scanner] }

/-- What may start: calls until the handle is closed, spawned tasks once, and the
callbacks of exported streams. -/
inductive Starts : System Config Stream Wakers Built Batch → Site Built → System Config Stream Wakers Built Batch →
    Prop where
  | call {system : System Config Stream Wakers Built Batch} {entry : Entry} :
      system.closed = false → entry ≠ .close → Starts system (.entry entry) system
  | close {system : System Config Stream Wakers Built Batch} :
      system.closed = false → Starts system (.entry .close) { system with closed := true }
  | task {system : System Config Stream Wakers Built Batch} {before after : List Built} {scanner : Built} :
      system.spawned = before ++ scanner :: after →
      Starts system (.task scanner) { system with spawned := before ++ after }
  | read {system : System Config Stream Wakers Built Batch} {index : Nat} :
      index < system.shared.exported.length → Starts system (.read index) system
  | release {system : System Config Stream Wakers Built Batch} {index : Nat} :
      index < system.shared.exported.length → Starts system (.release index) system

end System

inductive Step : System Config Stream Wakers Built Batch → Event Stream Built Batch →
    System Config Stream Wakers Built Batch → Prop where
  | refuse {system started : System Config Stream Wakers Built Batch} {site : Site Built}
      {outside : Outside Config Stream Wakers Built Batch} {caller : Caller Stream Batch}
      {reply : Reply Stream Built Batch} {frame : Frame Config Stream Wakers Batch} :
      system.Starts site started →
      (site.guarded outside).prologue system.poisoned ⟨system.shared, caller⟩ = (some reply, frame) →
      Step system (.refused site reply frame.caller) ({ started with shared := frame.shared }.settle reply)
  | begin {system started : System Config Stream Wakers Built Batch} {site : Site Built}
      {outside : Outside Config Stream Wakers Built Batch} {caller : Caller Stream Batch}
      {frame : Frame Config Stream Wakers Batch} :
      system.Starts site started →
      (site.guarded outside).prologue system.poisoned ⟨system.shared, caller⟩ = (none, frame) →
      Step system (.began site)
        { started with
          shared := frame.shared
          running := system.running ++ [⟨site, outside, frame.caller, (site.guarded outside).body⟩] }
  | run {system : System Config Stream Wakers Built Batch}
      {before after : List (Activity Config Stream Wakers Built Batch)}
      {activity : Activity Config Stream Wakers Built Batch}
      {update : Frame Config Stream Wakers Batch → Frame Config Stream Wakers Batch}
      {rest : Frame Config Stream Wakers Batch → Program (Frame Config Stream Wakers Batch) (Reply Stream Built Batch)} :
      system.running = before ++ activity :: after → activity.program = .access update rest →
      Step system (.ran activity.site)
        { system with
          shared := (update ⟨system.shared, activity.caller⟩).shared
          running := before ++
            { activity with
              caller := (update ⟨system.shared, activity.caller⟩).caller
              program := rest ⟨system.shared, activity.caller⟩ } :: after }
  | finish {system : System Config Stream Wakers Built Batch}
      {before after : List (Activity Config Stream Wakers Built Batch)}
      {activity : Activity Config Stream Wakers Built Batch} {reply : Reply Stream Built Batch} :
      system.running = before ++ activity :: after → activity.program = .finish (.returned reply) →
      Step system (.returned activity.site reply activity.caller)
        ({ system with running := before ++ after }.settle reply)
  | unwind {system : System Config Stream Wakers Built Batch}
      {before after : List (Activity Config Stream Wakers Built Batch)}
      {activity : Activity Config Stream Wakers Built Batch} {payload : Payload}
      {reply : Reply Stream Built Batch} {frame : Frame Config Stream Wakers Batch} :
      system.running = before ++ activity :: after → activity.program = .finish (.panicked payload) →
      (activity.site.guarded activity.outside).caught payload ⟨system.shared, activity.caller⟩ = (reply, frame) →
      Step system (.caught activity.site payload reply frame.caller)
        ({ system with shared := frame.shared, running := before ++ after }.settle reply)

section Parts

variable (outside : Outside Config Stream Wakers Built Batch)

/-- The end of a body that stores nothing to the flag. -/
def Quiet : Unwind (Reply Stream Built Batch) → Prop
  | .returned reply => reply.poison = false
  | .panicked _ => True

theorem quiet_bind {σ α : Type} (program : Program σ α) {next : α → Program σ (Reply Stream Built Batch)}
    (quiet : ∀ value, (next value).Ensures Quiet) : (program.bind next).Ensures Quiet :=
  Program.ensures_bind program.ensures_true (fun value _ => quiet value) fun _ _ => trivial

theorem poisonCheck_quiet {errval : Reply Stream Built Batch} {poisoned : Bool}
    {frame : Frame Config Stream Wakers Batch}
    {rest : Option (Reply Stream Built Batch) × Frame Config Stream Wakers Batch}
    (refusal : errval.poison = false) (others : ∀ reply ∈ rest.1, reply.poison = false) :
    ∀ reply ∈ (scannerPoisonCheck errval poisoned frame rest).1, reply.poison = false := by
  unfold scannerPoisonCheck
  split
  · simpa using refusal
  · exact others

theorem prologue_quiet (site : Site Built) (poisoned : Bool) (frame : Frame Config Stream Wakers Batch) :
    ∀ reply ∈ ((site.guarded outside).prologue poisoned frame).1, reply.poison = false := by
  cases site with
  | entry called =>
    cases called with
    | configure => exact poisonCheck_quiet rfl (by simp)
    | toArrowStream => exact poisonCheck_quiet rfl (by split <;> simp [Reply.plain])
    | next => exact poisonCheck_quiet rfl (by split <;> simp [Reply.plain])
    | pollNext waker =>
      refine poisonCheck_quiet rfl ?_
      split
      · simp [Reply.plain]
      · split <;> simp [Reply.plain]
    | scanAsync callback =>
      intro reply member
      cases callback <;> cases poisoned <;>
        simp_all [Site.guarded, Entry.guarded, lanceScannerScanAsync, scanAsyncRefusal, Reply.plain]
      all_goals subst member; rfl
    | close => simp [Site.guarded, Entry.guarded, lanceScannerClose, swallowUnwind]
  | task => simp [Site.guarded, scanAsyncTask]
  | read index =>
    simp only [Site.guarded, GuardedReader.next]
    split <;> simp [Reply.plain]
  | release index =>
    simp only [Site.guarded, GuardedReader.drop, swallowUnwind]
    split <;> simp [Reply.plain]

theorem body_quiet (site : Site Built) : (site.guarded outside).body.Ensures Quiet := by
  cases site with
  | entry called =>
    cases called with
    | configure =>
      refine quiet_bind _ fun result => ?_
      cases result with
      | ok value => exact quiet_bind _ fun _ => rfl
      | error error => exact quiet_bind _ fun _ => rfl
    | toArrowStream =>
      refine quiet_bind _ fun result => ?_
      cases result with
      | ok value => exact quiet_bind _ fun _ => rfl
      | error error => exact quiet_bind _ fun _ => rfl
    | next => exact quiet_bind _ fun _ => rfl
    | pollNext waker => exact quiet_bind _ fun _ => rfl
    | scanAsync callback =>
      refine quiet_bind _ fun result => ?_
      cases result with
      | ok builtScanner => exact rfl
      | error error => exact rfl
    | close => exact quiet_bind _ fun _ => rfl
  | task => exact quiet_bind _ fun _ => rfl
  | read index =>
    refine quiet_bind _ fun frame => ?_
    cases (frame.shared.exported[index]?).bind GuardedReader.live with
    | none => exact rfl
    | some inner =>
      refine quiet_bind _ fun item => ?_
      match item with
      | some (.ok batch) => exact rfl
      | some (.error error) => exact quiet_bind _ fun _ => rfl
      | none => exact rfl
  | release index => exact quiet_bind _ fun _ => rfl

theorem caught_poison (site : Site Built) (payload : Payload) (frame : Frame Config Stream Wakers Batch) :
    ((site.guarded outside).caught payload frame).1.poison = true ↔ site.Poisons := by
  cases site with
  | entry called =>
    cases called <;> simp [Site.guarded, Entry.guarded, Site.Poisons, scannerFfiTry, ffiGuardWith,
      lanceScannerToArrowStream, lanceScannerNext, lanceScannerPollNext, lanceScannerScanAsync, lanceScannerClose,
      swallowUnwind, Reply.plain]
  | task => simp [Site.guarded, Site.Poisons, scanAsyncTask]
  | read => simp [Site.guarded, Site.Poisons, GuardedReader.next]
  | release => simp [Site.guarded, Site.Poisons, GuardedReader.drop, swallowUnwind, Reply.plain]


/-- What a poisoned handle answers: the call's sentinel, the Panic code on the
calling thread, NULL in the slot of an iteration call, and for an asynchronous scan
a failed completion that carries the code. -/
structure Entry.Refusal (entry : Entry) (reply : Reply Stream Built Batch) (caller : Caller Stream Batch) :
    Prop where
  sentinel : reply.value = match entry with
    | configure | toArrowStream | next => .code (-1)
    | pollNext _ => .status .error
    | scanAsync _ | close => .void
  code : caller.lastError.map LastError.code = some .panic
  slot : (entry = .next ∨ ∃ waker, entry = .pollNext waker) → ∀ held ∈ caller.out, held = none
  completion : ∀ callback, entry = .scanAsync callback →
    ∃ message, reply.effect = .dispatch (failure .panic message)

/-- A reply that hands nothing on but, at most, a failed completion. -/
def Reply.Inert (reply : Reply Stream Built Batch) : Prop :=
  reply.poison = false ∧ (reply.effect = .none ∨ ∃ code message, reply.effect = .dispatch (failure code message))

theorem prologue_of_poisoned {entry : Entry} (opened : entry ≠ .close) (callback : entry ≠ .scanAsync false)
    (frame : Frame Config Stream Wakers Batch) :
    ∃ reply after, (entry.guarded outside).prologue true frame = (some reply, after) ∧
      entry.Refusal reply after.caller ∧ reply.Inert ∧ after.shared = frame.shared := by
  cases entry with
  | configure => exact ⟨_, _, rfl, ⟨rfl, rfl, by simp, by simp⟩, ⟨rfl, .inl rfl⟩, rfl⟩
  | toArrowStream => exact ⟨_, _, rfl, ⟨rfl, rfl, by simp, by simp⟩, ⟨rfl, .inl rfl⟩, rfl⟩
  | next => exact ⟨_, _, rfl, ⟨rfl, rfl, by simp [Frame.withOut, Frame.withError], by simp⟩, ⟨rfl, .inl rfl⟩, rfl⟩
  | pollNext waker =>
    exact ⟨_, _, rfl, ⟨rfl, rfl, by simp [Frame.withOut, Frame.withError], by simp⟩, ⟨rfl, .inl rfl⟩, rfl⟩
  | scanAsync given =>
    cases given with
    | false => exact absurd rfl callback
    | true => exact ⟨_, _, rfl, ⟨rfl, rfl, by simp, fun _ _ => ⟨_, rfl⟩⟩, ⟨rfl, .inr ⟨_, _, rfl⟩⟩, rfl⟩
  | close => exact absurd rfl opened

end Parts

namespace System

variable {system started before after : System Config Stream Wakers Built Batch}
variable {reply : Reply Stream Built Batch} {event : Event Stream Built Batch}

@[simp] theorem settle_poisoned : (system.settle reply).poisoned = (system.poisoned || reply.poison) := by
  unfold settle
  split <;> rfl

@[simp] theorem settle_running : (system.settle reply).running = system.running := by
  unfold settle
  split <;> rfl

theorem settle_inert (inert : reply.Inert) : system.settle reply = system := by
  obtain ⟨quiet, effect | ⟨code, message, effect⟩⟩ := inert
  · simp [settle, quiet, effect]
  · simp [settle, quiet, effect, failure]

theorem Starts.call_eq {entry : Entry} (opened : entry ≠ .close) (starts : system.Starts (.entry entry) started) :
    started = system := by
  cases starts with
  | call => rfl
  | close => exact absurd rfl opened

theorem Starts.poisoned {site : Site Built} (starts : system.Starts site started) :
    started.poisoned = system.poisoned := by
  cases starts <;> rfl

theorem Starts.running {site : Site Built} (starts : system.Starts site started) :
    started.running = system.running := by
  cases starts <;> rfl

/-- No running body will store to the flag when it returns. -/
def Guards (system : System Config Stream Wakers Built Batch) : Prop :=
  ∀ activity ∈ system.running, activity.program.Ensures Quiet

theorem guards_step (guards : before.Guards) (step : Step before event after) : after.Guards := by
  cases step with
  | refuse starts early =>
    intro activity member
    simp only [settle_running, starts.running] at member
    exact guards activity member
  | begin starts passed =>
    intro activity member
    rcases List.mem_append.mp member with old | new
    · exact guards activity old
    · rw [List.mem_singleton.mp new]
      exact body_quiet _ _
  | @run earlier later running update rest split ends =>
    intro activity member
    have quiet := guards running (by simp [split])
    rw [ends] at quiet
    rcases List.mem_append.mp member with old | new
    · exact guards activity (by simp [split, old])
    · rcases List.mem_cons.mp new with same | old
      · rw [same]
        exact quiet _
      · exact guards activity (by simp [split, old])
  | finish split ends =>
    intro activity member
    simp only [settle_running] at member
    exact guards activity (by rcases List.mem_append.mp member with old | old <;> simp [split, old])
  | unwind split ends arm =>
    intro activity member
    simp only [settle_running] at member
    exact guards activity (by rcases List.mem_append.mp member with old | old <;> simp [split, old])

theorem poisoned_step (guards : before.Guards) (step : Step before event after) :
    after.poisoned = true ↔ before.poisoned = true ∨ event.Poisons := by
  cases step with
  | @refuse _ site outside caller _ _ starts early =>
    have quiet := prologue_quiet outside site before.poisoned ⟨before.shared, caller⟩
    rw [early] at quiet
    simp [quiet _ rfl, starts.poisoned, Event.Poisons]
  | begin starts passed => simp [starts.poisoned, Event.Poisons]
  | run split ends => simp [Event.Poisons]
  | @finish _ _ activity _ split ends =>
    have quiet := guards activity (by simp [split])
    rw [ends] at quiet
    have kept : _ = false := quiet
    simp [kept, Event.Poisons]
  | @unwind _ _ activity payload _ _ split ends arm =>
    have poisons := caught_poison activity.outside activity.site payload ⟨before.shared, activity.caller⟩
    rw [arm] at poisons
    simp [Event.Poisons, poisons]

/-- On a poisoned handle a call ends where it starts. -/
theorem call_of_poisoned (step : Step before event after) (poisoned : before.poisoned = true) {entry : Entry}
    (opened : entry ≠ .close) (callback : entry ≠ .scanAsync false) (calls : event.Calls entry) :
    ∃ reply caller, event = .refused (.entry entry) reply caller ∧ entry.Refusal reply caller ∧
      after = before := by
  cases step with
  | @refuse started site outside caller reply frame starts early =>
    cases site with
    | entry called =>
      obtain rfl : called = entry := calls
      obtain ⟨expected, reached, refused, refusal, inert, untouched⟩ :=
        prologue_of_poisoned outside opened callback ⟨before.shared, caller⟩
      simp only [Site.guarded, poisoned, refused, Prod.mk.injEq, Option.some.injEq] at early
      obtain ⟨rfl, rfl⟩ := early
      refine ⟨expected, reached.caller, rfl, refusal, ?_⟩
      rw [settle_inert inert, starts.call_eq opened, untouched]
    | task | read | release => exact absurd calls (by simp [Event.Calls])
  | @begin started site outside caller frame starts passed =>
    cases site with
    | entry called =>
      obtain rfl : called = entry := calls
      obtain ⟨reply, reached, refused, -⟩ :=
        prologue_of_poisoned outside opened callback ⟨before.shared, caller⟩
      simp only [Site.guarded, poisoned, refused, Prod.mk.injEq, reduceCtorEq, false_and] at passed
    | task | read | release => exact absurd calls (by simp [Event.Calls])
  | run | finish | unwind => exact absurd calls (by simp [Event.Calls])

end System

variable {config : Config} {pollWakers : Wakers} {trace : List (Event Stream Built Batch)}
variable {system : System Config Stream Wakers Built Batch}

theorem run_guards (run : Run Step (System.new config pollWakers) trace system) : system.Guards :=
  run.invariant (by simp [System.Guards, System.new]) System.guards_step

theorem run_poisoned_iff (run : Run Step (System.new config pollWakers) trace system) :
    system.poisoned = true ↔ ∃ event ∈ trace, event.Poisons := by
  have raised := run.raised_iff (fun system => system.poisoned = true) Event.Poisons
    (by simp [System.Guards, System.new]) System.guards_step System.poisoned_step
  simpa [System.new] using raised

/-- The flag is set exactly by the panics caught in calls, tasks and stream reads,
it stays set, and from then on every call but close is refused where it starts. -/
theorem scanner_poison_protocol (run : Run Step (System.new config pollWakers) trace system) :
    (system.poisoned = true ↔ ∃ event ∈ trace, event.Poisons) ∧
      (∀ later last, Run Step system later last → system.poisoned = true → last.poisoned = true) ∧
      ∀ event next, Step system event next →
        (next.poisoned = true ↔ system.poisoned = true ∨ event.Poisons) ∧
        ∀ entry, system.poisoned = true → entry ≠ .close → entry ≠ .scanAsync false → event.Calls entry →
          ∃ reply caller, event = .refused (.entry entry) reply caller ∧ entry.Refusal reply caller ∧
            next = system := by
  refine ⟨run_poisoned_iff run, ?_, ?_⟩
  · intro later last more poisoned
    obtain ⟨event, member, poisons⟩ := (run_poisoned_iff run).mp poisoned
    exact (run_poisoned_iff (run.append more)).mpr ⟨event, List.mem_append_left _ member, poisons⟩
  · intro event next step
    refine ⟨System.poisoned_step (run_guards run) step, ?_⟩
    intro entry poisoned opened callback calls
    exact System.call_of_poisoned step poisoned opened callback calls

def sampleNew : System Unit Unit Unit Unit Unit := .new () ()

def samplePanicking : Activity Unit Unit Unit Unit Unit :=
  ⟨.entry .configure, samplePanic, ⟨none, none⟩, .finish (.panicked (.text "index out of bounds"))⟩

def sampleRunning : System Unit Unit Unit Unit Unit := { sampleNew with running := [samplePanicking] }

theorem scanner_poison_protocol_sample :
    ∃ trace system, Run Step sampleNew trace system ∧ system.poisoned = true ∧
      ∀ event next, Step system event next → event.Calls .next → next = system := by
  have starts : sampleNew.Starts (.entry .configure) sampleNew := .call rfl (by decide)
  have passed : ((Site.entry .configure).guarded samplePanic).prologue false ⟨sampleNew.shared, ⟨none, none⟩⟩ =
      (none, ⟨sampleNew.shared, ⟨none, none⟩⟩) := rfl
  have began : Step sampleNew (.began (.entry .configure)) sampleRunning := .begin starts passed
  have split : sampleRunning.running = [] ++ samplePanicking :: [] := rfl
  have run := (Run.single began).snoc (Step.unwind split rfl rfl)
  have protocol := scanner_poison_protocol run
  have poisoned := protocol.1.mpr ⟨_, List.mem_append_right _ (List.mem_singleton.mpr rfl), by
    simp [Event.Poisons, Site.Poisons, samplePanicking]⟩
  refine ⟨_, _, run, poisoned, ?_⟩
  intro event next step calls
  obtain ⟨-, refuses⟩ := protocol.2.2 event next step
  obtain ⟨reply, caller, -, -, same⟩ := refuses .next poisoned (by decide) (by decide) calls
  exact same

end LanceC.Scanner
