import LanceC.Scanner.AsyncDispatch

/-! Every asynchronous scan is completed exactly once: what a completion carries, the
invariant over messages in flight, and the end of all work. -/

namespace LanceC.Scanner

open Ffi Logic Machine

variable {Config Stream Wakers Built Batch Scan Thread Scanner : Type}

def Cause.Panicked : Cause Stream → Prop
  | ended (.panicked _) => True
  | refused .. | ended (.returned _) => False

/-- The stream of the scan was built. -/
def Cause.StreamBuilt : Cause Stream → Prop
  | ended (.returned (.ok _)) => True
  | refused .. | ended _ => False

/-- A completion says what became of the scan. -/
structure DispatcherMessage.Reports (message : DispatcherMessage Stream) (cause : Cause Stream) : Prop where
  built : cause.StreamBuilt → message.status = 0 ∧ message.result.isSome = true ∧ message.error = none
  failed : ¬cause.StreamBuilt → message.status = -1 ∧ message.result = none ∧ message.error.isSome = true
  panicked : cause.Panicked → message.error.map Prod.fst = some .panic

theorem refusal_reports (code : LanceErrorCode) (text : String) :
    (failure code text : DispatcherMessage Stream).Reports (.refused code text) :=
  ⟨False.elim, fun _ => ⟨rfl, rfl, rfl⟩, False.elim⟩

theorem completion_reports (result : Except (LanceErrorCode × String) (GuardedReader Stream)) :
    (completion result).Reports (.ended (.returned result)) := by
  cases result with
  | ok reader => exact ⟨fun _ => ⟨rfl, rfl, rfl⟩, fun failed => absurd trivial failed, False.elim⟩
  | error error => exact ⟨False.elim, fun _ => ⟨rfl, rfl, rfl⟩, False.elim⟩

theorem panicCompletion_reports (payload : Payload) :
    (panicCompletion payload : DispatcherMessage Stream).Reports (.ended (.panicked payload)) :=
  ⟨False.elim, fun _ => ⟨rfl, rfl, rfl⟩, fun _ => rfl⟩

namespace Phase

/-- The completion the scan has come to and not yet delivered. -/
def message : Phase Config Stream Wakers Built Batch Thread → Option (DispatcherMessage Stream)
  | dispatching _ message | queued message | installed _ message => some message
  | waiting | settingUp _ | spawned _ | streaming _ | inCallback _ | finished => none

def Delivered : Phase Config Stream Wakers Built Batch Thread → Prop
  | inCallback _ | finished => True
  | waiting | settingUp _ | spawned _ | streaming _ | dispatching .. | queued _ | installed .. => False

/-- The checks are passed and no completion has been produced. -/
def Early : Phase Config Stream Wakers Built Batch Thread → Prop
  | settingUp _ | spawned _ | streaming _ => True
  | waiting | dispatching .. | queued _ | installed .. | inCallback _ | finished => False

variable {phase : Phase Config Stream Wakers Built Batch Thread}

theorem Early.not_delivered (early : phase.Early) : ¬phase.Delivered := by
  cases phase <;> simp_all [Early, Delivered]

theorem Early.message_none (early : phase.Early) : phase.message = none := by
  cases phase <;> simp_all [Early, message]

theorem not_delivered_of_message {held : DispatcherMessage Stream} (holds : phase.message = some held) :
    ¬phase.Delivered := by
  cases phase <;> simp_all [message, Delivered]

/-- The phases a step of work leads down to. -/
inductive Below : Phase Config Stream Wakers Built Batch Thread → Phase Config Stream Wakers Built Batch Thread →
    Prop where
  | setUp {update rest frame} : Below (.settingUp (rest frame)) (.settingUp (.access update rest))
  | setUpEnded {outcome thread message} : Below (.dispatching thread message) (.settingUp (.finish outcome))
  | setUpSpawned {outcome scanner} : Below (.spawned scanner) (.settingUp (.finish outcome))
  | start {scanner program} : Below (.streaming program) (.spawned scanner)
  | stream {update rest} : Below (.streaming (rest ())) (.streaming (.access update rest))
  | streamEnded {outcome thread message} : Below (.dispatching thread message) (.streaming (.finish outcome))
  | send {thread message} : Below (.queued message) (.dispatching thread message)
  | deliverHere {thread message} : Below (.installed thread message) (.dispatching thread message)
  | receive {thread message} : Below (.installed thread message) (.queued message)
  | invoke {thread message} : Below (.inCallback thread) (.installed thread message)
  | callbackReturns {thread} : Below .finished (.inCallback thread)

theorem acc_inCallback (thread : Thread) :
    Acc Below (inCallback thread : Phase Config Stream Wakers Built Batch Thread) := by
  refine ⟨_, fun below down => ?_⟩
  cases down
  exact ⟨_, fun below down => by cases down⟩

theorem acc_installed (thread : Thread) (message : DispatcherMessage Stream) :
    Acc Below (installed thread message : Phase Config Stream Wakers Built Batch Thread) := by
  refine ⟨_, fun below down => ?_⟩
  cases down
  exact acc_inCallback thread

theorem acc_dispatching (thread : Thread) (message : DispatcherMessage Stream) :
    Acc Below (dispatching thread message : Phase Config Stream Wakers Built Batch Thread) := by
  refine ⟨_, fun below down => ?_⟩
  cases down with
  | send =>
    refine ⟨_, fun below down => ?_⟩
    cases down
    exact acc_installed _ message
  | deliverHere => exact acc_installed thread message

theorem acc_streaming (program : Program Unit (Except (LanceErrorCode × String) (GuardedReader Stream))) :
    Acc Below (streaming program : Phase Config Stream Wakers Built Batch Thread) := by
  induction program with
  | finish outcome =>
    refine ⟨_, fun below down => ?_⟩
    cases down
    exact acc_dispatching _ _
  | access update rest ih =>
    refine ⟨_, fun below down => ?_⟩
    cases down
    exact ih ()

theorem acc_spawned (scanner : Built) :
    Acc Below (spawned scanner : Phase Config Stream Wakers Built Batch Thread) := by
  refine ⟨_, fun below down => ?_⟩
  cases down
  exact acc_streaming _

theorem acc_settingUp
    (program : Program (Frame Config Stream Wakers Batch) (Except (LanceErrorCode × String) Built)) :
    Acc Below (settingUp program : Phase Config Stream Wakers Built Batch Thread) := by
  induction program with
  | finish outcome =>
    refine ⟨_, fun below down => ?_⟩
    cases down with
    | setUpEnded => exact acc_dispatching _ _
    | setUpSpawned => exact acc_spawned _
  | access update rest ih =>
    refine ⟨_, fun below down => ?_⟩
    cases down
    exact ih _

theorem wellFounded_below :
    WellFounded (Below : Phase Config Stream Wakers Built Batch Thread → _ → Prop) := by
  refine ⟨fun phase => ?_⟩
  cases phase with
  | waiting | finished => exact ⟨_, fun below down => by cases down⟩
  | settingUp program => exact acc_settingUp program
  | spawned scanner => exact acc_spawned scanner
  | streaming program => exact acc_streaming program
  | dispatching thread message => exact acc_dispatching thread message
  | queued message =>
    refine ⟨_, fun below down => ?_⟩
    cases down
    exact acc_installed _ message
  | installed thread message => exact acc_installed thread message
  | inCallback thread => exact acc_inCallback thread

theorem Below.ne_waiting {next : Phase Config Stream Wakers Built Batch Thread} (down : Below next phase) :
    phase ≠ .waiting ∧ next ≠ .waiting := by
  cases down <;> simp

end Phase

namespace AsyncSystem

section Invariant

variable (calls : Scan → ScanCall Config Stream Wakers Built Batch Thread Scanner)
variable (system : AsyncSystem Config Stream Wakers Built Batch Scan Thread Scanner)

/-- The message is the completion the scan came to, its panic known to the scanner. -/
def Completes (scan : Scan) (message : DispatcherMessage Stream) : Prop :=
  ∃ cause, system.cause scan = some cause ∧ message.Reports cause ∧
    (cause.Panicked → system.isPoisoned (calls scan).scanner = true)

/-- The callback got its scan's completion, its own error and, after a panic, a
poisoned scanner. -/
structure Correct (known : Scan → Option (Cause Stream)) (delivery : Delivery Stream Scan Thread) : Prop where
  completes : ∃ cause, known delivery.scan = some cause ∧ delivery.message.Reports cause ∧
    (cause.Panicked → delivery.poisoned = true)
  lastError : delivery.lastError = delivery.message.lastError

def deliveries [DecidableEq Scan] (scan : Scan) : List (Delivery Stream Scan Thread) :=
  system.delivered.filter fun delivery => delivery.scan = scan

structure Invariant [DecidableEq Scan] : Prop where
  queued : ∀ scan message, (scan, message) ∈ system.dispatcher.queue ↔ system.phase scan = .queued message
  distinct : (system.dispatcher.queue.map Prod.fst).Nodup
  installed : ∀ scan thread message, system.phase scan = .installed thread message →
    system.lastError thread = message.lastError
  handled : ∀ scan, (system.phase scan).Early → (calls scan).scanner.isSome = true
  completes : ∀ scan message, (system.phase scan).message = some message → system.Completes calls scan message
  once : ∀ scan, (system.phase scan).Delivered → (system.deliveries scan).length = 1
  never : ∀ scan, ¬(system.phase scan).Delivered → system.deliveries scan = []
  correct : ∀ delivery ∈ system.delivered, Correct system.cause delivery

end Invariant

variable {calls : Scan → ScanCall Config Stream Wakers Built Batch Thread Scanner}
variable {system : AsyncSystem Config Stream Wakers Built Batch Scan Thread Scanner}
variable [DecidableEq Scan]

omit [DecidableEq Scan] in
theorem poison_phase [DecidableEq Scanner] (scanner : Option Scanner) :
    (system.poison scanner).phase = system.phase := by
  cases scanner <;> rfl

/-- Nothing of this depends on what the host does elsewhere. -/
theorem Invariant.host (invariant : system.Invariant calls) {handle : Scanner → ScanHandle Config Stream Wakers}
    {poisoned : Scanner → Bool} {lastError : Thread → Option LastError}
    (up : ∀ scanner, system.poisoned scanner = true → poisoned scanner = true)
    (free : ∀ thread, system.Free thread ∨ lastError thread = system.lastError thread) :
    { system with handle, poisoned, lastError }.Invariant calls where
  queued := invariant.queued
  distinct := invariant.distinct
  installed := by
    intro scan thread message installed
    rcases free thread with free | same
    · exact absurd installed (free scan message)
    · exact same.trans (invariant.installed scan thread message installed)
  handled := invariant.handled
  completes := by
    intro scan message held
    obtain ⟨cause, known, reports, poisons⟩ := invariant.completes scan message held
    refine ⟨cause, known, reports, ?_⟩
    intro panicked
    have poisons := poisons panicked
    cases scanner : (calls scan).scanner with
    | none => simp [isPoisoned, scanner] at poisons
    | some scanner =>
      simp only [isPoisoned, scanner, Option.map_some, Option.getD_some] at poisons ⊢
      exact up _ poisons
  once := invariant.once
  never := invariant.never
  correct := invariant.correct

theorem Invariant.setError [DecidableEq Thread] (invariant : system.Invariant calls) {thread : Thread}
    (free : system.Free thread)
    (error : Option LastError) : (system.setError thread error).Invariant calls := by
  refine invariant.host (fun _ => id) fun other => ?_
  by_cases same : other = thread
  · exact .inl (same ▸ free)
  · exact .inr (Function.update_of_ne same _ _)

theorem Invariant.poison [DecidableEq Scanner] (invariant : system.Invariant calls) (scanner : Option Scanner) :
    (system.poison scanner).Invariant calls := by
  cases scanner with
  | none => exact invariant
  | some scanner =>
    refine invariant.host ?_ fun _ => .inr rfl
    intro other poisoned
    by_cases same : other = scanner
    · simp [same]
    · simpa [Function.update_of_ne same] using poisoned

theorem Invariant.restore [DecidableEq Thread] [DecidableEq Scanner] (invariant : system.Invariant calls)
    {thread : Thread} (free : system.Free thread)
    (scanner : Scanner) (frame : Frame Config Stream Wakers Batch) :
    (system.restore scanner thread frame).Invariant calls :=
  (invariant.setError free frame.caller.lastError).host (fun _ => id) fun _ => .inr rfl

section Moves

variable {scan : Scan} {next : Phase Config Stream Wakers Built Batch Thread}

/-- One scan moves on, short of entering its callback, perhaps in or out of the queue. -/
theorem Invariant.advance (invariant : system.Invariant calls) {dispatcher : Dispatcher Scan Stream}
    (queue : ∀ other message, (other, message) ∈ dispatcher.queue ↔
      if other = scan then next = .queued message else (other, message) ∈ system.dispatcher.queue)
    (distinct : (dispatcher.queue.map Prod.fst).Nodup)
    (installed : ∀ thread message, next = .installed thread message → system.lastError thread = message.lastError)
    (handled : next.Early → (calls scan).scanner.isSome = true)
    (completes : ∀ message, next.message = some message → system.Completes calls scan message)
    (same : next.Delivered ↔ (system.phase scan).Delivered) :
    { system.move scan next with dispatcher }.Invariant calls where
  queued := by
    intro other message
    simp only [queue, AsyncSystem.move, Function.update_apply]
    split
    · exact Iff.rfl
    · exact invariant.queued other message
  distinct := distinct
  installed := (Function.forall_update_iff system.phase fun _ phase => ∀ thread message, phase = .installed thread message →
      system.lastError thread = message.lastError).mpr
    ⟨installed, fun other _ => invariant.installed other⟩
  handled := (Function.forall_update_iff system.phase fun other phase => phase.Early → (calls other).scanner.isSome = true).mpr
    ⟨handled, fun other _ => invariant.handled other⟩
  completes := (Function.forall_update_iff system.phase fun other phase => ∀ message, phase.message = some message →
      system.Completes calls other message).mpr
    ⟨completes, fun other _ => invariant.completes other⟩
  once := (Function.forall_update_iff system.phase fun other phase => phase.Delivered →
      (system.deliveries other).length = 1).mpr
    ⟨fun delivered => invariant.once scan (same.mp delivered), fun other _ => invariant.once other⟩
  never := (Function.forall_update_iff system.phase fun other phase => ¬phase.Delivered → system.deliveries other = []).mpr
    ⟨fun waiting => invariant.never scan fun delivered => waiting (same.mpr delivered),
      fun other _ => invariant.never other⟩
  correct := invariant.correct

/-- A move that leaves the queue and all installed errors alone. -/
theorem Invariant.move (invariant : system.Invariant calls) (outside : ∀ message, system.phase scan ≠ .queued message)
    (unqueued : ∀ message, next ≠ .queued message) (uninstalled : ∀ thread message, next ≠ .installed thread message)
    (handled : next.Early → (calls scan).scanner.isSome = true)
    (completes : ∀ message, next.message = some message → system.Completes calls scan message)
    (same : next.Delivered ↔ (system.phase scan).Delivered) : (system.move scan next).Invariant calls := by
  refine invariant.advance ?_ invariant.distinct (fun _ _ reached => absurd reached (uninstalled _ _)) handled
    completes same
  intro other message
  split
  · next here =>
    subst here
    rw [invariant.queued]
    exact iff_of_false (outside message) (unqueued message)
  · exact Iff.rfl

/-- Recording the cause of a scan that has not come to its completion before. -/
theorem Invariant.know (invariant : system.Invariant calls) (empty : (system.phase scan).message = none)
    (fresh : ¬(system.phase scan).Delivered) (cause : Cause Stream) :
    { system with cause := Function.update system.cause scan (some cause) }.Invariant calls where
  queued := invariant.queued
  distinct := invariant.distinct
  installed := invariant.installed
  handled := invariant.handled
  completes := by
    intro other message held
    obtain ⟨known, same, rest⟩ := invariant.completes other message held
    have away : other ≠ scan := by
      rintro rfl
      have : some message = none := held.symm.trans empty
      cases this
    exact ⟨known, (Function.update_of_ne away ..).trans same, rest⟩
  once := invariant.once
  never := invariant.never
  correct := by
    intro delivery member
    obtain ⟨⟨known, same, rest⟩, error⟩ := invariant.correct delivery member
    have away : delivery.scan ≠ scan := by
      intro here
      have found : delivery ∈ system.deliveries scan := List.mem_filter.mpr ⟨member, by simp [here]⟩
      rw [invariant.never scan fresh] at found
      cases found
    exact ⟨⟨known, (Function.update_of_ne away ..).trans same, rest⟩, error⟩

/-- A completion is produced. -/
theorem Invariant.produce (invariant : system.Invariant calls) {thread : Thread} {cause : Cause Stream}
    {message : DispatcherMessage Stream} (empty : (system.phase scan).message = none)
    (fresh : ¬(system.phase scan).Delivered) (reports : message.Reports cause)
    (poisons : cause.Panicked → system.isPoisoned (calls scan).scanner = true) :
    (system.produce scan thread cause message).Invariant calls := by
  refine (invariant.know empty fresh cause).move ?_ (by simp) (by simp) False.elim ?_ (iff_of_false id fresh)
  · intro queued waiting
    have held : system.phase scan = .queued queued := waiting
    simp [held, Phase.message] at empty
  · intro produced same
    obtain rfl : message = produced := by simpa [Phase.message] using same
    exact ⟨cause, Function.update_self .., reports, poisons⟩

/-- The arm of a caught panic, in a set-up and in a task. -/
theorem Invariant.panic [DecidableEq Scanner] (invariant : system.Invariant calls)
    (early : (system.phase scan).Early)
    (thread : Thread) (payload : Payload) :
    ((system.poison (calls scan).scanner).produce scan thread (.ended (.panicked payload))
      (panicCompletion payload)).Invariant calls := by
  obtain ⟨scanner, known⟩ := Option.isSome_iff_exists.mp (invariant.handled scan early)
  have poisoned := invariant.poison (calls scan).scanner
  rw [known] at poisoned ⊢
  refine poisoned.produce early.message_none early.not_delivered (panicCompletion_reports payload) ?_
  intro _
  simp [known, isPoisoned, AsyncSystem.poison]

/-- The callback starts: the delivery is recorded, once. -/
theorem Invariant.enterCallback (invariant : system.Invariant calls) {thread : Thread}
    {message : DispatcherMessage Stream} (reached : system.phase scan = .installed thread message) :
    (system.enterCallback (calls scan).scanner scan thread message).Invariant calls := by
  have held : (system.phase scan).message = some message := by rw [reached]; rfl
  have fresh : system.deliveries scan = [] := invariant.never scan (Phase.not_delivered_of_message held)
  refine ⟨?_, invariant.distinct, ?_, ?_, ?_, ?_, ?_, ?_⟩
  · intro other queued
    have before := invariant.queued other queued
    simp only [AsyncSystem.enterCallback, AsyncSystem.move, Function.update_apply]
    split
    · next here => simpa [here, reached] using before
    · exact before
  · exact (Function.forall_update_iff system.phase fun _ phase => ∀ elsewhere queued, phase = .installed elsewhere queued →
        system.lastError elsewhere = queued.lastError).mpr
      ⟨by simp, fun other _ => invariant.installed other⟩
  · exact (Function.forall_update_iff system.phase fun other phase => phase.Early → (calls other).scanner.isSome = true).mpr
      ⟨False.elim, fun other _ => invariant.handled other⟩
  · exact (Function.forall_update_iff system.phase fun other phase => ∀ queued, phase.message = some queued →
        system.Completes calls other queued).mpr
      ⟨by simp [Phase.message], fun other _ => invariant.completes other⟩
  · intro other delivered
    by_cases here : other = scan
    · subst here
      have earlier : system.delivered.filter (fun delivery => delivery.scan = other) = [] := fresh
      simp [deliveries, AsyncSystem.enterCallback, List.filter_append, earlier]
    · simp only [AsyncSystem.enterCallback, AsyncSystem.move, Function.update_of_ne here] at delivered
      simpa [deliveries, AsyncSystem.enterCallback, Ne.symm here] using invariant.once other delivered
  · intro other waiting
    by_cases here : other = scan
    · simp [here, AsyncSystem.enterCallback, AsyncSystem.move, Phase.Delivered] at waiting
    · simp only [AsyncSystem.enterCallback, AsyncSystem.move, Function.update_of_ne here] at waiting
      simpa [deliveries, AsyncSystem.enterCallback, Ne.symm here] using invariant.never other waiting
  · intro delivery member
    rcases List.mem_append.mp member with old | new
    · exact invariant.correct delivery old
    · obtain rfl := List.mem_singleton.mp new
      exact ⟨invariant.completes scan message held, invariant.installed scan thread message reached⟩

end Moves

/-- What every step keeps. -/
theorem invariant_step [DecidableEq Thread] [DecidableEq Scanner] {dispatcherThread : Thread}
    {before after : AsyncSystem Config Stream Wakers Built Batch Scan Thread Scanner} {action : Action Scan}
    (invariant : before.Invariant calls) (step : Step calls dispatcherThread before action after) :
    after.Invariant calls := by
  cases step with
  | @refuse scan code text waiting free refusal =>
    exact (invariant.setError free _).produce (by simp [setError, waiting, Phase.message])
      (by simp [setError, waiting, Phase.Delivered]) (refusal_reports code text) False.elim
  | @begin scan waiting passed =>
    refine invariant.move (by simp [waiting]) (by simp) (by simp) ?_ (by simp [Phase.message])
      (by simp [waiting, Phase.Delivered])
    intro _
    cases scanner : (calls scan).scanner with
    | none => simp [scanner, scanAsyncRefusal] at passed
    | some scanner => rfl
  | setUp running handle free =>
    refine (invariant.restore free _ _).move (by simp [restore, setError, running]) (by simp) (by simp)
      (fun _ => by simp [handle]) (by simp [Phase.message]) ?_
    simp [restore, setError, running, Phase.Delivered]
  | @setUpFailed _ code text running =>
    exact invariant.produce (by simp [running, Phase.message]) (by simp [running, Phase.Delivered])
      (completion_reports (.error (code, text))) False.elim
  | @setUpSpawned scan builtScanner running =>
    refine invariant.move (by simp [running]) (by simp) (by simp) ?_ (by simp [Phase.message])
      (by simp [running, Phase.Delivered])
    exact fun _ => invariant.handled scan (by simp [running, Phase.Early])
  | setUpPanicked running => exact invariant.panic (by simp [running, Phase.Early]) _ _
  | @start scan builtScanner spawned =>
    refine invariant.move (by simp [spawned]) (by simp) (by simp) ?_ (by simp [Phase.message])
      (by simp [spawned, Phase.Delivered])
    exact fun _ => invariant.handled scan (by simp [spawned, Phase.Early])
  | @stream scan _ _ streaming =>
    refine invariant.move (by simp [streaming]) (by simp) (by simp) ?_ (by simp [Phase.message])
      (by simp [streaming, Phase.Delivered])
    exact fun _ => invariant.handled scan (by simp [streaming, Phase.Early])
  | @streamEnded _ result streaming =>
    exact invariant.produce (by simp [streaming, Phase.message]) (by simp [streaming, Phase.Delivered])
      (completion_reports result) False.elim
  | streamPanicked streaming => exact invariant.panic (by simp [streaming, Phase.Early]) _ _
  | @send scan thread message queue dispatching alive =>
    have absent : ∀ sent, (scan, sent) ∉ queue := by
      intro sent member
      have := (invariant.queued scan sent).mp (by rw [alive]; exact member)
      rw [dispatching] at this
      cases this
    refine invariant.advance ?_ ?_ (by simp) False.elim ?_ (by simp [dispatching, Phase.Delivered])
    · intro other sent
      rw [alive]
      split
      · next here =>
        subst here
        simp [Dispatcher.queue, absent, eq_comm]
      · next away => simp [Dispatcher.queue, away]
    · have distinct := invariant.distinct
      rw [alive] at distinct
      simp only [Dispatcher.queue, List.map_append, List.map_cons, List.map_nil]
      refine List.nodup_append.mpr ⟨distinct, by simp, ?_⟩
      rintro _ member _ last rfl
      obtain ⟨⟨_, sent⟩, found, rfl⟩ := List.mem_map.mp member
      obtain rfl := List.mem_singleton.mp last
      exact absent sent found
    · intro sent same
      exact invariant.completes scan sent (by rw [dispatching]; exact same)
  | @deliverHere scan thread message dispatching down free =>
    have empty : before.dispatcher.queue = [] := by rcases down with down | down <;> rw [down] <;> rfl
    refine (invariant.setError free message.lastError).advance ?_ invariant.distinct ?_ False.elim ?_
      (by simp [setError, dispatching, Phase.Delivered])
    · intro other sent
      simp [setError, empty]
    · rintro _ _ ⟨⟩
      exact Function.update_self ..
    · intro sent same
      exact (invariant.setError free _).completes scan sent (by simpa [setError, dispatching, Phase.message] using same)
  | @receive scan message queue alive idle =>
    have reached : before.phase scan = .queued message :=
      (invariant.queued scan message).mp (by rw [alive]; exact List.mem_cons_self)
    have distinct := invariant.distinct
    rw [alive] at distinct
    obtain ⟨absent, distinct⟩ := List.nodup_cons.mp distinct
    refine (invariant.setError idle.1 message.lastError).advance ?_ distinct ?_ False.elim ?_
      (by simp [setError, reached, Phase.Delivered])
    · intro other sent
      split
      · next here =>
        subst here
        refine iff_of_false (fun member => absent (List.mem_map.mpr ⟨_, member, rfl⟩)) (by simp)
      · next away => simp [setError, alive, Dispatcher.queue, away]
    · rintro _ _ ⟨⟩
      exact Function.update_self ..
    · intro sent same
      exact (invariant.setError idle.1 _).completes scan sent (by simpa [setError, reached, Phase.message] using same)
  | invoke installed => exact invariant.enterCallback installed
  | callbackReturns inside =>
    exact invariant.move (by simp [inside]) (by simp) (by simp) False.elim (by simp [Phase.message])
      (by simp [inside, Phase.Delivered])
  | dispatcherEnds alive idle =>
    have empty : before.dispatcher.queue = [] := by rw [alive]; rfl
    refine { invariant with queued := ?_, distinct := List.nodup_nil }
    intro scan message
    rw [← invariant.queued, empty]
    exact Iff.rfl
  | host up free => exact invariant.host up free

section Runs

variable [DecidableEq Thread] [DecidableEq Scanner] {dispatcherThread : Thread}
variable {before after first last : AsyncSystem Config Stream Wakers Built Batch Scan Thread Scanner}
variable {action : Action Scan} {trace : List (Action Scan)} {scan : Scan}

/-- Work on behalf of a scan brings that scan down, and moves no other. -/
theorem work_descends (invariant : before.Invariant calls)
    (step : Step calls dispatcherThread before (.work scan) after) :
    ∃ next, after.phase = Function.update before.phase scan next ∧ Phase.Below next (before.phase scan) := by
  cases step with
  | setUp running => exact ⟨_, rfl, by rw [running]; exact .setUp⟩
  | setUpFailed running => exact ⟨_, rfl, by rw [running]; exact .setUpEnded⟩
  | setUpSpawned running => exact ⟨_, rfl, by rw [running]; exact .setUpSpawned⟩
  | setUpPanicked running =>
    exact ⟨_, by simp only [produce, move, poison_phase]; rfl, by rw [running]; exact .setUpEnded⟩
  | start spawned => exact ⟨_, rfl, by rw [spawned]; exact .start⟩
  | stream streaming => exact ⟨_, rfl, by rw [streaming]; exact .stream⟩
  | streamEnded streaming => exact ⟨_, rfl, by rw [streaming]; exact .streamEnded⟩
  | streamPanicked streaming =>
    exact ⟨_, by simp only [produce, move, poison_phase]; rfl, by rw [streaming]; exact .streamEnded⟩
  | send dispatching => exact ⟨_, rfl, by rw [dispatching]; exact .send⟩
  | deliverHere dispatching => exact ⟨_, rfl, by rw [dispatching]; exact .deliverHere⟩
  | @receive _ message queue alive =>
    have reached := (invariant.queued scan message).mp (by rw [alive]; exact List.mem_cons_self)
    exact ⟨_, rfl, by rw [reached]; exact .receive⟩
  | invoke installed => exact ⟨_, rfl, by rw [installed]; exact .invoke⟩
  | callbackReturns inside => exact ⟨_, rfl, by rw [inside]; exact .callbackReturns⟩

/-- A thread that is not free can go on to its callback. -/
theorem free_or_work (calls : Scan → ScanCall Config Stream Wakers Built Batch Thread Scanner)
    (dispatcherThread thread : Thread) :
    system.Free thread ∨ ∃ worker next, Step calls dispatcherThread system (.work worker) next := by
  by_cases free : system.Free thread
  · exact .inl free
  · simp only [Free, ne_eq, not_forall, not_not] at free
    obtain ⟨scan, message, installed⟩ := free
    exact .inr ⟨scan, _, .invoke installed⟩

/-- As long as a called scan is not through, some scan has work to do. -/
theorem work_of_unfinished (invariant : system.Invariant calls) (called : system.phase scan ≠ .waiting)
    (unfinished : system.phase scan ≠ .finished) :
    ∃ worker next, Step calls dispatcherThread system (.work worker) next := by
  cases reached : system.phase scan with
  | waiting => exact absurd reached called
  | finished => exact absurd reached unfinished
  | settingUp program =>
    match program with
    | .finish (.returned (.error (code, text))) => exact ⟨scan, _, .setUpFailed reached⟩
    | .finish (.returned (.ok builtScanner)) => exact ⟨scan, _, .setUpSpawned reached⟩
    | .finish (.panicked payload) => exact ⟨scan, _, .setUpPanicked reached⟩
    | .access update rest =>
      obtain ⟨scanner, known⟩ := Option.isSome_iff_exists.mp (invariant.handled scan (by simp [reached, Phase.Early]))
      rcases free_or_work calls dispatcherThread (calls scan).caller with free | work
      · exact ⟨scan, _, .setUp reached known free⟩
      · exact work
  | spawned builtScanner => exact ⟨scan, _, .start reached⟩
  | streaming program =>
    match program with
    | .finish (.returned result) => exact ⟨scan, _, .streamEnded reached⟩
    | .finish (.panicked payload) => exact ⟨scan, _, .streamPanicked reached⟩
    | .access update rest => exact ⟨scan, _, .stream reached⟩
  | dispatching thread message =>
    rcases free_or_work calls dispatcherThread thread with free | work
    · cases down : system.dispatcher with
      | unavailable => exact ⟨scan, _, .deliverHere reached (.inl down) free⟩
      | gone => exact ⟨scan, _, .deliverHere reached (.inr down) free⟩
      | alive queue => exact ⟨scan, _, .send reached down⟩
    · exact work
  | queued message =>
    have member := (invariant.queued scan message).mpr reached
    rcases free_or_work calls dispatcherThread dispatcherThread with free | work
    · by_cases busy : ∃ other, system.phase other = .inCallback dispatcherThread
      · obtain ⟨other, inside⟩ := busy
        exact ⟨other, _, .callbackReturns inside⟩
      · have idle : system.Idle dispatcherThread := ⟨free, fun other inside => busy ⟨other, inside⟩⟩
        cases down : system.dispatcher with
        | unavailable | gone => simp [down, Dispatcher.queue] at member
        | alive queue =>
          cases queue with
          | nil => simp [down, Dispatcher.queue] at member
          | cons first rest => exact ⟨first.1, _, .receive down idle⟩
    · exact work
  | installed thread message => exact ⟨scan, _, .invoke reached⟩
  | inCallback thread => exact ⟨scan, _, .callbackReturns reached⟩

/-- The system before any scan was called. -/
def new (handle : Scanner → ScanHandle Config Stream Wakers) (poisoned : Scanner → Bool)
    (lastError : Thread → Option LastError) (dispatcher : Dispatcher Scan Stream) :
    AsyncSystem Config Stream Wakers Built Batch Scan Thread Scanner :=
  { handle, poisoned, lastError, dispatcher, phase := fun _ => .waiting, cause := fun _ => none, delivered := [] }

omit [DecidableEq Thread] [DecidableEq Scanner] in
theorem invariant_new {handle : Scanner → ScanHandle Config Stream Wakers} {poisoned : Scanner → Bool}
    {lastError : Thread → Option LastError} {dispatcher : Dispatcher Scan Stream} (empty : dispatcher.queue = []) :
    (new handle poisoned lastError dispatcher :
      AsyncSystem Config Stream Wakers Built Batch Scan Thread Scanner).Invariant calls where
  queued := by simp [new, empty]
  distinct := by simp [new, empty]
  installed := by simp [new]
  handled := by simp [new, Phase.Early]
  completes := by simp [new, Phase.message]
  once := by simp [new, Phase.Delivered]
  never := by simp [new, deliveries]
  correct := by simp [new]

/-- A scan leaves its first phase when it is called, and never returns to it. -/
theorem called_step (invariant : before.Invariant calls) (step : Step calls dispatcherThread before action after) :
    after.phase scan ≠ .waiting ↔ before.phase scan ≠ .waiting ∨ action = .call scan := by
  have called : ∀ {worker next}, after.phase = Function.update before.phase worker next → next ≠ .waiting →
      action = .call worker →
      (after.phase scan ≠ .waiting ↔ before.phase scan ≠ .waiting ∨ action = .call scan) := by
    rintro worker next moved started rfl
    rw [moved]
    by_cases here : scan = worker
    · simp [here, started]
    · simp [here, Ne.symm here]
  cases action with
  | call worker =>
    cases step with
    | refuse => exact called rfl (by simp) rfl
    | begin => exact called rfl (by simp) rfl
  | work worker =>
    obtain ⟨next, moved, down⟩ := work_descends invariant step
    rw [moved]
    by_cases here : scan = worker
    · subst here
      simp [down.ne_waiting]
    · simp [here]
  | dispatcherEnds => cases step; simp
  | host => cases step; simp

theorem run_invariant (invariant : first.Invariant calls) (run : Run (Step calls dispatcherThread) first trace last) :
    last.Invariant calls :=
  run.invariant invariant invariant_step

/-- Steps that belong to no scan. -/
def Action.Foreign : Action Scan → Prop
  | .dispatcherEnds | .host => True
  | .call _ | .work _ => False

theorem phase_foreign (run : Run (Step calls dispatcherThread) first trace last)
    (foreign : ∀ action ∈ trace, Action.Foreign action) : last.phase = first.phase := by
  induction run with
  | refl => rfl
  | @snoc _ _ labels action run step ih =>
    have same := ih fun action member => foreign action (List.mem_append_left _ member)
    have here := foreign action (List.mem_append_right _ (List.mem_singleton.mpr rfl))
    cases step with
    | dispatcherEnds | host => exact same
    | _ => cases here

variable (calls dispatcherThread) in
/-- A step of work, whatever has happened before it that belongs to no scan. -/
def Works (after before : AsyncSystem Config Stream Wakers Built Batch Scan Thread Scanner) : Prop :=
  ∃ trace middle scan, Run (Step calls dispatcherThread) before trace middle ∧
    (∀ action ∈ trace, Action.Foreign action) ∧ Step calls dispatcherThread middle (.work scan) after

/-- The work on finitely many scans comes to an end. -/
theorem acc_works (active : List Scan) (invariant : system.Invariant calls)
    (covers : ∀ scan, system.phase scan ≠ .waiting → scan ∈ active) :
    Acc (Works calls dispatcherThread) system := by
  have terminates : WellFounded (Descends (Phase.Below : Phase Config Stream Wakers Built Batch Thread → _ → Prop)
      active) := wellFounded_descends Phase.wellFounded_below active
  generalize position : system.phase = phases
  induction phases using terminates.induction generalizing system with
  | h phases ih =>
    subst position
    refine ⟨_, fun after work => ?_⟩
    obtain ⟨trace, middle, scan, run, foreign, step⟩ := work
    have same := phase_foreign run foreign
    have invariant := run_invariant invariant run
    obtain ⟨next, moved, down⟩ := work_descends invariant step
    rw [same] at moved down
    have member : scan ∈ active := covers scan down.ne_waiting.1
    refine ih after.phase ⟨scan, member, by simpa [moved] using down, ?_⟩ (invariant_step invariant step) ?_ rfl
    · intro other away
      rw [moved, Function.update_of_ne away]
    · intro other started
      by_cases here : other = scan
      · exact here ▸ member
      · exact covers other (by simpa [moved, here] using started)

section Completion

variable {handle : Scanner → ScanHandle Config Stream Wakers} {poisoned : Scanner → Bool}
variable {lastError : Thread → Option LastError} {dispatcher : Dispatcher Scan Stream}

theorem called_iff (empty : dispatcher.queue = [])
    (run : Run (Step calls dispatcherThread) (new handle poisoned lastError dispatcher) trace last) :
    last.phase scan ≠ .waiting ↔ .call scan ∈ trace := by
  have raised := run.raised_iff (fun system => system.phase scan ≠ .waiting) (fun action => action = .call scan)
    (invariant_new empty) invariant_step called_step
  simpa [new] using raised

/-- Each call gets its callback at most once; the work on the calls comes to an end,
and once none is left each has got it; and a callback gets the completion its scan
came to, with its own error installed on its thread. -/
theorem scan_async_exactly_once (empty : dispatcher.queue = [])
    (run : Run (Step calls dispatcherThread) (new handle poisoned lastError dispatcher) trace last) :
    (∀ scan, (last.deliveries scan).length ≤ 1 ∧ (.call scan ∉ trace → last.deliveries scan = [])) ∧
      Acc (Works calls dispatcherThread) last ∧
      ((∀ scan next, ¬Step calls dispatcherThread last (.work scan) next) →
        ∀ scan, .call scan ∈ trace → (last.deliveries scan).length = 1) ∧
      ∀ delivery ∈ last.delivered, ∃ cause, last.cause delivery.scan = some cause ∧
        (cause.StreamBuilt →
          delivery.message.status = 0 ∧ delivery.message.result.isSome = true ∧ delivery.lastError = none) ∧
        (¬cause.StreamBuilt → delivery.message.status = -1 ∧ delivery.message.result = none) ∧
        (cause.Panicked → delivery.message.error.map Prod.fst = some .panic ∧ delivery.poisoned = true) ∧
        delivery.lastError = delivery.message.lastError := by
  have invariant := run_invariant (invariant_new empty) run
  refine ⟨?_, ?_, ?_, ?_⟩
  · intro scan
    constructor
    · by_cases delivered : (last.phase scan).Delivered
      · exact Nat.le_of_eq (invariant.once scan delivered)
      · simp [invariant.never scan delivered]
    · intro uncalled
      have waiting : last.phase scan = .waiting := by
        by_contra started
        exact uncalled ((called_iff empty run).mp started)
      exact invariant.never scan (by simp [waiting, Phase.Delivered])
  · refine acc_works (trace.filterMap fun | .call scan => some scan | _ => none) invariant ?_
    intro scan started
    exact List.mem_filterMap.mpr ⟨_, (called_iff empty run).mp started, rfl⟩
  · intro quiescent scan called
    refine invariant.once scan ?_
    by_contra undelivered
    have started := (called_iff empty run).mpr called
    have unfinished : last.phase scan ≠ .finished := by
      intro finished
      simp [finished, Phase.Delivered] at undelivered
    obtain ⟨worker, next, work⟩ := work_of_unfinished invariant started unfinished
    exact quiescent worker next work
  · intro delivery member
    obtain ⟨⟨cause, known, reports, poisons⟩, own⟩ := invariant.correct delivery member
    refine ⟨cause, known, ?_, fun failed => ?_, fun panicked => ⟨reports.panicked panicked, poisons panicked⟩, own⟩
    · intro built
      obtain ⟨status, result, clear⟩ := reports.built built
      exact ⟨status, result, by simp [own, DispatcherMessage.lastError, clear]⟩
    · exact ⟨(reports.failed failed).1, (reports.failed failed).2.1⟩

end Completion

section Sample

inductive SampleThread where
  | caller
  | worker
  | dispatcher
  deriving DecidableEq

/-- One scan, whose stream is built at once. -/
def sampleCalls : Unit → ScanCall Unit Unit Unit Unit Unit SampleThread Unit := fun _ =>
  { scanner := some (), caller := .caller, worker := .worker, outside := samplePanic }

def sampleSystem : AsyncSystem Unit Unit Unit Unit Unit Unit SampleThread Unit :=
  new (fun _ => ⟨(), none, ()⟩) (fun _ => false) (fun _ => none) (.alive [])

def sampleSettingUp := sampleSystem.move () (.settingUp (scanAsyncSetup samplePanic))

def sampleSpawned := sampleSettingUp.move () (.spawned ())

def sampleStreaming := sampleSpawned.move () (.streaming (scanAsyncStream samplePanic ()))

def sampleReader : Except (LanceErrorCode × String) (GuardedReader Unit) := .ok ⟨some (), false⟩

def sampleBuilt := sampleStreaming.produce () .worker (.ended (.returned sampleReader)) (completion sampleReader)

def sampleQueued := { sampleBuilt.move () (.queued (completion sampleReader)) with
  dispatcher := .alive ([] ++ [((), completion sampleReader)]) }

def sampleInstalled := { sampleQueued.install () .dispatcher (completion sampleReader) with dispatcher := .alive [] }

def sampleCalled := sampleInstalled.enterCallback (some ()) () .dispatcher (completion sampleReader)

/-- The dispatcher's thread calls back once, with the stream. -/
theorem scan_async_exactly_once_sample :
    ∃ trace last, Run (Step sampleCalls .dispatcher) sampleSystem trace last ∧ (last.deliveries ()).length = 1 ∧
      ∀ delivery ∈ last.delivered, delivery.message.status = 0 ∧ delivery.lastError = none := by
  have began : Step sampleCalls .dispatcher sampleSystem (.call ()) sampleSettingUp := .begin rfl rfl
  have spawned : Step sampleCalls .dispatcher sampleSettingUp (.work ()) sampleSpawned := .setUpSpawned rfl
  have started : Step sampleCalls .dispatcher sampleSpawned (.work ()) sampleStreaming := .start rfl
  have built : Step sampleCalls .dispatcher sampleStreaming (.work ()) sampleBuilt := .streamEnded rfl
  have sent : Step sampleCalls .dispatcher sampleBuilt (.work ()) sampleQueued := .send rfl rfl
  have received : Step sampleCalls .dispatcher sampleQueued (.work ()) sampleInstalled :=
    .receive rfl ⟨fun _ _ => nofun, fun _ => nofun⟩
  have called : Step sampleCalls .dispatcher sampleInstalled (.work ()) sampleCalled := .invoke rfl
  have returned : Step sampleCalls .dispatcher sampleCalled (.work ()) (sampleCalled.move () .finished) :=
    .callbackReturns rfl
  have queued := ((((Run.single began).snoc spawned).snoc started).snoc built).snoc sent
  have run := ((queued.snoc received).snoc called).snoc returned
  obtain ⟨-, -, once, correct⟩ := scan_async_exactly_once rfl run
  refine ⟨_, _, run, once ?_ () (by simp), fun delivery delivered => ?_⟩
  · intro scan next work
    cases work with
    | receive waiting => cases waiting
    | _ => contradiction
  · obtain ⟨cause, known, success, _⟩ := correct delivery delivered
    cases known
    obtain ⟨status, _, clear⟩ := success trivial
    exact ⟨status, clear⟩

end Sample

end Runs

end AsyncSystem

end LanceC.Scanner
