import LanceC.Index.SegmentBuilder

/-! A segment builder and its progress gates over any interleaving of the calls on the
builder, which its owner makes one at a time, with the workers that hold clones of
the progress callback and may outlive the call that handed them out. -/

namespace LanceC.Index

open Logic Machine

variable {Callback Context Gate Item Codebook Metadata Thread : Type}

/-- The thread that owns the builder: between calls, under the retire guard, dropping the
guard on its way out with some outcome, or done with the builder. -/
inductive Caller (Callback Context Gate : Type) where
  | idle
  | executing (running : GuardedBuild Callback Context Gate)
  | retiring (progressRetire : Option Gate) (outcome : Unwind (Except LanceError (List UInt8)))
  | freed

/-- `handed` are the clones that have reached Lance, whose workers may keep them for good. -/
structure SegmentSystem (Callback Context Gate Item Codebook Thread : Type) where
  builder : LanceIndexSegmentBuilder Callback Context Gate Item Codebook
  allocated : List Gate
  gates : Gate → GateSystem Thread (Invocation Callback Context)
  handed : List (SendIndexBuildProgressCallback Callback Context Gate)
  caller : Caller Callback Context Gate

inductive SegmentEvent (Callback Context Gate Thread : Type) where
  | progressSet (result : Except LanceError Unit)
  | executeBegan
  | executeReturned (outcome : Unwind (Except LanceError (List UInt8)))
  | worker (gate : Gate) (event : GateEvent Thread (Invocation Callback Context))
  | other

def SegmentEvent.isExecuteBegan : SegmentEvent Callback Context Gate Thread → Bool
  | executeBegan => true
  | _ => false

def SegmentEvent.Touches : SegmentEvent Callback Context Gate Thread → Prop
  | worker _ event => event.Touches
  | _ => False

namespace SegmentSystem

def new (builder : LanceIndexSegmentBuilder Callback Context Gate Item Codebook) :
    SegmentSystem Callback Context Gate Item Codebook Thread :=
  { builder, allocated := [], gates := fun _ => .new, handed := [], caller := .idle }

def setGate [DecidableEq Gate] (system : SegmentSystem Callback Context Gate Item Codebook Thread) (gate : Gate)
    (after : GateSystem Thread (Invocation Callback Context)) :
    SegmentSystem Callback Context Gate Item Codebook Thread :=
  { system with gates := Function.update system.gates gate after }

section Access

variable [DecidableEq Gate] {system : SegmentSystem Callback Context Gate Item Codebook Thread} {gate other : Gate}
variable {next : GateSystem Thread (Invocation Callback Context)}

@[simp] theorem gates_setGate :
    (system.setGate gate next).gates other = if other = gate then next else system.gates other :=
  Function.update_apply ..

@[simp] theorem builder_setGate : (system.setGate gate next).builder = system.builder := rfl

@[simp] theorem handed_setGate : (system.setGate gate next).handed = system.handed := rfl

@[simp] theorem caller_setGate : (system.setGate gate next).caller = system.caller := rfl

end Access

end SegmentSystem

open LanceIndexSegmentBuilder

inductive SegmentStep [DecidableEq Gate] [DecidableEq Thread] (Metadata : Type) :
    SegmentSystem Callback Context Gate Item Codebook Thread → SegmentEvent Callback Context Gate Thread →
      SegmentSystem Callback Context Gate Item Codebook Thread → Prop where
  | setProgressCallback {system : SegmentSystem Callback Context Gate Item Codebook Thread}
      {callback ctx gate builder} :
      system.caller = .idle → gate ∉ system.allocated →
      setProgressCallbackInner (some system.builder) callback ctx gate = .ok builder →
      SegmentStep Metadata system (.progressSet (.ok ()))
        { system.setGate gate .new with builder, allocated := gate :: system.allocated }
  | refuseProgressCallback {system : SegmentSystem Callback Context Gate Item Codebook Thread}
      {callback ctx gate error} :
      system.caller = .idle → setProgressCallbackInner (some system.builder) callback ctx gate = .error error →
      SegmentStep Metadata system (.progressSet (.error error)) system
  | refuseExecute {system : SegmentSystem Callback Context Gate Item Codebook Thread}
      {outside : BuildOutside Callback Context Gate Item Codebook Metadata} {outsNull error builder} :
      system.caller = .idle →
      executeUncommittedInner outside (some system.builder) outsNull = (.error error, some builder) →
      SegmentStep Metadata system (.executeReturned (.returned (.error error))) { system with builder }
  | beginExecute {system : SegmentSystem Callback Context Gate Item Codebook Thread}
      {outside : BuildOutside Callback Context Gate Item Codebook Metadata} {outsNull running builder} :
      system.caller = .idle →
      executeUncommittedInner outside (some system.builder) outsNull = (.ok running, some builder) →
      SegmentStep Metadata system .executeBegan { system with builder, caller := .executing running }
  | runBuild {system : SegmentSystem Callback Context Gate Item Codebook Thread} {progressRetire update rest} :
      system.caller = .executing ⟨progressRetire, .access update rest⟩ →
      SegmentStep Metadata system .other
        { system with
          handed := update system.handed
          caller := .executing ⟨progressRetire, rest system.handed⟩ }
  | endBuild {system : SegmentSystem Callback Context Gate Item Codebook Thread} {progressRetire outcome} :
      system.caller = .executing ⟨progressRetire, .finish outcome⟩ →
      SegmentStep Metadata system .other { system with caller := .retiring progressRetire outcome }
  | retire {system : SegmentSystem Callback Context Gate Item Codebook Thread} {gate outcome after} :
      system.caller = .retiring (some gate) outcome → RetireStep (system.gates gate) .other after →
      SegmentStep Metadata system .other (system.setGate gate after)
  | retireReturns {system : SegmentSystem Callback Context Gate Item Codebook Thread} {gate outcome after} :
      system.caller = .retiring (some gate) outcome → RetireStep (system.gates gate) .retireReturns after →
      SegmentStep Metadata system (.executeReturned outcome) { system.setGate gate after with caller := .idle }
  | returnUnguarded {system : SegmentSystem Callback Context Gate Item Codebook Thread} {outcome} :
      system.caller = .retiring none outcome →
      SegmentStep Metadata system (.executeReturned outcome) { system with caller := .idle }
  | worker {system : SegmentSystem Callback Context Gate Item Codebook Thread} {gate event after} :
      EntryStep (system.gates gate) event after →
      (∀ thread call, event = .began thread call →
        ∃ progress ∈ system.handed, progress.gate = gate ∧ progress.Reports call) →
      SegmentStep Metadata system (.worker gate event) (system.setGate gate after)
  | free {system : SegmentSystem Callback Context Gate Item Codebook Thread} :
      system.caller = .idle → SegmentStep Metadata system .other { system with caller := .freed }

/-- The guard is that of every clone handed out. -/
def Guards (progressRetire : Option Gate) (handed : List (SendIndexBuildProgressCallback Callback Context Gate)) :
    Prop :=
  ∀ progress ∈ handed, progressRetire = some progress.gate

/-- Clones are added, of the guarded callback only, and none is taken back. -/
structure HandsOut (progressRetire : Option Gate)
    (before after : List (SendIndexBuildProgressCallback Callback Context Gate)) : Prop where
  kept : before ⊆ after
  guarded : Guards progressRetire before → Guards progressRetire after

section Builder

variable {builder after : LanceIndexSegmentBuilder Callback Context Gate Item Codebook}
variable {outside : BuildOutside Callback Context Gate Item Codebook Metadata} {outsNull : Bool}

/-- All that the body hands out are clones of the callback it was started with. -/
theorem build_handsOut (builder : LanceIndexSegmentBuilder Callback Context Gate Item Codebook)
    (outside : BuildOutside Callback Context Gate Item Codebook Metadata) :
    (builder.build outside).Within (HandsOut (builder.progress.map SendIndexBuildProgressCallback.gate)) := by
  unfold build
  split
  · trivial
  · next core requested =>
    obtain ⟨-, -, -, -, -, same⟩ := core_dataset requested
    refine Program.within_bind (Program.within_modify fun handed => ⟨List.subset_append_right .., ?_⟩)
      fun _ => Program.within_bind trivial fun _ => trivial
    intro guards progress member
    rcases List.mem_append.mp member with new | old
    · rw [same, Option.mem_toList] at new
      simp [Option.mem_def.mp new]
    · exact guards progress old

theorem execute_error {error : LanceError}
    (refused : executeUncommittedInner outside (some builder) outsNull = (.error error, some after)) :
    after = { builder with executed := true } := by
  simp only [executeUncommittedInner] at refused
  split at refused
  · next executed =>
    obtain rfl : builder = after := by simpa using congrArg Prod.snd refused
    exact congrArg (fun executed => { builder with executed }) executed
  · split at refused
    · simpa using (congrArg Prod.snd refused).symm
    · cases refused

theorem execute_ok {running : GuardedBuild Callback Context Gate}
    (begun : executeUncommittedInner outside (some builder) outsNull = (.ok running, some after)) :
    builder.executed = false ∧ after = { builder with executed := true } ∧
      running.body.Within (HandsOut running.progressRetire) := by
  simp only [executeUncommittedInner] at begun
  split at begun
  · cases begun
  · next unexecuted =>
    split at begun
    · cases begun
    · obtain ⟨rfl, rfl⟩ : running = _ ∧ after = _ := by simpa [eq_comm] using begun
      exact ⟨by simpa using unexecuted, rfl, build_handsOut _ outside⟩

theorem setProgressCallback_ok {callback : Option Callback} {ctx : Context} {gate : Gate}
    (installed : setProgressCallbackInner (some builder) callback ctx gate = .ok after) :
    builder.executed = false ∧ after.executed = false := by
  cases callback with
  | none => cases installed
  | some callback =>
    simp only [setProgressCallbackInner] at installed
    split at installed
    · cases installed
    · next unexecuted =>
      obtain rfl := Except.ok.inj installed
      simpa using unexecuted

end Builder

/-- What the owner's place in a call says: outside of `execute_uncommitted` the gates of all
clones are closed, in it they are the one that the guard retires. -/
def Caller.Fits (executed : Bool) (handed : List (SendIndexBuildProgressCallback Callback Context Gate))
    (gates : Gate → GateSystem Thread (Invocation Callback Context)) : Caller Callback Context Gate → Prop
  | idle | freed => ∀ progress ∈ handed, (gates progress.gate).Closed
  | executing running =>
    executed = true ∧ Guards running.progressRetire handed ∧ running.body.Within (HandsOut running.progressRetire)
  | retiring progressRetire _ => executed = true ∧ Guards progressRetire handed

namespace SegmentSystem

variable {system before after : SegmentSystem Callback Context Gate Item Codebook Thread}
variable {event : SegmentEvent Callback Context Gate Thread}

structure Invariant (system : SegmentSystem Callback Context Gate Item Codebook Thread) : Prop where
  gates : ∀ gate, (system.gates gate).Invariant
  visited : ∀ gate thread, (system.gates gate).position thread ≠ .outside →
    ∃ progress ∈ system.handed, progress.gate = gate
  unexecuted : system.builder.executed = false → system.handed = []
  caller : system.caller.Fits system.builder.executed system.handed system.gates

theorem invariant_new {builder : LanceIndexSegmentBuilder Callback Context Gate Item Codebook} :
    (new builder : SegmentSystem Callback Context Gate Item Codebook Thread).Invariant where
  gates _ := GateSystem.invariant_new
  visited _ _ away := absurd rfl away
  unexecuted _ := rfl
  caller := nofun

section Steps

variable [DecidableEq Gate]

theorem gates_invariant_setGate {gate : Gate} {next : GateSystem Thread (Invocation Callback Context)}
    (gates : ∀ gate, (system.gates gate).Invariant) (moved : next.Invariant) (other : Gate) :
    ((system.setGate gate next).gates other).Invariant := by
  rw [gates_setGate]
  split
  · exact moved
  · exact gates other

variable [DecidableEq Thread]

theorem gates_invariant_step (gates : ∀ gate, (before.gates gate).Invariant)
    (step : SegmentStep Metadata before event after) : ∀ gate, (after.gates gate).Invariant := by
  cases step with
  | setProgressCallback => exact gates_invariant_setGate gates GateSystem.invariant_new
  | @retire gate _ _ _ moved | @retireReturns gate _ _ _ moved =>
    exact gates_invariant_setGate gates (GateSystem.invariant_retire (gates gate) moved)
  | @worker gate _ _ moved _ => exact gates_invariant_setGate gates (GateSystem.invariant_entry (gates gate) moved)
  | refuseProgressCallback | refuseExecute | beginExecute | runBuild | endBuild | returnUnguarded | free => exact gates

theorem visited_step (invariant : before.Invariant) (step : SegmentStep Metadata before event after) {gate : Gate}
    {thread : Thread} (away : (after.gates gate).position thread ≠ .outside) :
    ∃ progress ∈ after.handed, progress.gate = gate := by
  cases step with
  | @setProgressCallback _ _ fresh =>
    by_cases moved : gate = fresh
    · exact absurd (by simp [moved, GateSystem.new]) away
    · exact invariant.visited gate thread (by simpa [moved] using away)
  | @retire moving _ _ _ moved | @retireReturns moving _ _ _ moved =>
    refine invariant.visited gate thread ?_
    by_cases same : gate = moving
    · subst same
      simpa [GateSystem.position_retire moved] using away
    · simpa [same] using away
  | @worker moving _ _ moved reports =>
    by_cases same : gate = moving
    · subst same
      rcases GateSystem.away_entry moved (by simpa using away) with already | ⟨call, rfl⟩
      · exact invariant.visited gate thread already
      · obtain ⟨progress, member, its, -⟩ := reports thread call rfl
        exact ⟨progress, member, its⟩
    · exact invariant.visited gate thread (by simpa [same] using away)
  | runBuild executing =>
    have caller := invariant.caller
    rw [executing] at caller
    obtain ⟨progress, member, its⟩ := invariant.visited gate thread away
    exact ⟨progress, (caller.2.2 before.handed).1.kept member, its⟩
  | refuseProgressCallback | refuseExecute | beginExecute | endBuild | returnUnguarded | free =>
    exact invariant.visited gate thread away

theorem executed_step (executed : before.builder.executed = true)
    (step : SegmentStep Metadata before event after) :
    after.builder = before.builder := by
  cases step with
  | setProgressCallback _ _ installed => simp [(setProgressCallback_ok installed).1] at executed
  | refuseExecute _ refused =>
    rw [execute_error refused]
    exact congrArg (fun executed => { before.builder with executed }) executed.symm
  | beginExecute _ begun => simp [(execute_ok begun).1] at executed
  | refuseProgressCallback | runBuild | endBuild | retire | retireReturns | returnUnguarded | worker | free => rfl

theorem unexecuted_step (invariant : before.Invariant) (step : SegmentStep Metadata before event after)
    (unexecuted : after.builder.executed = false) : after.handed = [] := by
  cases ran : before.builder.executed with
  | true =>
    rw [executed_step ran step, ran] at unexecuted
    cases unexecuted
  | false =>
    have nothing := invariant.unexecuted ran
    cases step with
    | runBuild executing =>
      have caller := invariant.caller
      rw [executing] at caller
      simp [caller.1] at ran
    | setProgressCallback | refuseProgressCallback | refuseExecute | beginExecute | endBuild | retire | retireReturns
    | returnUnguarded | worker | free => exact nothing

theorem caller_step (invariant : before.Invariant) (step : SegmentStep Metadata before event after) :
    after.caller.Fits after.builder.executed after.handed after.gates := by
  have caller := invariant.caller
  cases step with
  | setProgressCallback idle _ installed =>
    have nothing := invariant.unexecuted (setProgressCallback_ok installed).1
    simp [idle, nothing, Caller.Fits]
  | refuseProgressCallback => exact caller
  | refuseExecute idle | free idle =>
    rw [idle] at caller
    simpa [idle, Caller.Fits] using caller
  | beginExecute idle begun =>
    obtain ⟨unexecuted, rfl, within⟩ := execute_ok begun
    have nothing := invariant.unexecuted unexecuted
    exact ⟨rfl, by simp [Guards, nothing], within⟩
  | runBuild executing =>
    rw [executing] at caller
    obtain ⟨executed, guards, within⟩ := caller
    obtain ⟨handsOut, rest⟩ := within before.handed
    exact ⟨executed, handsOut.guarded guards, rest⟩
  | endBuild executing =>
    rw [executing] at caller
    exact ⟨caller.1, caller.2.1⟩
  | retire retiring =>
    rw [retiring] at caller
    simpa [retiring, Caller.Fits] using caller
  | retireReturns retiring returns =>
    rw [retiring] at caller
    have closed := GateSystem.closed_of_retireReturns (invariant.gates _) returns
    intro progress member
    have same := Option.some.inj (caller.2 progress member)
    simpa [← same] using closed
  | returnUnguarded retiring =>
    rw [retiring] at caller
    intro progress member
    cases caller.2 progress member
  | @worker gate _ _ moved =>
    cases place : before.caller with
    | idle | freed =>
      rw [place] at caller
      simp only [caller_setGate, place]
      intro progress member
      have closed := caller progress member
      by_cases same : progress.gate = gate
      · subst same
        simpa using GateSystem.closed_entry closed moved
      · simpa [same] using closed
    | executing | retiring =>
      rw [place] at caller
      simpa [place, Caller.Fits] using caller

theorem invariant_step (invariant : before.Invariant) (step : SegmentStep Metadata before event after) :
    after.Invariant where
  gates := gates_invariant_step invariant.gates step
  visited _ _ := visited_step invariant step
  unexecuted := unexecuted_step invariant step
  caller := caller_step invariant step

/-- The builder counts as executed, and its owner is out of the call. -/
structure Finished (system : SegmentSystem Callback Context Gate Item Codebook Thread) : Prop where
  invariant : system.Invariant
  executed : system.builder.executed = true
  caller : system.caller = .idle ∨ system.caller = .freed

omit [DecidableEq Gate] [DecidableEq Thread] in
theorem Finished.closed (finished : system.Finished) :
    ∀ progress ∈ system.handed, (system.gates progress.gate).Closed := by
  have caller := finished.invariant.caller
  rcases finished.caller with place | place <;> rwa [place] at caller

omit [DecidableEq Gate] [DecidableEq Thread] in
/-- Nobody is inside a gate: not of a clone, since it is closed, and nowhere else. -/
theorem Finished.empty (finished : system.Finished) (gate : Gate) (thread : Thread) :
    ¬((system.gates gate).position thread).Inside := by
  intro inside
  have away : (system.gates gate).position thread ≠ .outside := by
    intro outside
    simp [outside, Position.Inside] at inside
  obtain ⟨progress, member, rfl⟩ := finished.invariant.visited gate thread away
  exact (finished.closed progress member).empty thread inside

/-- Every way out of `execute_uncommitted_inner`. -/
theorem finished_of_returned (invariant : before.Invariant) {outcome : Unwind (Except LanceError (List UInt8))}
    (step : SegmentStep Metadata before (.executeReturned outcome) after) : after.Finished := by
  have kept := invariant_step invariant step
  have caller := invariant.caller
  cases step with
  | refuseExecute idle refused => exact ⟨kept, by rw [execute_error refused], .inl idle⟩
  | retireReturns retiring | returnUnguarded retiring =>
    rw [retiring] at caller
    exact ⟨kept, caller.1, .inl rfl⟩

theorem finished_step (finished : before.Finished) (step : SegmentStep Metadata before event after) :
    after.Finished := by
  refine ⟨invariant_step finished.invariant step, ?_, ?_⟩
  · rw [executed_step finished.executed step, finished.executed]
  · have outside := finished.caller
    have executed := finished.executed
    cases step with
    | setProgressCallback _ _ installed => simp [(setProgressCallback_ok installed).1] at executed
    | beginExecute _ begun => simp [(execute_ok begun).1] at executed
    | runBuild place | endBuild place | retire place => simp [place] at outside
    | refuseProgressCallback | refuseExecute | worker => exact outside
    | retireReturns | returnUnguarded => exact .inl rfl
    | free => exact .inr rfl

theorem untouched_of_finished (finished : before.Finished) (step : SegmentStep Metadata before event after) :
    ¬event.Touches := by
  cases step with
  | @worker gate event _ moved reports =>
    intro touches
    obtain ⟨thread, away⟩ := GateSystem.away_of_touches moved touches
    obtain ⟨progress, member, rfl⟩ := finished.invariant.visited gate thread away
    exact GateSystem.untouched_entry (finished.closed progress member) moved touches
  | setProgressCallback | refuseProgressCallback | refuseExecute | beginExecute | runBuild | endBuild | retire
  | retireReturns | returnUnguarded | free => exact id

theorem executed_of_began (step : SegmentStep Metadata before event after) (began : event.isExecuteBegan = true) :
    before.builder.executed = false ∧ after.builder.executed = true := by
  cases step with
  | beginExecute _ begun =>
    obtain ⟨unexecuted, rfl, -⟩ := execute_ok begun
    exact ⟨unexecuted, rfl⟩
  | setProgressCallback | refuseProgressCallback | refuseExecute | runBuild | endBuild | retire | retireReturns
  | returnUnguarded | worker | free => cases began

theorem executed_of_progressSet (step : SegmentStep Metadata before (.progressSet (.ok ())) after) :
    before.builder.executed = false := by
  cases step with
  | setProgressCallback _ _ installed => exact (setProgressCallback_ok installed).1

variable {trace : List (SegmentEvent Callback Context Gate Thread)}
variable {builder : LanceIndexSegmentBuilder Callback Context Gate Item Codebook}

/-- A builder is executed at most once. -/
theorem executes_once (run : Run (SegmentStep Metadata) (new builder) trace system) :
    trace.countP SegmentEvent.isExecuteBegan ≤ 1 :=
  run.countP_le_one (fun system => system.builder.executed = true) _ invariant_new invariant_step
    (fun _ step executed => (executed_step executed step).symm ▸ executed) fun _ step began => by
      obtain ⟨unexecuted, executed⟩ := executed_of_began step began
      exact ⟨by simp [unexecuted], executed⟩

/-- The builder is what it was when it had been executed. -/
structure Frozen (builder : LanceIndexSegmentBuilder Callback Context Gate Item Codebook)
    (system : SegmentSystem Callback Context Gate Item Codebook Thread) : Prop where
  same : system.builder = builder
  executed : builder.executed = true

theorem frozen_step (frozen : before.Frozen builder) (step : SegmentStep Metadata before event after) :
    after.Frozen builder := by
  obtain ⟨rfl, executed⟩ := frozen
  exact ⟨executed_step executed step, executed⟩

theorem refused_of_frozen (frozen : before.Frozen builder) (step : SegmentStep Metadata before event after) :
    event ≠ .progressSet (.ok ()) := by
  rintro rfl
  obtain ⟨rfl, executed⟩ := frozen
  simp [executed_of_progressSet step] at executed

end Steps

end SegmentSystem

section Gate

variable {Call : Type} [DecidableEq Thread] {trace later : List (GateEvent Thread Call)}
variable {system next last : GateSystem Thread Call}

/-- From where `retire` returns on, nobody is in the callback and nobody gets there. -/
theorem GateSystem.retire_returns (run : Run GateStep .new trace system)
    (returns : GateStep system .retireReturns next)
    (more : Run GateStep next later last) :
    (∀ thread, ¬(last.position thread).Inside) ∧ ∀ event ∈ later, ¬event.Touches := by
  have invariant := run.invariant invariant_new invariant_step
  have closed : next.Closed := by
    cases returns with
    | entry step => cases step
    | retire step => exact closed_of_retireReturns invariant step
  exact ⟨(more.invariant closed closed_step).empty, more.forall_labels _ closed closed_step untouched_step⟩

end Gate

open SegmentSystem

/-- The gate counts who is in it and keeps everybody out once `retire` has returned; each
way out of `execute_uncommitted_inner` leaves the gates of all clones retired, a builder is
executed once, and its callback stays. -/
theorem progress_callback_gate (Call : Type) [DecidableEq Gate] [DecidableEq Thread] :
    (∀ (trace : List (GateEvent Thread Call)) system, Run GateStep .new trace system →
      Counts system.gate.inFlight (headcount Position.InFlight system.position) ∧
        ∀ next later last, GateStep system .retireReturns next → Run GateStep next later last →
          (∀ thread, ¬(last.position thread).Inside) ∧ ∀ event ∈ later, ¬event.Touches) ∧
    ∀ dataset column indexName (kind : SegmentKind Item Codebook) fragmentIds indexUuid
      (trace : List (SegmentEvent Callback Context Gate Thread)) system,
      Run (SegmentStep Metadata) (.new (.new dataset column indexName kind fragmentIds indexUuid)) trace system →
        (∀ outcome next later last, SegmentStep Metadata system (.executeReturned outcome) next →
          Run (SegmentStep Metadata) next later last →
            (∀ progress ∈ last.handed, (last.gates progress.gate).gate.retired = true) ∧
              (∀ gate thread, ¬((last.gates gate).position thread).Inside) ∧ ∀ event ∈ later, ¬event.Touches) ∧
          trace.countP SegmentEvent.isExecuteBegan ≤ 1 ∧
          (system.builder.executed = true → ∀ later last, Run (SegmentStep Metadata) system later last →
            last.builder = system.builder ∧ .progressSet (.ok ()) ∉ later) := by
  refine ⟨fun trace system run => ⟨?_, fun next later last returns more => ?_⟩, ?_⟩
  · exact (run.invariant GateSystem.invariant_new GateSystem.invariant_step).counts
  · exact GateSystem.retire_returns run returns more
  intro dataset column indexName kind fragmentIds indexUuid trace system run
  refine ⟨fun outcome next later last returned more => ?_, executes_once run, fun executed later last more => ?_⟩
  · have finished := finished_of_returned (run.invariant invariant_new invariant_step) returned
    have finally' := more.invariant finished finished_step
    exact ⟨fun progress member => (finally'.closed progress member).retired, finally'.empty,
      more.forall_labels _ finished finished_step untouched_of_finished⟩
  · have frozen : system.Frozen system.builder := ⟨rfl, executed⟩
    refine ⟨(more.invariant frozen frozen_step).same, fun member => ?_⟩
    exact more.forall_labels (fun event => event ≠ .progressSet (.ok ())) frozen frozen_step refused_of_frozen _ member rfl

section Sample

def sampleBuilder : LanceIndexSegmentBuilder Unit Unit Unit Unit Unit :=
  .new ⟨"memory://sample", 1, [⟨0, some 3, []⟩], ⟨[]⟩, .v2, false, none⟩ "text" none (.scalar .inverted none) none none

/-- A build that panics after it has handed the callback to a worker. -/
def samplePanics : BuildOutside Unit Unit Unit Unit Unit Unit :=
  ⟨fun _ => .panicked (.text "index out of bounds"), fun _ => [], fun _ => true⟩

def sampleCall : Invocation Unit Unit := ⟨(), (), .stageComplete, "tokenize_docs", 0, "", 0⟩

theorem progress_callback_gate_sample :
    ∃ trace system next, Run (SegmentStep Unit) (.new sampleBuilder) trace system ∧
      SegmentStep Unit system (.executeReturned (.panicked (.text "index out of bounds"))) next ∧
      ∀ later (last : SegmentSystem Unit Unit Unit Unit Unit Unit), Run (SegmentStep Unit) next later last →
        ∀ event ∈ later, ¬event.Touches := by
  have started : Run (SegmentStep Unit) (.new sampleBuilder : SegmentSystem Unit Unit Unit Unit Unit Unit) [] _ := .refl _
  have installed := started.snoc
    (@SegmentStep.setProgressCallback _ _ _ _ _ _ _ _ _ _ (some ()) () () _ rfl List.not_mem_nil rfl)
  have begun := installed.snoc (@SegmentStep.beginExecute _ _ _ _ _ _ _ _ _ _ samplePanics false _ _ rfl rfl)
  have handed := begun.snoc (.runBuild rfl)
  have entered := handed.snoc
    (@SegmentStep.worker _ _ _ _ _ _ _ _ _ _ () _ _ (@EntryStep.begin _ _ _ _ () sampleCall rfl) (by
      rintro thread call ⟨⟩
      exact ⟨_, List.mem_cons_self, rfl, @SendIndexBuildProgressCallback.Reports.stageComplete _ _ _ _ _ sampleCall.stage rfl⟩))
  have admitted := entered.snoc (@SegmentStep.worker _ _ _ _ _ _ _ _ _ _ () _ _ (@EntryStep.letIn _ _ _ _ () _ rfl rfl) nofun)
  have starts := admitted.snoc (@SegmentStep.worker _ _ _ _ _ _ _ _ _ _ () _ _ (@EntryStep.callbackStarts _ _ _ _ () _ rfl) nofun)
  have panicked := starts.snoc (.endBuild rfl)
  have stored := panicked.snoc (.retire rfl (.store rfl))
  have ends := stored.snoc (@SegmentStep.worker _ _ _ _ _ _ _ _ _ _ () _ _ (@EntryStep.callbackEnds _ _ _ _ () _ rfl) nofun)
  have exited := ends.snoc (@SegmentStep.worker _ _ _ _ _ _ _ _ _ _ () _ _ (@EntryStep.exit _ _ _ _ () rfl) nofun)
  obtain ⟨exits, -, -⟩ := (progress_callback_gate Unit).2 _ _ _ _ _ _ _ _ exited
  have silent := fun later last => exits _ _ later last (.retireReturns rfl (.returns rfl rfl))
  exact ⟨_, _, _, exited, .retireReturns rfl (.returns rfl rfl), fun later last more => (silent later last more).2.2⟩

end Sample

end LanceC.Index
