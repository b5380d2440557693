import LanceC.Dataset.MutationArguments
import LanceC.Logic.Linearizable

/-! Mutating calls and snapshots of several threads on one dataset handle: a call resolves its
arguments, then `with_mut` copies, mutates and stores the dataset under the write lock. -/

namespace LanceC.Mutations

open Ffi Logic Machine

variable {UpdateBuilder : Type}

/-- `slots` are the caller's variables as the call finds them. -/
inductive HandleOp (UpdateBuilder : Type) where
  | mutate (upstream : MutationUpstream UpdateBuilder) (call : MutationCall) (slots : OutSlots)
  | snapshot

inductive HandleAnswer where
  | mutated (outcome : Unwind (Except LanceError Int)) (slots : OutSlots)
  | snapshot (inner : Arc Dataset)

namespace HandleOp

variable [Target]

/-- The entry point alone. -/
def alone : HandleOp UpdateBuilder → LanceDataset → HandleAnswer × LanceDataset
  | mutate upstream call slots, handle =>
    let (outcome, world) := call.body upstream ⟨some handle, slots⟩
    (.mutated outcome world.slots, world.handle.getD handle)
  | snapshot, handle => (.snapshot handle.snapshot, handle)

/-- The same with its use of the lock: the arguments are resolved before it is taken. -/
def access : HandleOp UpdateBuilder → Access LanceDataset HandleAnswer
  | mutate upstream call slots =>
    match call.arguments upstream with
    | .error stop => .refuse (.mutated (.ofSettled (.error stop)) slots)
    | .ok mutation => .write fun handle =>
      let (outcome, world) := runMutation upstream handle call.out mutation ⟨some handle, slots⟩
      (.mutated outcome world.slots, world.handle.getD handle)
  | snapshot => .read fun handle => .snapshot handle.snapshot

theorem access_apply (op : HandleOp UpdateBuilder) : op.access.apply = op.alone := by
  funext handle
  cases op with
  | snapshot => rfl
  | mutate upstream call slots =>
    rw [alone]
    cases resolved : call.arguments upstream with
    | error stop =>
      rw [access, resolved, body_stopped rfl resolved]
      rfl
    | ok mutation =>
      obtain ⟨nullMessage, same⟩ := call.body_eq upstream
      have ran : call.body upstream ⟨some handle, slots⟩ =
          runMutation upstream handle call.out mutation ⟨some handle, slots⟩ := by
        rw [same, mutating, Body.get_bind, resolved]
        rfl
      rw [access, resolved, ran]
      rfl

end HandleOp

/-- The mutating call of an entry. -/
def mutatingCall {Id : Type} (entry : Entry Id (HandleOp UpdateBuilder) HandleAnswer) :
    Option (MutationUpstream UpdateBuilder × MutationCall) :=
  match entry.op with
  | .mutate upstream call _ => some (upstream, call)
  | .snapshot => none

section Runs

variable {Id : Type} [Target] {handle last : LanceDataset}
  {calls : List (MutationUpstream UpdateBuilder × MutationCall)}
  {mutations : List (MutationUpstream UpdateBuilder × LanceMutation)}

theorem Selects.append {more : List (MutationUpstream UpdateBuilder × MutationCall)}
    {later : List (MutationUpstream UpdateBuilder × LanceMutation)} (first : Selects calls mutations)
    (second : Selects more later) : Selects (calls ++ more) (mutations ++ later) := by
  induction first with
  | nil => exact second
  | accepted denoted _ ih => exact .accepted denoted ih
  | refused nothing _ ih => exact .refused nothing ih

/-- What one call alone does to the handle. -/
theorem alone_selects (upstream : MutationUpstream UpdateBuilder) (call : MutationCall) (slots : OutSlots)
    (handle : LanceDataset) : ∃ mutations, Selects [(upstream, call)] mutations ∧
      ((HandleOp.mutate upstream call slots).alone handle).2 = mutations.foldl afterMutation handle := by
  have given : (⟨some handle, slots⟩ : MutationWorld).handle = some handle := rfl
  obtain ⟨mutations, selects, reached⟩ := runCalls_selects [(upstream, call)] given
  refine ⟨mutations, selects, ?_⟩
  change (call.body upstream ⟨some handle, slots⟩).2.handle.getD handle = _
  have stored : (call.body upstream ⟨some handle, slots⟩).2.handle = some (mutations.foldl afterMutation handle) :=
    reached
  rw [stored, Option.getD_some]

theorem sequential_selects {order : List (Entry Id (HandleOp UpdateBuilder) HandleAnswer)}
    (sequential : Sequential HandleOp.alone handle order last) : ∃ mutations,
      Selects (order.filterMap mutatingCall) mutations ∧ last = mutations.foldl afterMutation handle := by
  induction sequential with
  | nil => exact ⟨[], .nil, rfl⟩
  | @snoc middle last entries id op answer _ applied ih =>
    obtain ⟨mutations, selects, reached⟩ := ih
    rw [List.filterMap_append]
    cases op with
    | snapshot =>
      cases applied
      refine ⟨mutations, ?_, reached⟩
      change Selects (entries.filterMap mutatingCall ++ []) mutations
      rwa [List.append_nil]
    | mutate upstream call slots =>
      obtain ⟨later, selected, stored⟩ := alone_selects upstream call slots middle
      refine ⟨mutations ++ later, selects.append selected, ?_⟩
      rw [List.foldl_append, ← reached, ← stored, applied]

/-- Whatever threads call a handle, and however their steps interleave, each of them is answered as if
the calls had run one after another, each between its invocation and its answer; and the dataset is
left as the mutations that the accepted calls denote leave it, each performed once, in that order. -/
theorem handle_linearizable [DecidableEq Id] {labels : List (LockLabel Id (HandleOp UpdateBuilder) HandleAnswer)}
    {reached : LockedObject Id (HandleOp UpdateBuilder) HandleAnswer LanceDataset}
    (run : Run (LockStep HandleOp.access) (.fresh handle) labels reached) : ∃ order mutations,
      Linearizes HandleOp.alone handle (labels.filterMap LockLabel.event?) order reached.value ∧
        Selects (order.filterMap mutatingCall) mutations ∧ reached.value = mutations.foldl afterMutation handle := by
  obtain ⟨order, linearizes⟩ := linearizable run
  have spec : (fun op : HandleOp UpdateBuilder => op.access.apply) = HandleOp.alone := funext HandleOp.access_apply
  rw [spec] at linearizes
  obtain ⟨mutations, selects, stored⟩ := sequential_selects linearizes.legal
  exact ⟨order, mutations, linearizes, selects, stored⟩

end Runs

section Sample

abbrev SampleObject := LockedObject Nat (HandleOp Unit) HandleAnswer LanceDataset

def sampleOp : HandleOp Unit := .mutate sampleUpstream sampleDelete sampleWorld.slots

def sampleDeleted : LanceDataset :=
  { LanceDataset.sampleHandle with inner := ⟨2, { LanceDataset.sampleHandle.inner.value with version := 2 }⟩ }

def sampleAnswer : HandleAnswer := .mutated (.returned (.ok 0)) ⟨1, ⟨0, 0, 0, 0⟩⟩

/-- A deletion holds the lock as a snapshot is asked for. -/
def sampleLocked : SampleObject :=
  (((LockedObject.fresh LanceDataset.sampleHandle).move 0 (.invoked sampleOp)).move 0 (.exclusive sampleOp)).move 1
    (.invoked .snapshot)

def sampleWorked : SampleObject :=
  (sampleLocked.move 0 (.copied sampleOp LanceDataset.sampleHandle)).move 0
    (.worked sampleOp sampleAnswer sampleDeleted)

def sampleStored : SampleObject := { sampleWorked.move 0 (.stored sampleAnswer) with value := sampleDeleted }

def sampleLabels : List (LockLabel Nat (HandleOp Unit) HandleAnswer) :=
  [.event (.invoke 0 sampleOp), .internal, .event (.invoke 1 .snapshot), .internal, .internal,
    .commit ⟨0, sampleOp, sampleAnswer⟩]

theorem sample_run : Run (LockStep (@HandleOp.access _ target64)) (.fresh LanceDataset.sampleHandle) sampleLabels
    sampleStored := by
  let _ := target64
  have free : ∀ other, ¬(((LockedObject.fresh LanceDataset.sampleHandle : SampleObject).move 0
      (.invoked sampleOp)).phase other).IsExclusive ∧ ¬(((LockedObject.fresh LanceDataset.sampleHandle :
        SampleObject).move 0 (.invoked sampleOp)).phase other).IsShared := by
    intro other
    by_cases first : other = 0 <;>
      simp [LockedObject.move, LockedObject.fresh, Function.update, first, Phase.IsExclusive, Phase.IsShared]
  have locked : Run (LockStep HandleOp.access) (.fresh LanceDataset.sampleHandle)
      [.event (.invoke 0 sampleOp), .internal, .event (.invoke 1 .snapshot)] sampleLocked :=
    .snoc (.snoc (.single (.invoke rfl)) (.lock rfl rfl free)) (.invoke rfl)
  have worked : Run (LockStep HandleOp.access) sampleLocked [.internal, .internal] sampleWorked :=
    .snoc (.single (.copy rfl)) (.work rfl rfl rfl)
  exact (locked.append worked).append (.single (.store rfl))

theorem handle_linearizable_sample : ∃ order mutations,
    Linearizes (@HandleOp.alone _ target64) LanceDataset.sampleHandle (sampleLabels.filterMap LockLabel.event?) order
      sampleDeleted ∧
    @Selects _ target64 (order.filterMap mutatingCall) mutations ∧
      sampleDeleted = mutations.foldl afterMutation LanceDataset.sampleHandle := by
  let _ := target64
  exact handle_linearizable sample_run

end Sample

end LanceC.Mutations
