import LanceC.Dataset.Handle
import LanceC.Logic.Transition

/-! The two-call enumeration of the fragment ids while other threads publish new
snapshots through the same handle (dataset.rs, lance.hpp). -/

namespace LanceC

open Logic Machine

def Dataset.fragmentIds (dataset : Dataset) : List Nat := dataset.fragments.map Fragment.id

namespace LanceDataset

def datasetFragmentCountInner (dataset : Option LanceDataset) : Except LanceError Nat :=
  match dataset with
  | none => .error (.invalidInput "dataset is NULL")
  | some handle => .ok handle.snapshot.value.fragments.length

/-- The loop `*out_ids.add(i) = id`. A write behind the end of the buffer hits other memory. -/
def writeIds : List Nat → List Nat → List Nat
  | id :: ids, _ :: buffer => id :: writeIds ids buffer
  | [], buffer => buffer
  | _ :: _, [] => []

/-- The ids written, and what the buffer holds then; the call does not learn its length. -/
def datasetFragmentIdsInner (dataset : Option LanceDataset) (outIds : Option (List Nat)) :
    Except LanceError (List Nat × List Nat) :=
  match dataset, outIds with
  | some handle, some buffer =>
    .ok (handle.snapshot.value.fragmentIds, writeIds handle.snapshot.value.fragmentIds buffer)
  | _, _ => .error (.invalidInput "dataset and out_ids must not be NULL")

/-- How far `Dataset::fragment_ids` has come. `first` and `second` are the
snapshots that its two calls read; without fragments there is no second call. -/
inductive Enumeration where
  | start
  | counted (first : Dataset) (count : Nat)
  | allocated (first : Dataset) (ids : List Nat)
  | finished (first : Dataset) (second : Option Dataset) (slots written : Nat) (ids : List Nat)
  deriving DecidableEq, Repr

/-- The handle, every snapshot it has held so far, and the enumerating thread. -/
structure EnumerationState where
  handle : LanceDataset
  published : List Dataset
  position : Enumeration

inductive EnumerationAction where
  | publish
  | count
  | allocate
  | fill
  | skip
  deriving DecidableEq, Repr

variable {R : Type}

inductive EnumerationStep (R : Type) : EnumerationState → EnumerationAction → EnumerationState → Prop where
  | publish {handle : LanceDataset} {published : List Dataset} {position : Enumeration} (call : Call R) :
      EnumerationStep R ⟨handle, published, position⟩ .publish
        ⟨handle.after call, published ++ [(handle.after call).inner.value], position⟩
  | count {handle : LanceDataset} {published : List Dataset} {count : Nat}
      (returned : datasetFragmentCountInner (some handle) = .ok count) :
      EnumerationStep R ⟨handle, published, .start⟩ .count ⟨handle, published, .counted handle.inner.value count⟩
  | allocate {handle : LanceDataset} {published : List Dataset} {first : Dataset} {count : Nat} :
      EnumerationStep R ⟨handle, published, .counted first count⟩ .allocate
        ⟨handle, published, .allocated first (List.replicate count 0)⟩
  | fill {handle : LanceDataset} {published : List Dataset} {first : Dataset} {buffer written ids : List Nat}
      (slots : 0 < buffer.length)
      (returned : datasetFragmentIdsInner (some handle) (some buffer) = .ok (written, ids)) :
      EnumerationStep R ⟨handle, published, .allocated first buffer⟩ .fill
        ⟨handle, published, .finished first (some handle.inner.value) buffer.length written.length ids⟩
  | skip {handle : LanceDataset} {published : List Dataset} {first : Dataset} :
      EnumerationStep R ⟨handle, published, .allocated first []⟩ .skip
        ⟨handle, published, .finished first none 0 0 []⟩

/-- Before the enumeration starts. -/
def EnumerationState.initial (handle : LanceDataset) : EnumerationState :=
  ⟨handle, [handle.inner.value], .start⟩

/-- What the enumeration should deliver: no write behind the buffer, and the ids of one snapshot. -/
def Faithful (published : List Dataset) (slots written : Nat) (ids : List Nat) : Prop :=
  written ≤ slots ∧ ∃ snapshot ∈ published, ids = snapshot.fragmentIds

/-- The two calls have found the same number of fragments. -/
def Steady (first : Dataset) (second : Option Dataset) : Prop :=
  ∀ snapshot, second = some snapshot → snapshot.fragments.length = first.fragments.length

/-- The second call has found fewer, and its ids with the zeros behind them are by
chance those of another snapshot. -/
def Coincident (published : List Dataset) (first : Dataset) (second : Option Dataset) : Prop :=
  ∃ found, second = some found ∧ found.fragments.length < first.fragments.length ∧
    ∃ snapshot ∈ published, found.fragmentIds ++
      List.replicate (first.fragments.length - found.fragments.length) 0 = snapshot.fragmentIds

section Writing

theorem writeIds_eq (ids buffer : List Nat) : writeIds ids buffer = ids.take buffer.length ++ buffer.drop ids.length := by
  induction ids generalizing buffer with
  | nil => simp [writeIds]
  | cons id ids ih =>
    cases buffer with
    | nil => rfl
    | cons slot buffer => simp [writeIds, ih]

@[simp] theorem length_fragmentIds (dataset : Dataset) : dataset.fragmentIds.length = dataset.fragments.length := by
  simp [Dataset.fragmentIds]

end Writing

/-- What is known of an enumeration at each of its stages. -/
def Recorded (published : List Dataset) : Enumeration → Prop
  | .start => True
  | .counted first count => first ∈ published ∧ count = first.fragments.length
  | .allocated first buffer => first ∈ published ∧ buffer = List.replicate first.fragments.length 0
  | .finished first none slots written ids =>
    first ∈ published ∧ first.fragments.length = 0 ∧ slots = 0 ∧ written = 0 ∧ ids = []
  | .finished first (some second) slots written ids =>
    first ∈ published ∧ second ∈ published ∧ slots = first.fragments.length ∧ written = second.fragments.length ∧
      ids = writeIds second.fragmentIds (List.replicate first.fragments.length 0)

theorem Recorded.publish {published : List Dataset} {position : Enumeration}
    (recorded : Recorded published position)
    (snapshot : Dataset) : Recorded (published ++ [snapshot]) position := by
  have older : ∀ dataset ∈ published, dataset ∈ published ++ [snapshot] := fun _ => List.mem_append_left _
  match position, recorded with
  | .start, _ => trivial
  | .counted first count, ⟨member, same⟩ => exact ⟨older first member, same⟩
  | .allocated first buffer, ⟨member, same⟩ => exact ⟨older first member, same⟩
  | .finished first none _ _ _, ⟨member, rest⟩ => exact ⟨older first member, rest⟩
  | .finished first (some second) _ _ _, ⟨member, later, rest⟩ =>
    exact ⟨older first member, older second later, rest⟩

/-- The stored snapshot has been published, and the enumeration has read only such snapshots. -/
def EnumerationState.Sound (state : EnumerationState) : Prop :=
  state.handle.inner.value ∈ state.published ∧ Recorded state.published state.position

theorem recorded_step {before after : EnumerationState} {action : EnumerationAction}
    (holds : before.Sound) (step : EnumerationStep R before action after) : after.Sound := by
  obtain ⟨current, recorded⟩ := holds
  cases step with
  | publish call => exact ⟨by simp, recorded.publish _⟩
  | count returned => exact ⟨current, current, (Except.ok.inj returned).symm⟩
  | allocate =>
    obtain ⟨member, rfl⟩ := recorded
    exact ⟨current, member, rfl⟩
  | fill slots returned =>
    obtain ⟨member, rfl⟩ := recorded
    obtain ⟨rfl, rfl⟩ := Prod.mk.inj (Except.ok.inj returned)
    exact ⟨current, member, current, by simp, by simp [snapshot], rfl⟩
  | skip =>
    obtain ⟨member, empty⟩ := recorded
    have none := congrArg List.length empty
    rw [List.length_nil, List.length_replicate] at none
    exact ⟨current, member, none.symm, rfl, rfl, rfl⟩

theorem recorded_run {handle : LanceDataset} {actions : List EnumerationAction} {last : EnumerationState}
    (run : Run (EnumerationStep R) (.initial handle) actions last) : Recorded last.published last.position := by
  have start : (EnumerationState.initial handle).Sound := ⟨by simp [EnumerationState.initial], trivial⟩
  exact (run.invariant start recorded_step).2

/-- Ids written over the zeros of a buffer: the surplus is cut off, the shortfall stays zero. -/
theorem writeIds_replicate (ids : List Nat) (slots : Nat) :
    writeIds ids (List.replicate slots 0) = ids.take slots ++ List.replicate (slots - ids.length) 0 := by
  rw [writeIds_eq, List.length_replicate, List.drop_replicate]

/-- In every interleaving with other threads' mutations, the enumeration is faithful exactly
when both its calls have found equally many fragments, or the padded ids happen to be right. -/
theorem fragmentIds_faithful_iff {handle : LanceDataset} {actions : List EnumerationAction}
    {last : EnumerationState} {first : Dataset} {second : Option Dataset} {slots written : Nat} {ids : List Nat}
    (run : Run (EnumerationStep R) (.initial handle) actions last)
    (finished : last.position = .finished first second slots written ids) :
    Faithful last.published slots written ids ↔
      Steady first second ∨ Coincident last.published first second := by
  have recorded := recorded_run run
  rw [finished] at recorded
  cases second with
  | none =>
    obtain ⟨member, empty, rfl, rfl, rfl⟩ := recorded
    have whole : [] = first.fragmentIds := (List.length_eq_zero_iff.mp (by simpa using empty)).symm
    exact ⟨fun _ => .inl fun _ absent => by simp at absent, fun _ => ⟨le_refl 0, first, member, whole⟩⟩
  | some found =>
    obtain ⟨_, member, rfl, rfl, rfl⟩ := recorded
    rw [writeIds_replicate, length_fragmentIds]
    constructor
    · rintro ⟨fits, snapshot, published, same⟩
      rw [List.take_of_length_le (by simpa using fits)] at same
      rcases Nat.lt_or_eq_of_le fits with fewer | equal
      · exact .inr ⟨found, rfl, fewer, snapshot, published, same⟩
      · refine .inl fun _ seen => ?_
        rwa [← Option.some.inj seen]
    · rintro (steady | ⟨_, seen, fewer, snapshot, published, same⟩)
      · have equal := steady found rfl
        refine ⟨equal.le, found, member, ?_⟩
        rw [equal, Nat.sub_self, List.replicate_zero, List.append_nil]
        exact List.take_of_length_le (by simp [equal])
      · cases Option.some.inj seen
        refine ⟨fewer.le, snapshot, published, ?_⟩
        rwa [List.take_of_length_le (by simpa using fewer.le)]

section Sample

/-- An insert that commits one more fragment. -/
def sampleAppend : Call Nat where
  held := []
  allocator := .bump
  mutation dataset :=
    (.returned (.ok 1), { dataset with version := 2, fragments := dataset.fragments ++ [⟨1, some 3, []⟩] })

/-- The append lands between the two calls: two ids go into one slot. -/
theorem fragmentIds_overruns : ∃ actions last first second ids,
    Run (EnumerationStep Nat) (.initial sampleHandle) actions last ∧
      last.position = .finished first second 1 2 ids ∧ ¬Faithful last.published 1 2 ids := by
  have counted : Run (EnumerationStep Nat) (.initial sampleHandle) [.count] _ := Run.single (.count rfl)
  have filled := ((counted.snoc .allocate).snoc (.publish sampleAppend)).snoc (.fill (by decide) rfl)
  exact ⟨_, _, _, _, _, filled, rfl, fun faithful => by simpa using faithful.1⟩

/-- Here the append comes before the count. -/
theorem fragmentIds_faithful_sample :
    Faithful [sampleHandle.inner.value, (sampleHandle.after sampleAppend).inner.value] 2 2 [0, 1] := by
  have published : Run (EnumerationStep Nat) (.initial sampleHandle) [.publish] _ :=
    Run.single (.publish sampleAppend)
  have filled := ((published.snoc (.count rfl)).snoc .allocate).snoc (.fill (by decide) rfl)
  exact (fragmentIds_faithful_iff filled rfl).mpr (.inl fun _ seen => by rw [← Option.some.inj seen])

end Sample

end LanceDataset

end LanceC
