import LanceC.Machine.Unwind
import LanceC.Scanner.Builder

/-! The shared dataset handle and its clone-execute-swap mutation (dataset.rs). -/

namespace LanceC

open Fts Machine Scanner

/-- An allocator: the address of a new value is none that is still in use. -/
structure Allocator where
  allocate : List Nat → Nat
  fresh : ∀ live, allocate live ∉ live

theorem le_foldr_max {address : Nat} {live : List Nat} (inside : address ∈ live) : address ≤ live.foldr max 0 := by
  induction live with
  | nil => cases inside
  | cons head rest ih =>
    rw [List.foldr_cons]
    rcases List.mem_cons.mp inside with first | later
    · omega
    · have := ih later
      omega

/-- The least address above all live ones. -/
def Allocator.bump : Allocator where
  allocate live := live.foldr max 0 + 1
  fresh live member := by
    have := le_foldr_max member
    omega

structure LanceDataset where
  inner : Arc Dataset
  lockPoisoned : Bool
  deriving DecidableEq, Repr

/-- Mutations that return a `Result`, run on a working clone: what they end
with, and what they leave in the clone. -/
abbrev Mutation (R : Type) := Dataset → Unwind (Except LanceError R) × Dataset

namespace LanceDataset

variable {R : Type}

/-- Reading the handle tolerates a poisoned lock. -/
def snapshot (self : LanceDataset) : Arc Dataset := self.inner

/-- `held` are the snapshots that other objects keep alive meanwhile. The swap
asks only whether `f` panicked, not what it returned. -/
def withMut {α : Type} (self : LanceDataset) (held : List (Arc Dataset)) (allocator : Allocator)
    (f : Dataset → Unwind α × Dataset) : Unwind α × LanceDataset :=
  let (outcome, working) := f self.inner.value
  match outcome.catchUnwind with
  | .ok ret =>
    let address := allocator.allocate (self.inner.address :: held.map Arc.address)
    (.returned ret, { self with inner := ⟨address, working⟩ })
  | .error payload => (.panicked payload, { self with lockPoisoned := true })

/-- The mutation, run on the stored dataset, returns an error. -/
def Errs (self : LanceDataset) (f : Mutation R) : Prop :=
  ∃ error, (f self.inner.value).1 = .returned (.error error)

/-- A failed mutation leaves value and identity alone; a successful one stores its result. -/
def Atomic (self : LanceDataset) (f : Mutation R) (next : LanceDataset) : Prop :=
  match f self.inner.value with
  | (.returned (.ok _), working) => next.inner.value = working
  | (.returned (.error _), _) => next.inner = self.inner
  | (.panicked _, _) => next.inner = self.inner

/-- The contexts that still attach are those of the stored snapshot itself. -/
def Attaches (self : LanceDataset) (context : FtsQueryContextInner) : Prop :=
  ∃ next, (LanceScanner.new self.snapshot).setFtsQueryContext (some context) = .ok next

variable {self : LanceDataset} {held : List (Arc Dataset)} {allocator : Allocator} {f : Mutation R}

theorem attaches_iff {context : FtsQueryContextInner} :
    self.Attaches context ↔ context.dataset.address = self.inner.address := by
  have checked : (LanceScanner.new self.snapshot).setFtsQueryContext (some context) =
      (context.validateDatasetIdentity self.inner).map fun _ =>
        { LanceScanner.new self.snapshot with ftsContext := some context } := by
    rfl
  rw [Attaches, checked, ← FtsQueryContextInner.validateDatasetIdentity_ok]
  cases context.validateDatasetIdentity self.inner <;> simp [Except.map]

/-- A call stores a new snapshot or, on a panic, none. -/
theorem withMut_inner (self : LanceDataset) (held : List (Arc Dataset)) (allocator : Allocator) (f : Mutation R) :
    (∃ ret, (f self.inner.value).1 = .returned ret ∧
        (self.withMut held allocator f).2.inner.value = (f self.inner.value).2 ∧
        (self.withMut held allocator f).2.inner.address ∉ self.inner.address :: held.map Arc.address) ∨
      (∃ payload, (f self.inner.value).1 = .panicked payload ∧
        (self.withMut held allocator f).2.inner = self.inner) := by
  unfold withMut
  rcases f self.inner.value with ⟨outcome, working⟩
  cases outcome with
  | returned ret => exact .inl ⟨ret, rfl, rfl, allocator.fresh _⟩
  | panicked payload => exact .inr ⟨payload, rfl, rfl⟩

theorem withMut_atomic_iff : self.Atomic f (self.withMut held allocator f).2 ↔ ¬self.Errs f := by
  unfold Atomic Errs
  rcases withMut_inner self held allocator f with
    ⟨ret, returned, stored, moved⟩ | ⟨payload, panicked, kept⟩
  · rcases outcome : f self.inner.value with ⟨result, working⟩
    rw [outcome] at returned stored
    dsimp only at returned stored
    subst returned
    cases ret with
    | ok value => simpa using stored
    | error error =>
      have moved : (self.withMut held allocator f).2.inner ≠ self.inner := fun same =>
        moved (by simp [same])
      simpa using moved
  · rcases outcome : f self.inner.value with ⟨result, working⟩
    rw [outcome] at panicked
    dsimp only at panicked
    subst panicked
    simpa using kept

/-- One mutating call, the snapshots alive during it, and the allocator it meets. -/
structure Call (R : Type) where
  held : List (Arc Dataset)
  allocator : Allocator
  mutation : Mutation R

def after (self : LanceDataset) (call : Call R) : LanceDataset :=
  (self.withMut call.held call.allocator call.mutation).2

def runCalls (self : LanceDataset) (calls : List (Call R)) : LanceDataset :=
  calls.foldl after self

/-- A property of every call at the handle it finds. -/
def Throughout (property : LanceDataset → Mutation R → Prop) : LanceDataset → List (Call R) → Prop
  | _, [] => True
  | self, call :: rest => property self call.mutation ∧ Throughout property (self.after call) rest

def Failed (self : LanceDataset) (f : Mutation R) : Prop :=
  ∀ value, (f self.inner.value).1 ≠ .returned (.ok value)

section Contexts

variable {context : FtsQueryContextInner} {call : Call R}

theorem attaches_of_context (same : context.dataset = self.snapshot) : self.Attaches context :=
  attaches_iff.mpr (congrArg Arc.address same)

/-- A context keeps its snapshot alive, so no later snapshot takes its address. -/
theorem not_attaches_after (alive : context.dataset ∈ call.held) (detached : ¬self.Attaches context) :
    ¬(self.after call).Attaches context := by
  rw [attaches_iff] at detached ⊢
  rcases withMut_inner self call.held call.allocator call.mutation with
    ⟨ret, _, _, moved⟩ | ⟨payload, _, kept⟩
  · intro same
    have inside : (self.after call).inner.address ∈ call.held.map Arc.address :=
      same ▸ List.mem_map_of_mem alive
    exact moved (List.mem_cons_of_mem _ inside)
  · rwa [after, kept]

theorem attaches_after_failed (attached : self.Attaches context) (failed : self.Failed call.mutation) :
    (self.after call).Attaches context ↔ ¬self.Errs call.mutation := by
  rw [attaches_iff] at attached ⊢
  rcases withMut_inner self call.held call.allocator call.mutation with
    ⟨ret, returned, _, moved⟩ | ⟨payload, panicked, kept⟩
  · cases ret with
    | ok value => exact absurd returned (failed value)
    | error error =>
      have errs : self.Errs call.mutation := ⟨error, returned⟩
      have moved : context.dataset.address ≠ (self.after call).inner.address := fun same =>
        moved (List.mem_cons.mpr (.inl (same.symm.trans attached)))
      simp [errs, moved]
  · have clean : ¬self.Errs call.mutation := fun ⟨error, returned⟩ => by
      rw [panicked] at returned
      cases returned
    rw [after, kept]
    simp [clean, attached]

theorem not_attaches_run {calls : List (Call R)} (alive : ∀ call ∈ calls, context.dataset ∈ call.held)
    (detached : ¬self.Attaches context) : ¬(self.runCalls calls).Attaches context := by
  induction calls generalizing self with
  | nil => exact detached
  | cons call rest ih =>
    exact ih (fun other member => alive other (List.mem_cons_of_mem _ member))
      (not_attaches_after (alive call List.mem_cons_self) detached)

theorem attaches_run {calls : List (Call R)} (alive : ∀ call ∈ calls, context.dataset ∈ call.held)
    (attached : self.Attaches context) (failed : Throughout Failed self calls) :
    (self.runCalls calls).Attaches context ↔ Throughout (fun self f => ¬self.Errs f) self calls := by
  induction calls generalizing self with
  | nil => simpa [runCalls, Throughout] using attached
  | cons call rest ih =>
    have alive_rest : ∀ other ∈ rest, context.dataset ∈ other.held := fun other member =>
      alive other (List.mem_cons_of_mem _ member)
    have step := attaches_after_failed attached failed.1
    by_cases errs : self.Errs call.mutation
    · have detached : ¬(self.after call).Attaches context := fun still => step.mp still errs
      simp only [Throughout, errs, not_true_eq_false, false_and, iff_false]
      have gone : ¬((self.after call).runCalls rest).Attaches context := not_attaches_run alive_rest detached
      exact gone
    · simp only [Throughout, errs, not_false_eq_true, true_and]
      exact ih alive_rest (step.mpr errs) failed.2

end Contexts

/-- A call keeps its promise exactly where the mutation does not return an
error; over failed calls, a context prepared before them attaches afterwards
exactly where each of them panicked. -/
theorem withMut_rollback :
    (∀ (self : LanceDataset) held allocator (f : Mutation R),
      self.Atomic f (self.withMut held allocator f).2 ↔ ¬self.Errs f) ∧
    ∀ (self : LanceDataset) (context : FtsQueryContextInner) (calls : List (Call R)),
      context.dataset = self.snapshot → (∀ call ∈ calls, context.dataset ∈ call.held) →
      Throughout Failed self calls →
      ((self.runCalls calls).Attaches context ↔ Throughout (fun self f => ¬self.Errs f) self calls) :=
  ⟨fun _ _ _ _ => withMut_atomic_iff,
    fun _ _ _ same alive failed => attaches_run alive (attaches_of_context same) failed⟩

section Sample

def sampleHandle : LanceDataset :=
  { inner :=
      { address := 1
        value :=
          { uri := "memory://sample", version := 1, fragments := [⟨0, some 3, []⟩], schema := ⟨[]⟩
            storageFormat := .v2, usesStableRowIds := false, fragReuseIndex := none } }
    lockPoisoned := false }

def sampleContext : FtsQueryContextInner :=
  { dataset := sampleHandle.snapshot, query := .new "needle", segments := [], prepared := .matchQuery ⟨0⟩ }

/-- An update whose predicate does not parse, and one that panics. -/
def rejectedUpdate : Mutation Nat := fun dataset => (.returned (.error (.invalidInput "sql parser error")), dataset)

def panickedUpdate : Mutation Nat := fun dataset => (.panicked (.text "index out of bounds"), dataset)

theorem withMut_swaps_rejected :
    ¬sampleHandle.Atomic rejectedUpdate (sampleHandle.withMut [sampleContext.dataset] .bump rejectedUpdate).2 ∧
      sampleHandle.Attaches sampleContext ∧
      ¬(sampleHandle.withMut [sampleContext.dataset] .bump rejectedUpdate).2.Attaches sampleContext := by
  simp only [attaches_iff]
  exact ⟨by simp only [Atomic, rejectedUpdate]; decide, rfl, by decide⟩

theorem withMut_rollback_sample :
    (sampleHandle.runCalls [⟨[sampleContext.dataset], .bump, panickedUpdate⟩]).Attaches sampleContext := by
  refine (withMut_rollback.2 sampleHandle sampleContext [⟨[sampleContext.dataset], .bump, panickedUpdate⟩] rfl
    (by simp) ⟨by simp [Failed, panickedUpdate], trivial⟩).mpr ⟨?_, trivial⟩
  simp [Errs, panickedUpdate]

end Sample

end LanceDataset

end LanceC
