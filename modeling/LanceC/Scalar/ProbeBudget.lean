import LanceC.Scalar.SelectionInvariant
import Mathlib.Algebra.GroupWithZero.Nat

/-! The probe budget over a whole choice, and its independence of what the session has cached. -/

namespace LanceC.Scalar

open Logic Machine

/-- The budget after an event; `none` where a subtraction would underflow or rows
beyond the decoded budget would be read. -/
def ProbeBudget.pay (budget : ProbeBudget) : ProbeEvent → Option ProbeBudget
  | .probe | .openFile _ => some budget
  | .charge size => do return { budget with serializedBytes := ← checkedSub budget.serializedBytes size }
  | .materialise decodedBytes => if decodedBytes ≤ budget.decodedBytes then some budget else none
  | .spend decodedBytes => do return { budget with decodedBytes := ← checkedSub budget.decodedBytes decodedBytes }

namespace ProbeEvent

def probes : ProbeEvent → Nat
  | probe => 1
  | _ => 0

def charged : ProbeEvent → Nat
  | charge size => size
  | _ => 0

def opened : ProbeEvent → Nat
  | openFile size => size
  | _ => 0

def spent : ProbeEvent → Nat
  | spend decodedBytes => decodedBytes
  | _ => 0

end ProbeEvent

section Ledger

/-- What an event takes and what it leaves is what there was. -/
theorem pay_balance {budget left : ProbeBudget} {event : ProbeEvent} (paid : budget.pay event = some left) :
    event.charged + left.serializedBytes = budget.serializedBytes ∧
      event.spent + left.decodedBytes = budget.decodedBytes := by
  cases event with
  | probe | openFile =>
    rw [← Option.some.inj paid]
    exact ⟨Nat.zero_add _, Nat.zero_add _⟩
  | charge size =>
    obtain ⟨rest, subtracted, same⟩ := Option.bind_eq_some_iff.mp paid
    obtain ⟨enough, rfl⟩ := checkedSub_eq_some.mp subtracted
    rw [← Option.some.inj same]
    exact ⟨by simp only [ProbeEvent.charged]; omega, Nat.zero_add _⟩
  | materialise decodedBytes =>
    rw [ProbeBudget.pay] at paid
    split at paid
    · rw [← Option.some.inj paid]
      exact ⟨Nat.zero_add _, Nat.zero_add _⟩
    · cases paid
  | spend decodedBytes =>
    obtain ⟨rest, subtracted, same⟩ := Option.bind_eq_some_iff.mp paid
    obtain ⟨enough, rfl⟩ := checkedSub_eq_some.mp subtracted
    rw [← Option.some.inj same]
    exact ⟨Nat.zero_add _, by simp only [ProbeEvent.spent]; omega⟩

/-- No more is opened than is charged for. -/
def Covered {α : Type} (run : Traced ProbeEvent α) : Prop :=
  run.total ProbeEvent.opened ≤ run.total ProbeEvent.charged

variable {α β : Type}

theorem Covered.pure (result : α) : Covered (pure result) := Nat.le_refl 0

theorem Covered.bind {first : Traced ProbeEvent α} {next : α → Traced ProbeEvent β} (earlier : Covered first)
    (later : Covered (next first.value)) : Covered (first >>= next) := by
  unfold Covered at *
  rw [Traced.total_bind, Traced.total_bind]
  exact Nat.add_le_add earlier later

end Ledger

section Load

variable {Value : Type} [Target] {store : LookupStore Value} {uuid : Uuid} {size : Nat} {budget : ProbeBudget}

/-- Rows are only read where they fit into what is left. -/
theorem loadLookup_replays :
    (loadLookup store uuid size budget.decodedBytes).Replays ProbeBudget.pay budget fun _ => budget := by
  unfold loadLookup
  refine .bind (.record rfl) ?_
  split
  · exact .pure rfl
  · split
    · exact .pure rfl
    · split
      · exact .pure rfl
      · split
        · exact .pure rfl
        · rename_i fits
          split
          · exact .pure rfl
          · exact .pure rfl
          · exact .bind (.record (if_pos (Nat.le_of_not_lt fits))) (.pure rfl)

/-- The loader opens one file, and does nothing that a probe is charged for. -/
theorem loadLookup_total {available : Nat} :
    (loadLookup store uuid size available).total ProbeEvent.opened = size ∧
      (loadLookup store uuid size available).total ProbeEvent.charged = 0 ∧
      (loadLookup store uuid size available).total ProbeEvent.probes = 0 := by
  simp only [loadLookup, Traced.total_bind, Traced.total_record]
  repeat' split
  all_goals exact ⟨rfl, rfl, rfl⟩

variable {cache : LookupCache Value} {key : LookupKey} {load : Traced ProbeEvent (Option (Lookup Value))}

omit [Target] in
theorem getOrInsert_replays (loads : load.Replays ProbeBudget.pay budget fun _ => budget) :
    (getOrInsertWithKey cache key load).Replays ProbeBudget.pay budget fun _ => budget := by
  unfold getOrInsertWithKey
  split
  · exact .pure rfl
  · refine .bind loads ?_
    split <;> exact .pure rfl

omit [Target] in
/-- A hit loads nothing. -/
theorem getOrInsert_total (measure : ProbeEvent → Nat) :
    (getOrInsertWithKey cache key load).total measure = if (cache key).isSome then 0 else load.total measure := by
  unfold getOrInsertWithKey
  cases cache key with
  | some lookup => rfl
  | none =>
    rw [Traced.total_bind]
    split <;> rfl

end Load

section Search

variable {Value : Type} [Target] [ScalarOrder Value] {store : LookupStore Value} {dataset : Dataset}
variable {index : IndexMetadata} {expr : ScalarIndexExpr Value} {budget : ProbeBudget} {cache : LookupCache Value}

/-- One probe pays for what it does, and the budget it returns is what is left. -/
theorem estimateCost_replays :
    (estimateCost store dataset index expr budget cache).Replays ProbeBudget.pay budget (·.2.1) := by
  unfold estimateCost
  refine .bind (.record rfl) ?_
  split
  · exact .pure rfl
  · split
    · exact .pure rfl
    · split
      · exact .pure rfl
      · rename_i size _ affordable
        have charged : budget.pay (.charge size) =
            some { budget with serializedBytes := budget.serializedBytes - size } := by
          simp [ProbeBudget.pay, checkedSub, Nat.le_of_not_lt affordable]
        refine .bind (.record charged) (.bind (getOrInsert_replays loadLookup_replays) ?_)
        split
        · exact .pure rfl
        · split
          · exact .pure rfl
          · rename_i lookup after _ decodedBytes subtracted
            refine .bind (.record (Option.bind_eq_some_iff.mpr ⟨decodedBytes, subtracted, rfl⟩)) ?_
            split <;> exact .pure rfl

/-- A probe opens one file at most, and only after it has been charged for it. -/
theorem estimateCost_total :
    Covered (estimateCost store dataset index expr budget cache) ∧
      (estimateCost store dataset index expr budget cache).total ProbeEvent.probes = 1 := by
  unfold Covered estimateCost
  simp only [Traced.total_bind, Traced.total_record]
  split
  · exact ⟨Nat.le_refl 0, rfl⟩
  · split
    · exact ⟨Nat.le_refl 0, rfl⟩
    · split
      · exact ⟨Nat.le_refl 0, rfl⟩
      · rename_i size _ _
        obtain ⟨opened, charged, probes⟩ := @loadLookup_total _ _ store index.uuid size budget.decodedBytes
        simp only [Traced.total_bind, Traced.total_record, getOrInsert_total, opened, charged, probes, ite_self]
        have most : (if (cache ⟨dataset.uri, index.uuid⟩).isSome then 0 else size) ≤ size := by
          split
          · exact Nat.zero_le size
          · exact Nat.le_refl size
        rcases (getOrInsertWithKey cache ⟨dataset.uri, index.uuid⟩
          (loadLookup store index.uuid size budget.decodedBytes)).value with ⟨_ | lookup, after⟩
        · exact ⟨by simpa [ProbeEvent.opened, ProbeEvent.charged] using most, rfl⟩
        · dsimp only
          cases checkedSub budget.decodedBytes lookup.decodedBytes with
          | none => exact ⟨by simpa [ProbeEvent.opened, ProbeEvent.charged] using most, rfl⟩
          | some decodedBytes =>
            cases estimatePages lookup.batch expr <;>
              exact ⟨by simpa [ProbeEvent.opened, ProbeEvent.charged] using most, rfl⟩

variable {selector : Selector Value} {candidate : IndexMetadata} {search : Search Value}

theorem probeCandidate_replays :
    (probeCandidate selector candidate expr search).Replays ProbeBudget.pay search.budget Search.budget := by
  unfold probeCandidate
  refine .bind estimateCost_replays ?_
  dsimp only
  split
  · split <;> exact .pure rfl
  · exact .pure rfl

/-- A probe of a candidate does what its cost estimate does, and is counted. -/
theorem probeCandidate_total :
    Covered (probeCandidate selector candidate expr search) ∧
      (probeCandidate selector candidate expr search).total ProbeEvent.probes = 1 ∧
      (probeCandidate selector candidate expr search).value.candidates = search.candidates + 1 := by
  obtain ⟨covered, once⟩ := @estimateCost_total _ _ _ selector.store selector.dataset candidate expr search.budget
    search.cache
  unfold probeCandidate
  refine ⟨covered.bind ?_, ?_⟩
  all_goals
    simp only [Traced.total_bind, Traced.value_bind, once]
    rcases (estimateCost selector.store selector.dataset candidate expr search.budget search.cache).value with
      ⟨_ | ⟨price, pages⟩, budget, after⟩
  · exact .pure _
  · dsimp only
    split <;> exact .pure _
  · exact ⟨rfl, rfl⟩
  · dsimp only
    split <;> exact ⟨rfl, rfl⟩

theorem searchAlternatives_replays (alternatives : List IndexMetadata) :
    (searchAlternatives selector alternatives search).Replays ProbeBudget.pay search.budget Search.budget := by
  induction alternatives generalizing search with
  | nil => exact .pure rfl
  | cons candidate rest ih =>
    rw [searchAlternatives]
    split
    · exact .pure rfl
    · cases candidateExpression selector candidate with
      | none => exact ih
      | some expr => exact .bind probeCandidate_replays ih

/-- The loop counts its probes and stops at the limit. -/
theorem searchAlternatives_total (alternatives : List IndexMetadata) (within : search.candidates ≤ maxCandidates) :
    Covered (searchAlternatives selector alternatives search) ∧
      search.candidates + (searchAlternatives selector alternatives search).total ProbeEvent.probes =
        (searchAlternatives selector alternatives search).value.candidates ∧
      (searchAlternatives selector alternatives search).value.candidates ≤ maxCandidates := by
  induction alternatives generalizing search with
  | nil => exact ⟨.pure search, rfl, within⟩
  | cons candidate rest ih =>
    rw [searchAlternatives]
    split
    · exact ⟨.pure search, rfl, within⟩
    · rename_i room
      cases candidateExpression selector candidate with
      | none => exact ih within
      | some expr =>
        obtain ⟨covered, once, counted⟩ := @probeCandidate_total _ _ _ expr selector candidate search
        obtain ⟨later, same, limit⟩ := @ih (probeCandidate selector candidate expr search).value (by omega)
        refine ⟨covered.bind later, ?_, limit⟩
        rw [Traced.total_bind, once, Traced.value_bind, ← same, counted]
        omega

variable {indices : List IndexMetadata} {grouping : IndexMetadata} {groupingExpr : ScalarIndexExpr Value}
variable {counts : AllCounts}

/-- A whole choice pays for what it does. -/
theorem choose_replays :
    (choose selector indices grouping groupingExpr cache counts).Replays ProbeBudget.pay .default (·.2.2.2) := by
  unfold choose
  split
  · exact .pure rfl
  · refine .bind estimateCost_replays ?_
    rcases (estimateCost selector.store selector.dataset grouping groupingExpr .default cache).value with
      ⟨_ | ⟨cost, pages⟩, budget, after⟩
    · exact .pure rfl
    · refine .bind (searchAlternatives_replays _) ?_
      split <;> exact .pure rfl

theorem choose_total :
    Covered (choose selector indices grouping groupingExpr cache counts) ∧
      (choose selector indices grouping groupingExpr cache counts).total ProbeEvent.probes ≤ maxCandidates := by
  obtain ⟨covered, once⟩ := @estimateCost_total _ _ _ selector.store selector.dataset grouping groupingExpr .default
    cache
  have start : 1 ≤ maxCandidates := by decide
  unfold choose
  split
  · exact ⟨.pure _, Nat.zero_le _⟩
  · refine ⟨covered.bind ?_, ?_⟩
    all_goals
      simp only [Traced.total_bind, once]
      rcases (estimateCost selector.store selector.dataset grouping groupingExpr .default cache).value with
        ⟨_ | ⟨cost, pages⟩, budget, after⟩
    · exact .pure _
    · obtain ⟨searched, _⟩ := @searchAlternatives_total _ _ _ selector
        ⟨budget, after, 1, cost, pages, (grouping.uuid, groupingExpr)⟩ (sortedAlternatives indices grouping) start
      refine searched.bind ?_
      split <;> exact .pure _
    · exact start
    · obtain ⟨_, counted, limit⟩ := @searchAlternatives_total _ _ _ selector
        ⟨budget, after, 1, cost, pages, (grouping.uuid, groupingExpr)⟩ (sortedAlternatives indices grouping) start
      rw [← counted] at limit
      simp only [Traced.total_bind]
      split <;> exact limit

end Search

section Cache

variable {Value : Type} [Target] {store : LookupStore Value} {dataset : Dataset} {cache other : LookupCache Value}

/-- The dataset's entries are what loads of its files have returned. -/
def FromLoads (store : LookupStore Value) (dataset : Dataset) (cache : LookupCache Value) : Prop :=
  ∀ uuid lookup, cache ⟨dataset.uri, uuid⟩ = some lookup →
    ∃ size available, (loadLookup store uuid size available).value = some lookup

/-- Immutable files: a later load returns the same lookup, wherever the decoded budget admits it. -/
theorem loadLookup_again {uuid : Uuid} {size other available later : Nat} {lookup : Lookup Value}
    (loaded : (loadLookup store uuid size available).value = some lookup) :
    (loadLookup store uuid other later).value = if lookup.decodedBytes ≤ later then some lookup else none := by
  simp only [loadLookup, Traced.value_bind] at loaded ⊢
  cases opened : store.openIndexFile uuid with
  | none =>
    rw [opened] at loaded
    cases loaded
  | some reader =>
    rw [opened] at loaded
    dsimp only at loaded ⊢
    split at loaded
    · cases loaded
    · rename_i pages
      cases sized : decodedLookupBytes reader.schema reader.numRows with
      | none =>
        rw [sized] at loaded
        cases loaded
      | some decodedBytes =>
        rw [sized] at loaded
        dsimp only at loaded
        split at loaded
        · cases loaded
        · split at loaded
          · cases loaded
          · cases loaded
          · rename_i rowsPerPage _ _
            obtain ⟨batch, read, same⟩ := Option.map_eq_some_iff.mp loaded
            rw [← same, if_neg pages]
            by_cases fits : decodedBytes ≤ later
            · simp [fits, Nat.not_lt_of_le fits, read]
            · simp [fits, Nat.lt_of_not_le fits]

/-- A hit beyond the decoded budget ends like the load that is refused for it. -/
theorem getOrInsert_filter (fromLoads : FromLoads store dataset cache) (uuid : Uuid) (size available : Nat) :
    (getOrInsertWithKey cache ⟨dataset.uri, uuid⟩ (loadLookup store uuid size available)).value.1.filter
      (·.decodedBytes ≤ available) = (loadLookup store uuid size available).value := by
  unfold getOrInsertWithKey
  cases cached : cache ⟨dataset.uri, uuid⟩ with
  | some lookup =>
    obtain ⟨earlierSize, earlier, loaded⟩ := fromLoads uuid lookup cached
    rw [loadLookup_again loaded]
    by_cases fits : lookup.decodedBytes ≤ available <;> simp [Option.filter, fits]
  | none =>
    rw [Traced.value_bind]
    cases load : (loadLookup store uuid size available).value with
    | none => rfl
    | some lookup =>
      have fits : lookup.decodedBytes ≤ available := by
        have again := @loadLookup_again _ _ _ _ _ size _ available _ load
        rw [load] at again
        by_contra exceeds
        simp [exceeds] at again
      simp [Option.filter, fits]

theorem getOrInsert_fromLoads (fromLoads : FromLoads store dataset cache) (uuid : Uuid) (size available : Nat) :
    FromLoads store dataset
      (getOrInsertWithKey cache ⟨dataset.uri, uuid⟩ (loadLookup store uuid size available)).value.2 := by
  unfold getOrInsertWithKey
  cases cached : cache ⟨dataset.uri, uuid⟩ with
  | some lookup => exact fromLoads
  | none =>
    rw [Traced.value_bind]
    cases load : (loadLookup store uuid size available).value with
    | none => exact fromLoads
    | some lookup =>
      intro asked found inserted
      simp only [Traced.value_pure] at inserted
      split at inserted
      · rename_i same
        cases same
        exact ⟨size, available, Option.some.inj inserted ▸ load⟩
      · exact fromLoads asked found inserted

variable [ScalarOrder Value]

/-- What is left to do once the lookup is at hand. -/
def settle (expr : ScalarIndexExpr Value) (budget : ProbeBudget) :
    Option (Lookup Value) → Option (Nat × Nat) × ProbeBudget
  | none => (none, budget)
  | some lookup =>
    ((estimatePages lookup.batch expr).map fun pages => (saturatingMulU64 lookup.rowsPerPage pages, pages),
      { budget with decodedBytes := budget.decodedBytes - lookup.decodedBytes })

/-- The probe as a session without a cache makes it. -/
def freshCost (store : LookupStore Value) (dataset : Dataset) (index : IndexMetadata)
    (expr : ScalarIndexExpr Value) (budget : ProbeBudget) : Option (Nat × Nat) × ProbeBudget :=
  if !isBtreeExpression expr then (none, budget)
  else
    match lookupFileSize store dataset index with
    | none => (none, budget)
    | some size =>
      if size > budget.serializedBytes then (none, budget)
      else
        settle expr { budget with serializedBytes := budget.serializedBytes - size }
          (loadLookup store index.uuid size budget.decodedBytes).value

variable {index : IndexMetadata} {expr : ScalarIndexExpr Value} {budget : ProbeBudget}

theorem estimateCost_fresh (fromLoads : FromLoads store dataset cache) :
    ((estimateCost store dataset index expr budget cache).value.1,
        (estimateCost store dataset index expr budget cache).value.2.1) =
      freshCost store dataset index expr budget := by
  simp only [estimateCost, freshCost, Traced.value_bind]
  split
  · rfl
  · cases lookupFileSize store dataset index with
    | none => rfl
    | some size =>
      dsimp only
      split
      · rfl
      · rename_i size _
        have admitted := getOrInsert_filter fromLoads index.uuid size budget.decodedBytes
        simp only [Traced.value_bind]
        generalize (getOrInsertWithKey cache ⟨dataset.uri, index.uuid⟩
          (loadLookup store index.uuid size budget.decodedBytes)).value = fetched at admitted ⊢
        rw [← admitted]
        obtain ⟨_ | lookup, after⟩ := fetched
        · rfl
        · by_cases fits : lookup.decodedBytes ≤ budget.decodedBytes
          · simp only [checkedSub, fits, ↓reduceIte, Option.filter, decide_true, settle]
            cases estimatePages lookup.batch expr <;> rfl
          · simp [checkedSub, fits, Option.filter, settle]

theorem estimateCost_fromLoads (fromLoads : FromLoads store dataset cache) :
    FromLoads store dataset (estimateCost store dataset index expr budget cache).value.2.2 := by
  simp only [estimateCost, Traced.value_bind]
  split
  · exact fromLoads
  · cases lookupFileSize store dataset index with
    | none => exact fromLoads
    | some size =>
      dsimp only
      split
      · exact fromLoads
      · have after := getOrInsert_fromLoads fromLoads index.uuid size budget.decodedBytes
        simp only [Traced.value_bind]
        revert after
        rcases (getOrInsertWithKey cache ⟨dataset.uri, index.uuid⟩
          (loadLookup store index.uuid size budget.decodedBytes)).value with ⟨_ | lookup, left⟩
        · exact id
        · intro after
          dsimp only
          split
          · exact after
          · simp only [Traced.value_bind]
            split <;> exact after

/-- Two searches that may differ in what is cached. -/
def SameButCache (store : LookupStore Value) (dataset : Dataset) (one two : Search Value) : Prop :=
  FromLoads store dataset one.cache ∧ FromLoads store dataset two.cache ∧ { one with cache := two.cache } = two

theorem probeCandidate_sameButCache (selector : Selector Value) (candidate : IndexMetadata)
    (expr : ScalarIndexExpr Value) {one two : Search Value}
    (same : SameButCache selector.store selector.dataset one two) :
    SameButCache selector.store selector.dataset (probeCandidate selector candidate expr one).value
      (probeCandidate selector candidate expr two).value := by
  obtain ⟨budget, cache, candidates, cost, pages, selected⟩ := one
  obtain ⟨_, other, _, _, _, _⟩ := two
  obtain ⟨first, second, equal⟩ := same
  obtain ⟨rfl, _, rfl, rfl, rfl, rfl⟩ := Search.mk.inj equal
  have results := (@estimateCost_fresh _ _ _ _ _ _ candidate expr budget first).trans
    (@estimateCost_fresh _ _ _ _ _ _ candidate expr budget second).symm
  have after := @estimateCost_fromLoads _ _ _ _ _ _ candidate expr budget first
  have after' := @estimateCost_fromLoads _ _ _ _ _ _ candidate expr budget second
  simp only [probeCandidate, Traced.value_bind] at results after after' ⊢
  generalize (estimateCost selector.store selector.dataset candidate expr budget cache).value = one
    at results after ⊢
  generalize (estimateCost selector.store selector.dataset candidate expr budget other).value = two
    at results after' ⊢
  obtain ⟨estimate, left, kept⟩ := one
  obtain ⟨_, _, kept'⟩ := two
  obtain ⟨rfl, rfl⟩ := Prod.mk.inj results
  rcases estimate with _ | ⟨price, found⟩
  · exact ⟨after, after', rfl⟩
  · dsimp only
    split <;> exact ⟨after, after', rfl⟩

theorem searchAlternatives_sameButCache (selector : Selector Value) (alternatives : List IndexMetadata)
    {one two : Search Value} (same : SameButCache selector.store selector.dataset one two) :
    SameButCache selector.store selector.dataset (searchAlternatives selector alternatives one).value
      (searchAlternatives selector alternatives two).value := by
  induction alternatives generalizing one two with
  | nil => exact same
  | cons candidate rest ih =>
    have counted := congrArg Search.candidates same.2.2
    dsimp only at counted
    rw [searchAlternatives, searchAlternatives, counted]
    split
    · exact same
    · cases candidateExpression selector candidate with
      | none => exact ih same
      | some expr => exact ih (probeCandidate_sameButCache selector candidate expr same)

/-- What earlier queries have cached changes neither the decision nor the counters nor what is
left of the budget. -/
theorem choose_of_fromLoads {selector : Selector Value} {indices : List IndexMetadata} {grouping : IndexMetadata}
    {groupingExpr : ScalarIndexExpr Value} {counts : AllCounts}
    (cached : FromLoads selector.store selector.dataset cache)
    (others : FromLoads selector.store selector.dataset other) :
    let one := (choose selector indices grouping groupingExpr cache counts).value
    let two := (choose selector indices grouping groupingExpr other counts).value
    one.1 = two.1 ∧ one.2.1 = two.2.1 ∧ one.2.2.2 = two.2.2.2 := by
  have results := (@estimateCost_fresh _ _ _ _ _ _ grouping groupingExpr .default cached).trans
    (@estimateCost_fresh _ _ _ _ _ _ grouping groupingExpr .default others).symm
  have after := @estimateCost_fromLoads _ _ _ _ _ _ grouping groupingExpr .default cached
  have after' := @estimateCost_fromLoads _ _ _ _ _ _ grouping groupingExpr .default others
  unfold choose
  split
  · exact ⟨rfl, rfl, rfl⟩
  · simp only [Traced.value_bind]
    generalize (estimateCost selector.store selector.dataset grouping groupingExpr .default cache).value = one
      at results after ⊢
    generalize (estimateCost selector.store selector.dataset grouping groupingExpr .default other).value = two
      at results after' ⊢
    obtain ⟨estimate, left, kept⟩ := one
    obtain ⟨_, _, kept'⟩ := two
    obtain ⟨rfl, rfl⟩ := Prod.mk.inj results
    rcases estimate with _ | ⟨cost, pages⟩
    · exact ⟨rfl, rfl, rfl⟩
    · have start : SameButCache selector.store selector.dataset
          ⟨left, kept, 1, cost, pages, (grouping.uuid, groupingExpr)⟩
          ⟨left, kept', 1, cost, pages, (grouping.uuid, groupingExpr)⟩ := ⟨after, after', rfl⟩
      obtain ⟨_, _, equal⟩ := searchAlternatives_sameButCache selector (sortedAlternatives indices grouping) start
      simp only [Traced.value_bind]
      generalize (searchAlternatives selector (sortedAlternatives indices grouping)
        ⟨left, kept, 1, cost, pages, (grouping.uuid, groupingExpr)⟩).value = one at equal ⊢
      generalize (searchAlternatives selector (sortedAlternatives indices grouping)
        ⟨left, kept', 1, cost, pages, (grouping.uuid, groupingExpr)⟩).value = two at equal ⊢
      obtain ⟨_, _, _, _, _, _⟩ := one
      obtain ⟨_, _, _, _, _, _⟩ := two
      obtain ⟨rfl, _, rfl, rfl, rfl, rfl⟩ := Search.mk.inj equal
      dsimp only
      split <;> exact ⟨rfl, rfl, rfl⟩

/-- A probe does not tell a cached lookup from a fresh one, and so neither does a whole choice.
What a choice does to its files and its budget leads from the full budget to what is left of it,
without an underflow and without reading rows beyond it, and stays within the limits. -/
theorem probe_budget_sound :
    (∀ (store : LookupStore Value) dataset index expr budget (cache other : LookupCache Value),
      FromLoads store dataset cache → FromLoads store dataset other →
      let one := (estimateCost store dataset index expr budget cache).value
      let two := (estimateCost store dataset index expr budget other).value
      one.1 = two.1 ∧ one.2.1 = two.2.1 ∧ FromLoads store dataset one.2.2) ∧
    (∀ (selector : Selector Value) indices grouping groupingExpr counts (cache other : LookupCache Value),
      FromLoads selector.store selector.dataset cache → FromLoads selector.store selector.dataset other →
      let one := (choose selector indices grouping groupingExpr cache counts).value
      let two := (choose selector indices grouping groupingExpr other counts).value
      one.1 = two.1 ∧ one.2.1 = two.2.1 ∧ one.2.2.2 = two.2.2.2) ∧
    ∀ (selector : Selector Value) indices grouping groupingExpr cache counts,
      let run := choose selector indices grouping groupingExpr cache counts
      run.events.foldlM ProbeBudget.pay .default = some run.value.2.2.2 ∧
        run.total ProbeEvent.opened ≤ maxLookupBytes ∧
        run.total ProbeEvent.charged ≤ maxLookupBytes ∧
        run.total ProbeEvent.spent ≤ maxDecodedLookupBytes ∧
        run.total ProbeEvent.probes ≤ maxCandidates := by
  refine ⟨?_, ?_, ?_⟩
  · intro store dataset index expr budget cache other cached others
    have same := (estimateCost_fresh cached).trans (@estimateCost_fresh _ _ _ _ _ _ index expr budget others).symm
    obtain ⟨estimates, budgets⟩ := Prod.mk.inj same
    exact ⟨estimates, budgets, estimateCost_fromLoads cached⟩
  · intro selector indices grouping groupingExpr counts cache other cached others
    exact choose_of_fromLoads cached others
  · intro selector indices grouping groupingExpr cache counts run
    have paid : run.Replays ProbeBudget.pay .default (·.2.2.2) := choose_replays
    have serialized := paid.balance fun step => (pay_balance step).1
    have decoded := paid.balance fun step => (pay_balance step).2
    obtain ⟨covered, probes⟩ : Covered run ∧ run.total ProbeEvent.probes ≤ maxCandidates := choose_total
    have within : run.total ProbeEvent.charged ≤ maxLookupBytes := (Nat.le_add_right _ _).trans serialized.le
    have bounded : run.total ProbeEvent.spent ≤ maxDecodedLookupBytes := (Nat.le_add_right _ _).trans decoded.le
    exact ⟨paid, covered.trans within, within, bounded, probes⟩

end Cache

section Sample

/-- The grouping lookup is found in the cache of an earlier probe. -/
theorem probe_budget_sound_sample :
    letI := target64
    letI := natOrder
    let probe := estimateCost sampleSelector.store sampleSelector.dataset (sampleSegment 1 "one")
      (.query (sampleSearch "one"))
    let fresh := probe .default fun _ => none
    (probe .default fresh.value.2.2).value.2.1 = fresh.value.2.1 ∧
      (probe .default fresh.value.2.2).events = [.probe, .charge 100, .spend 3099] ∧
      fresh.events = [.probe, .charge 100, .openFile 100, .materialise 3099, .spend 3099] :=
  letI := target64
  letI := natOrder
  have empty : FromLoads sampleSelector.store sampleSelector.dataset fun _ => none :=
    fun _ _ absent => by cases absent
  have transparent := probe_budget_sound.1 sampleSelector.store sampleSelector.dataset (sampleSegment 1 "one")
    (.query (sampleSearch "one")) .default
  ⟨(transparent _ _ (transparent _ _ empty empty).2.2 empty).2.1, by decide +kernel, by decide +kernel⟩

end Sample

end LanceC.Scalar
