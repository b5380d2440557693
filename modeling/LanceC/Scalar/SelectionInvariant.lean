import LanceC.Scalar.Selection
import Mathlib.Data.Nat.Basic

/-! The search keeps the first probe of least known cost, so its decision is
the same however the indices are listed. -/

namespace LanceC.Scalar

open Logic Machine

variable {Value : Type}

/-- A candidate whose cost was asked for, with the answer. -/
structure Probe (Value : Type) where
  index : IndexMetadata
  expr : ScalarIndexExpr Value
  estimate : Option (Nat × Nat)

def Probe.cost (probe : Probe Value) : Option Nat :=
  probe.estimate.map Prod.fst

section Covers

/-- The conditions under which a candidate may stand in for the grouping segment. -/
structure Covers (selector : Selector Value) (candidate : IndexMetadata) (expr : ScalarIndexExpr Value) : Prop where
  query : ∃ field ∈ selector.dataset.schema.fields, candidate.keyedField = some field.id ∧
    ∃ rest, scopedExpression selector.indexQuery candidate.name field.name false 0 maxExpressionNodes =
      .ok (some expr, rest)
  domain : ∃ coverage, candidate.fragmentBitmap = some coverage ∧
    ∀ id ∈ selector.domain.fragmentIds, id ≤ u32Max ∧ id ∈ coverage

theorem candidateExpression_covers {selector : Selector Value} {candidate : IndexMetadata}
    {expr : ScalarIndexExpr Value} (kept : candidateExpression selector candidate = some expr) :
    Covers selector candidate expr := by
  simp only [candidateExpression, Option.bind_eq_bind, Option.bind_eq_some_iff] at kept
  obtain ⟨fieldId, keyed, field, found, coverage, known, kept⟩ := kept
  split at kept
  · cases kept
  · rename_i inside
    split at kept
    · rename_i pruned rest named
      split at kept
      · cases kept
        refine ⟨⟨field, List.mem_of_find?_eq_some found, ?_, rest, named⟩,
          ⟨coverage, known, covers_of_not_outside (by simpa using inside)⟩⟩
        have same : field.id = fieldId := by simpa using List.find?_some found
        rw [same]
        exact keyed
      · cases kept
    · cases kept

end Covers

section Run

variable [Target] [ScalarOrder Value]

/-- The probes of `searchAlternatives`, in the order it makes them. -/
def searchProbes (selector : Selector Value) : List IndexMetadata → Search Value → List (Probe Value)
  | [], _ => []
  | candidate :: rest, search =>
    if search.candidates ≥ maxCandidates then []
    else
      match candidateExpression selector candidate with
      | none => searchProbes selector rest search
      | some expr =>
        ⟨candidate, expr,
          (estimateCost selector.store selector.dataset candidate expr search.budget search.cache).value.1⟩ ::
          searchProbes selector rest (probeCandidate selector candidate expr search).value

/-- The running best is the first probe of least known cost so far. -/
def Search.Best (search : Search Value) (probes : List (Probe Value)) : Prop :=
  ∃ best, FirstLeast Probe.cost probes best search.cost ∧ search.selected = (best.index.uuid, best.expr)

theorem probeCandidate_best (selector : Selector Value) {search : Search Value}
    {probes : List (Probe Value)} (current : search.Best probes) (candidate : IndexMetadata)
    (expr : ScalarIndexExpr Value) :
    (probeCandidate selector candidate expr search).value.Best (probes ++ [⟨candidate, expr,
      (estimateCost selector.store selector.dataset candidate expr search.budget search.cache).value.1⟩]) := by
  obtain ⟨best, found, selected⟩ := current
  simp only [probeCandidate, Traced.value_bind]
  rcases (estimateCost selector.store selector.dataset candidate expr search.budget search.cache).value with
    ⟨estimate, budget, cache⟩
  cases estimate with
  | none => exact ⟨best, found.append_keep (by simp [Probe.cost]), selected⟩
  | some known =>
    obtain ⟨price, pages⟩ := known
    by_cases cheaper : price < search.cost
    · simp only [cheaper, ↓reduceIte]
      exact ⟨_, found.append_replace rfl cheaper, rfl⟩
    · simp only [cheaper, ↓reduceIte]
      refine ⟨best, found.append_keep ?_, selected⟩
      intro other same
      have : price = other := by simpa [Probe.cost] using same
      omega

theorem searchAlternatives_best (selector : Selector Value) (alternatives : List IndexMetadata)
    {search : Search Value} {probes : List (Probe Value)} (current : search.Best probes) :
    (searchAlternatives selector alternatives search).value.Best
      (probes ++ searchProbes selector alternatives search) := by
  induction alternatives generalizing search probes with
  | nil => simpa [searchAlternatives, searchProbes] using current
  | cons candidate rest ih =>
    rw [searchAlternatives, searchProbes]
    split
    · simpa using current
    · cases candidateExpression selector candidate with
      | none => exact ih current
      | some expr =>
        have next := ih (probeCandidate_best selector current candidate expr)
        rwa [List.append_assoc] at next

theorem searchProbes_sublist (selector : Selector Value) (alternatives : List IndexMetadata)
    (search : Search Value) :
    ((searchProbes selector alternatives search).map Probe.index).Sublist alternatives := by
  induction alternatives generalizing search with
  | nil => simp [searchProbes]
  | cons candidate rest ih =>
    rw [searchProbes]
    split
    · simp
    · cases candidateExpression selector candidate with
      | none => exact (ih search).cons candidate
      | some expr => exact (ih _).cons_cons candidate

theorem searchProbes_covers {selector : Selector Value} {alternatives : List IndexMetadata}
    {search : Search Value} {probe : Probe Value} (member : probe ∈ searchProbes selector alternatives search) :
    Covers selector probe.index probe.expr := by
  induction alternatives generalizing search with
  | nil => simp [searchProbes] at member
  | cons candidate rest ih =>
    rw [searchProbes] at member
    split at member
    · simp at member
    · cases kept : candidateExpression selector candidate with
      | none =>
        simp only [kept] at member
        exact ih member
      | some expr =>
        simp only [kept] at member
        rcases List.mem_cons.mp member with first | later
        · subst first
          exact candidateExpression_covers kept
        · exact ih later

end Run

section Decision

variable [Target] [ScalarOrder Value] (selector : Selector Value) (indices : List IndexMetadata)
  (grouping : IndexMetadata) (groupingExpr : ScalarIndexExpr Value) (cache : LookupCache Value)

/-- The cost probe of the grouping segment, made first and on the full budget. -/
def groupingEstimate : Option (Nat × Nat) :=
  (estimateCost selector.store selector.dataset grouping groupingExpr ProbeBudget.default cache).value.1

/-- The probes made for the alternatives once the grouping cost is known. -/
def alternativeProbes : List (Probe Value) :=
  match (estimateCost selector.store selector.dataset grouping groupingExpr ProbeBudget.default cache).value with
  | (none, _, _) => []
  | (some (cost, pages), budget, cache) =>
    searchProbes selector (sortedAlternatives indices grouping)
      { budget, cache, candidates := 1, cost, pages, selected := (grouping.uuid, groupingExpr) }

/-- All probes of one `choose`, the grouping segment first. -/
def chooseProbes : List (Probe Value) :=
  ⟨grouping, groupingExpr, groupingEstimate selector grouping groupingExpr cache⟩ ::
    alternativeProbes selector indices grouping groupingExpr cache

variable {selector indices grouping groupingExpr cache}

theorem alternativeProbes_sorted :
    ((alternativeProbes selector indices grouping groupingExpr cache).map Probe.index).Pairwise
      (precedes · ·) := by
  unfold alternativeProbes
  split
  · simp
  · exact (sortedAlternatives_sorted indices grouping).sublist (searchProbes_sublist _ _ _)

theorem alternativeProbes_mem {probe : Probe Value}
    (member : probe ∈ alternativeProbes selector indices grouping groupingExpr cache) :
    probe.index ∈ indices ∧ probe.index.uuid ≠ grouping.uuid ∧ Covers selector probe.index probe.expr := by
  unfold alternativeProbes at member
  split at member
  · simp at member
  · have listed := (searchProbes_sublist _ _ _).subset (List.mem_map_of_mem member)
    obtain ⟨inside, other⟩ := mem_sortedAlternatives.mp listed
    exact ⟨inside, other, searchProbes_covers member⟩

theorem choose_of_unknown (counts : AllCounts)
    (unknown : groupingEstimate selector grouping groupingExpr cache = none) :
    (choose selector indices grouping groupingExpr cache counts).value.1 = some (grouping.uuid, groupingExpr) := by
  unfold groupingEstimate at unknown
  unfold choose
  split
  · rfl
  · rw [Traced.value_bind]
    generalize (estimateCost selector.store selector.dataset grouping groupingExpr
      ProbeBudget.default cache).value = probed at unknown
    obtain ⟨estimate, budget, rest⟩ := probed
    cases unknown
    rfl

/-- With the grouping cost known, the decision is the first probe of least
known cost, unless even that reaches the physical row count. -/
theorem choose_of_known (indices : List IndexMetadata) (counts : AllCounts) {estimate : Nat × Nat}
    (known : groupingEstimate selector grouping groupingExpr cache = some estimate) :
    ∃ best least, FirstLeast Probe.cost (chooseProbes selector indices grouping groupingExpr cache) best least ∧
      (choose selector indices grouping groupingExpr cache counts).value.1 =
        if selector.domain.physicalRows ≤ least then none else some (best.index.uuid, best.expr) := by
  unfold chooseProbes alternativeProbes
  rw [known]
  unfold groupingEstimate at known
  have btree : isBtreeExpression groupingExpr = true := by
    cases shape : isBtreeExpression groupingExpr with
    | true => rfl
    | false => simp [estimateCost, shape] at known
  simp only [choose, btree, Bool.not_true, Bool.false_eq_true, ↓reduceIte, Traced.value_bind]
  generalize (estimateCost selector.store selector.dataset grouping groupingExpr
    ProbeBudget.default cache).value = probed at known
  obtain ⟨answer, budget, rest⟩ := probed
  obtain ⟨cost, pages⟩ := estimate
  cases known
  have start : (Search.mk budget rest 1 cost pages (grouping.uuid, groupingExpr)).Best
      [⟨grouping, groupingExpr, some (cost, pages)⟩] := ⟨_, FirstLeast.single rfl, rfl⟩
  obtain ⟨best, found, selected⟩ :=
    searchAlternatives_best selector (sortedAlternatives indices grouping) start
  refine ⟨best, _, found, ?_⟩
  simp only [Traced.value_bind, ge_iff_le]
  split
  · rfl
  · simp [selected]

/-- Listing order does not matter, and neither the decision, the counters nor
the cache can tell two listings apart. -/
theorem choose_of_perm (counts : AllCounts) {other : List IndexMetadata} (perm : other.Perm indices)
    (distinct : (indices.map IndexMetadata.uuid).Nodup) :
    choose selector other grouping groupingExpr cache counts =
      choose selector indices grouping groupingExpr cache counts := by
  unfold choose
  rw [sortedAlternatives_perm perm distinct grouping]

/-- A returned index is the grouping segment with its own expression, or an
alternative that was probed and so covers the domain with its scoped query. -/
theorem choose_some_cases (counts : AllCounts) {uuid : Uuid} {expr : ScalarIndexExpr Value}
    (chosen : (choose selector indices grouping groupingExpr cache counts).value.1 = some (uuid, expr)) :
    (uuid = grouping.uuid ∧ expr = groupingExpr) ∨
      ∃ candidate ∈ indices, candidate.uuid = uuid ∧ Covers selector candidate expr := by
  cases known : groupingEstimate selector grouping groupingExpr cache with
  | none =>
    rw [choose_of_unknown counts known] at chosen
    cases chosen
    exact .inl ⟨rfl, rfl⟩
  | some estimate =>
    obtain ⟨best, least, found, decision⟩ := choose_of_known indices counts known
    rw [decision] at chosen
    split at chosen
    · cases chosen
    · obtain ⟨sameUuid, sameExpr⟩ := Prod.mk.inj (Option.some.inj chosen)
      subst sameUuid sameExpr
      rcases List.mem_cons.mp found.mem with itself | probed
      · subst itself
        exact .inl ⟨rfl, rfl⟩
      · obtain ⟨listed, _, covers⟩ := alternativeProbes_mem probed
        exact .inr ⟨best.index, listed, rfl, covers⟩

/-- `choose` does not depend on the listing, takes the first probe of least
known cost, scans fully exactly when that cost reaches the physical rows, and
only returns alternatives that cover the domain with their own index query. -/
theorem choose_least_any_order (counts : AllCounts) (distinct : (indices.map IndexMetadata.uuid).Nodup) :
    (∀ other, other.Perm indices →
      choose selector other grouping groupingExpr cache counts =
        choose selector indices grouping groupingExpr cache counts) ∧
    (groupingEstimate selector grouping groupingExpr cache = none →
      (choose selector indices grouping groupingExpr cache counts).value.1 = some (grouping.uuid, groupingExpr)) ∧
    ((choose selector indices grouping groupingExpr cache counts).value.1 = none ↔
      ∃ estimate, groupingEstimate selector grouping groupingExpr cache = some estimate ∧
        ∃ best least, FirstLeast Probe.cost (chooseProbes selector indices grouping groupingExpr cache) best least ∧
          selector.domain.physicalRows ≤ least) ∧
    (∀ uuid expr estimate, groupingEstimate selector grouping groupingExpr cache = some estimate →
      (choose selector indices grouping groupingExpr cache counts).value.1 = some (uuid, expr) →
      ∃ best least, FirstLeast Probe.cost (chooseProbes selector indices grouping groupingExpr cache) best least ∧
        uuid = best.index.uuid ∧ expr = best.expr ∧ least ≤ estimate.1) ∧
    ((alternativeProbes selector indices grouping groupingExpr cache).map Probe.index).Pairwise (precedes · ·) ∧
    (∀ uuid expr, (choose selector indices grouping groupingExpr cache counts).value.1 = some (uuid, expr) →
      uuid ≠ grouping.uuid → ∃ candidate ∈ indices, candidate.uuid = uuid ∧ Covers selector candidate expr) := by
  refine ⟨fun other perm => choose_of_perm counts perm distinct, choose_of_unknown counts, ⟨?_, ?_⟩, ?_,
    alternativeProbes_sorted, ?_⟩
  · intro full
    cases known : groupingEstimate selector grouping groupingExpr cache with
    | none =>
      rw [choose_of_unknown counts known] at full
      cases full
    | some estimate =>
      obtain ⟨best, least, found, decision⟩ := choose_of_known indices counts known
      refine ⟨estimate, rfl, best, least, found, ?_⟩
      by_cases reached : selector.domain.physicalRows ≤ least
      · exact reached
      · rw [decision] at full
        simp [reached] at full
  · intro ⟨estimate, known, best, least, found, reached⟩
    obtain ⟨other, price, found', decision⟩ := choose_of_known indices counts known
    rw [decision, ← found.least_unique found']
    simp [reached]
  · intro uuid expr estimate known chosen
    obtain ⟨best, least, found, decision⟩ := choose_of_known indices counts known
    rw [decision] at chosen
    split at chosen
    · cases chosen
    · obtain ⟨sameUuid, sameExpr⟩ := Prod.mk.inj (Option.some.inj chosen)
      refine ⟨best, least, found, sameUuid.symm, sameExpr.symm, ?_⟩
      exact found.le (List.mem_cons_self ..) (by simp [Probe.cost, known])
  · intro uuid expr chosen changed
    rcases choose_some_cases counts chosen with ⟨same, _⟩ | alternative
    · exact absurd same changed
    · exact alternative

end Decision

section Sample

abbrev natOrder : ScalarOrder Nat := ⟨fun left right => some (compare left right)⟩

def sampleSearch (name : String) : ScalarIndexSearch Nat := ⟨"key", name, "BTree", .equals (some 15)⟩

def sampleSegment (uuid : Uuid) (name : String) : IndexMetadata :=
  { uuid, name, keyedField := some 0, fragmentBitmap := some [0], files := some [⟨"lookup", 100⟩] }

/-- One fragment and two BTree segments over the same key, with two pages each. -/
def sampleSelector : Selector Nat where
  store :=
    { btreeLookupName := "lookup", defaultBtreeBatchSize := 4
      openIndexFile := fun uuid => some
        { numRows := 2, schema := [.float32, .float32, .float32], batchSize := some (if uuid = 1 then "8" else "2")
          readRange := some
            { numColumns := 3, numRows := 2, min := fun row => some (some (row * 10))
              max := fun row => some (some (row * 10 + 9)), nulls := some fun _ => 0 } } }
  dataset :=
    { uri := "memory://sample", version := 1, fragments := [⟨0, some 20, []⟩]
      schema := ⟨[⟨⟨0, "key", .float32⟩, []⟩]⟩, storageFormat := .v2, usesStableRowIds := false
      fragReuseIndex := none }
  indexQuery := .and (.query (sampleSearch "one")) (.query (sampleSearch "two"))
  domain := ⟨[0], 20⟩

theorem choose_least_any_order_sample :
    letI := target64
    letI := natOrder
    groupingEstimate sampleSelector (sampleSegment 1 "one") (.query (sampleSearch "one")) (fun _ => none) =
      some (8, 1) ∧
    choose sampleSelector [sampleSegment 2 "two", sampleSegment 1 "one"] (sampleSegment 1 "one")
        (.query (sampleSearch "one")) (fun _ => none) (fun _ => none) =
      choose sampleSelector [sampleSegment 1 "one", sampleSegment 2 "two"] (sampleSegment 1 "one")
        (.query (sampleSearch "one")) (fun _ => none) (fun _ => none) :=
  letI := target64
  letI := natOrder
  ⟨by decide +kernel, (choose_least_any_order (fun _ => none) (by decide)).1 _ (List.Perm.swap ..)⟩

end Sample

end LanceC.Scalar
