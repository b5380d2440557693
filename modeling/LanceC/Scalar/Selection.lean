import LanceC.Logic.FirstLeast
import LanceC.Scalar.CostEstimate
import Mathlib.Data.List.Nodup

/-! The runtime choice between a grouping BTree segment and its alternatives
(`choose` of scalar_index_selection.rs). -/

namespace LanceC.Scalar

open Logic Machine

/-- The named counters of `ExecutionSummaryCounts`. -/
abbrev AllCounts := String → Option Nat

def AllCounts.insert (counts : AllCounts) (name : String) (value : Nat) : AllCounts :=
  fun other => if other = name then some value else counts other

structure ReadDomain where
  fragmentIds : List Nat
  physicalRows : Nat
  deriving DecidableEq, Repr

section

variable {Value : Type} [Target] [ScalarOrder Value]

/-- Everything `choose` reads and never changes. -/
structure Selector (Value : Type) where
  store : LookupStore Value
  dataset : Dataset
  indexQuery : ScalarIndexExpr Value
  domain : ReadDomain

/-- The variables of the loop over the alternatives. -/
structure Search (Value : Type) where
  budget : ProbeBudget
  cache : LookupCache Value
  candidates : Nat
  cost : Nat
  pages : Nat
  selected : Uuid × ScalarIndexExpr Value

/-- The order of `sort_by` on `(name, uuid)`. -/
def precedes (left right : IndexMetadata) : Bool :=
  left.name < right.name || (left.name == right.name && left.uuid.toNat ≤ right.uuid.toNat)

/-- The index query scoped to a candidate, where no filter of the loop skips it. -/
def candidateExpression (selector : Selector Value) (candidate : IndexMetadata) :
    Option (ScalarIndexExpr Value) := do
  let fieldId ← candidate.keyedField
  let field ← selector.dataset.schema.fields.find? (·.id == fieldId)
  let coverage ← candidate.fragmentBitmap
  if outsideCoverage coverage selector.domain.fragmentIds then none
  else
    match scopedExpression selector.indexQuery candidate.name field.name false 0 128 with
    | .ok (some expr, _) => if isBtreeExpression expr then some expr else none
    | _ => none

/-- One probed candidate of the loop. -/
def probeCandidate (selector : Selector Value) (candidate : IndexMetadata) (expr : ScalarIndexExpr Value)
    (search : Search Value) : Traced ProbeEvent (Search Value) := do
  let (estimate, budget, cache) ←
    estimateCost selector.store selector.dataset candidate expr search.budget search.cache
  let probed := { search with budget, cache, candidates := search.candidates + 1 }
  match estimate with
  | some (candidateCost, candidatePages) =>
    if candidateCost < search.cost then
      return { probed with cost := candidateCost, pages := candidatePages, selected := (candidate.uuid, expr) }
    else return probed
  | none => return probed

def searchAlternatives (selector : Selector Value) :
    List IndexMetadata → Search Value → Traced ProbeEvent (Search Value)
  | [], search => return search
  | candidate :: rest, search =>
    if search.candidates ≥ maxCandidates then return search
    else
      match candidateExpression selector candidate with
      | none => searchAlternatives selector rest search
      | some expr => do searchAlternatives selector rest (← probeCandidate selector candidate expr search)

def sortedAlternatives (indices : List IndexMetadata) (grouping : IndexMetadata) : List IndexMetadata :=
  (indices.filter (·.uuid != grouping.uuid)).mergeSort precedes

/-- `none` selects a scoped full scan. The session cache and what is left of the budget are
returned beside the decision and the counters. -/
def choose (selector : Selector Value) (indices : List IndexMetadata) (grouping : IndexMetadata)
    (groupingExpr : ScalarIndexExpr Value) (cache : LookupCache Value) (counts : AllCounts) :
    Traced ProbeEvent (Option (Uuid × ScalarIndexExpr Value) × AllCounts × LookupCache Value × ProbeBudget) := do
  if !isBtreeExpression groupingExpr then return (some (grouping.uuid, groupingExpr), counts, cache, .default)
  else
    let counts := counts.insert "scalar_index_auto_candidates" 1
    match ← estimateCost selector.store selector.dataset grouping groupingExpr ProbeBudget.default cache with
    | (none, budget, cache) => return (some (grouping.uuid, groupingExpr), counts, cache, budget)
    | (some (cost, pages), budget, cache) =>
      let search ← searchAlternatives selector (sortedAlternatives indices grouping)
        { budget, cache, candidates := 1, cost, pages, selected := (grouping.uuid, groupingExpr) }
      let counts := counts.insert "scalar_index_auto_candidates" search.candidates
      let counts := counts.insert "scalar_index_auto_estimated_pages" search.pages
      let counts := counts.insert "scalar_index_auto_estimated_rows" (min search.cost usizeMax)
      if search.cost ≥ selector.domain.physicalRows then
        return (none, counts.insert "scalar_index_auto_full_scans" 1, search.cache, search.budget)
      else
        let changed := if search.selected.1 = grouping.uuid then 0 else 1
        return (some search.selected, counts.insert "scalar_index_auto_changed" changed, search.cache, search.budget)

end

section Order

theorem precedes_trans (first second third : IndexMetadata) (earlier : precedes first second = true)
    (later : precedes second third = true) : precedes first third = true := by
  simp only [precedes, Bool.or_eq_true, Bool.and_eq_true, decide_eq_true_eq, beq_iff_eq] at *
  rcases earlier with below | ⟨same, order⟩ <;> rcases later with below' | ⟨same', order'⟩
  · exact .inl (String.lt_trans below below')
  · exact .inl (same' ▸ below)
  · exact .inl (same ▸ below')
  · exact .inr ⟨same.trans same', Nat.le_trans order order'⟩

theorem precedes_total (first second : IndexMetadata) :
    (precedes first second || precedes second first) = true := by
  simp only [precedes, Bool.or_eq_true, Bool.and_eq_true, decide_eq_true_eq, beq_iff_eq]
  by_cases same : first.name = second.name
  · rcases Nat.le_total first.uuid.toNat second.uuid.toNat with order | order
    · exact .inl (.inr ⟨same, order⟩)
    · exact .inr (.inr ⟨same.symm, order⟩)
  · rcases String.le_total first.name second.name with order | order
    · refine .inl (.inl (String.not_le.mp fun back => same (String.le_antisymm order back)))
    · refine .inr (.inl (String.not_le.mp fun back => same (String.le_antisymm back order)))

theorem uuid_eq_of_precedes {first second : IndexMetadata} (earlier : precedes first second = true)
    (later : precedes second first = true) : first.uuid = second.uuid := by
  simp only [precedes, Bool.or_eq_true, Bool.and_eq_true, decide_eq_true_eq, beq_iff_eq] at *
  rcases earlier with below | ⟨same, order⟩ <;> rcases later with below' | ⟨same', order'⟩
  · exact absurd (String.lt_trans below below') (String.lt_irrefl _)
  · exact absurd (same' ▸ below) (String.lt_irrefl _)
  · exact absurd (same ▸ below') (String.lt_irrefl _)
  · exact BitVec.eq_of_toNat_eq (Nat.le_antisymm order order')

theorem sortedAlternatives_sorted (indices : List IndexMetadata) (grouping : IndexMetadata) :
    (sortedAlternatives indices grouping).Pairwise (precedes · ·) :=
  List.pairwise_mergeSort precedes_trans precedes_total _

theorem mem_sortedAlternatives {indices : List IndexMetadata} {grouping candidate : IndexMetadata} :
    candidate ∈ sortedAlternatives indices grouping ↔ candidate ∈ indices ∧ candidate.uuid ≠ grouping.uuid := by
  simp [sortedAlternatives]

theorem sortedAlternatives_perm {indices other : List IndexMetadata} (perm : other.Perm indices)
    (distinct : (indices.map IndexMetadata.uuid).Nodup) (grouping : IndexMetadata) :
    sortedAlternatives other grouping = sortedAlternatives indices grouping := by
  have rearranged : (sortedAlternatives other grouping).Perm (sortedAlternatives indices grouping) :=
    (List.mergeSort_perm _ _).trans ((perm.filter _).trans (List.mergeSort_perm _ _).symm)
  refine rearranged.eq_of_pairwise ?_ (sortedAlternatives_sorted other grouping)
    (sortedAlternatives_sorted indices grouping)
  intro first second one two earlier later
  have listed := (mem_sortedAlternatives.mp one).1
  have listed' := (mem_sortedAlternatives.mp two).1
  exact List.inj_on_of_nodup_map distinct (perm.mem_iff.mp listed) listed'
    (uuid_eq_of_precedes earlier later)

end Order

end LanceC.Scalar
