import LanceC.Logic.Except
import LanceC.Logic.Kleene

/-! Scalar index expressions and the pruning that scopes one to a single index
(`scoped_expression` of scalar_segment.rs). -/

namespace LanceC.Scalar

open LanceC.Logic

inductive Bound (α : Type) where
  | included (value : α)
  | excluded (value : α)
  | unbounded
  deriving DecidableEq, Repr

/-- A typed scalar; `none` is the NULL of its type. -/
abbrev ScalarValue (Value : Type) := Option Value

/-- The query of a leaf. `other` covers the sargable variants and the query
types on which the cost estimate gives up. -/
inductive SargableQuery (Value : Type) where
  | equals (value : ScalarValue Value)
  | isIn (values : List (ScalarValue Value))
  | range (start stop : Bound (ScalarValue Value))
  | isNull
  | other (tag : Nat)
  deriving DecidableEq, Repr

structure ScalarIndexSearch (Value : Type) where
  column : String
  indexName : String
  indexType : String
  query : SargableQuery Value
  deriving DecidableEq, Repr

inductive ScalarIndexExpr (Value : Type) where
  | query (search : ScalarIndexSearch Value)
  | and (lhs rhs : ScalarIndexExpr Value)
  | or (lhs rhs : ScalarIndexExpr Value)
  | not (inner : ScalarIndexExpr Value)
  deriving DecidableEq, Repr

/-- Why a segment-scoped scan falls back to reading its whole domain. -/
inductive FallbackReason where
  | disabled
  | legacyStorage
  | nestedField
  | unknownCoverage
  | partialCoverage
  | fragmentState
  | fragmentReuse
  | noFilter
  | booleanTruthTest
  | filterSchema
  | noDriver
  | expressionBudget
  | fieldPath
  | runtimeCost
  | indexType
  | rowIdDomain
  | inexactResult
  deriving DecidableEq, Repr

def FallbackReason.text : FallbackReason → String
  | disabled => "disabled"
  | legacyStorage => "legacy_storage"
  | nestedField => "nested_field"
  | unknownCoverage => "unknown_coverage"
  | partialCoverage => "partial_coverage"
  | fragmentState => "fragment_state"
  | fragmentReuse => "fragment_reuse"
  | noFilter => "no_filter"
  | booleanTruthTest => "boolean_truth_test"
  | filterSchema => "filter_schema"
  | noDriver => "no_driver"
  | expressionBudget => "expression_budget"
  | fieldPath => "field_path"
  | runtimeCost => "runtime_cost"
  | indexType => "index_type"
  | rowIdDomain => "row_id_domain"
  | inexactResult => "inexact_result"

namespace ScalarIndexExpr

variable {Value : Type}

def leaves : ScalarIndexExpr Value → List (ScalarIndexSearch Value)
  | query search => [search]
  | and lhs rhs => lhs.leaves ++ rhs.leaves
  | or lhs rhs => lhs.leaves ++ rhs.leaves
  | not inner => inner.leaves

/-- Three-valued meaning of an expression under a valuation of its leaves. -/
def truth (valuation : ScalarIndexSearch Value → Truth) : ScalarIndexExpr Value → Truth
  | query search => valuation search
  | and lhs rhs => (lhs.truth valuation).and (rhs.truth valuation)
  | or lhs rhs => (lhs.truth valuation).or (rhs.truth valuation)
  | not inner => (inner.truth valuation).not

end ScalarIndexExpr

def maxExpressionNodes : Nat := 128
def maxExpressionDepth : Nat := 32

variable {Value : Type}

/-- The mutable node budget is returned beside the pruned expression; no caller
reads it after an error. -/
def scopedExpression (expr : ScalarIndexExpr Value) (indexName column : String)
    (requireComplete : Bool) (depth remaining : Nat) :
    Except FallbackReason (Option (ScalarIndexExpr Value) × Nat) :=
  if depth > maxExpressionDepth ∨ remaining = 0 then
    .error .expressionBudget
  else
    match expr with
    | .query search =>
      if search.indexName ≠ indexName then .ok (none, remaining - 1)
      else if search.column ≠ column then .error .fieldPath
      else .ok (some (.query search), remaining - 1)
    | .and lhs rhs => do
      let (lhs, remaining) ← scopedExpression lhs indexName column requireComplete (depth + 1) (remaining - 1)
      let (rhs, remaining) ← scopedExpression rhs indexName column requireComplete (depth + 1) remaining
      match lhs, rhs with
      | some lhs, some rhs => .ok (some (.and lhs rhs), remaining)
      | lhs, rhs => .ok (if requireComplete then none else lhs.or rhs, remaining)
    | .or lhs rhs => do
      let (lhs, remaining) ← scopedExpression lhs indexName column requireComplete (depth + 1) (remaining - 1)
      let (rhs, remaining) ← scopedExpression rhs indexName column requireComplete (depth + 1) remaining
      match lhs, rhs with
      | some lhs, some rhs => .ok (some (.or lhs rhs), remaining)
      | _, _ => .ok (none, remaining)
    | .not inner => do
      -- Negating a pruned AND would turn a safe superset into an unsafe subset.
      let (inner, remaining) ← scopedExpression inner indexName column true (depth + 1) (remaining - 1)
      .ok (inner.map .not, remaining)

/-- How `scopedExpression` joins what remains of the operands of an AND. -/
def prunedAnd (requireComplete : Bool) :
    Option (ScalarIndexExpr Value) → Option (ScalarIndexExpr Value) → Option (ScalarIndexExpr Value)
  | some lhs, some rhs => some (.and lhs rhs)
  | lhs, rhs => if requireComplete then none else lhs.or rhs

/-- An OR needs a superset from both branches. -/
def prunedOr : Option (ScalarIndexExpr Value) → Option (ScalarIndexExpr Value) → Option (ScalarIndexExpr Value)
  | some lhs, some rhs => some (.or lhs rhs)
  | _, _ => none

section Inversion

variable {indexName column : String} {requireComplete : Bool} {depth remaining rest : Nat}
variable {out : Option (ScalarIndexExpr Value)}

theorem scopedExpression_query {search : ScalarIndexSearch Value} :
    scopedExpression (.query search) indexName column requireComplete depth remaining = .ok (out, rest) ↔
      (depth ≤ maxExpressionDepth ∧ 0 < remaining) ∧ rest = remaining - 1 ∧
        ((search.indexName ≠ indexName ∧ out = none) ∨
          (search.indexName = indexName ∧ search.column = column ∧ out = some (.query search))) := by
  rw [scopedExpression]
  split
  · simp only [reduceCtorEq, false_iff]
    omega
  · have within : depth ≤ maxExpressionDepth ∧ 0 < remaining := by omega
    by_cases sameName : search.indexName = indexName
    · by_cases sameColumn : search.column = column
      · simp [within, sameName, sameColumn, and_comm, eq_comm]
      · simp [sameName, sameColumn]
    · simp [within, sameName, and_comm, eq_comm]

theorem scopedExpression_and {lhs rhs : ScalarIndexExpr Value} :
    scopedExpression (.and lhs rhs) indexName column requireComplete depth remaining = .ok (out, rest) ↔
      (depth ≤ maxExpressionDepth ∧ 0 < remaining) ∧ ∃ left middle right,
        scopedExpression lhs indexName column requireComplete (depth + 1) (remaining - 1) = .ok (left, middle) ∧
        scopedExpression rhs indexName column requireComplete (depth + 1) middle = .ok (right, rest) ∧
        out = prunedAnd requireComplete left right := by
  rw [scopedExpression]
  split
  · simp only [reduceCtorEq, false_iff]
    omega
  · have within : depth ≤ maxExpressionDepth ∧ 0 < remaining := by omega
    simp only [bind_eq_ok, Prod.exists, within, true_and]
    constructor
    · rintro ⟨left, middle, first, right, last, second, joined⟩
      refine ⟨left, middle, right, first, ?_⟩
      cases left <;> cases right <;> cases joined <;> exact ⟨second, rfl⟩
    · rintro ⟨left, middle, right, first, second, rfl⟩
      refine ⟨left, middle, first, right, rest, second, ?_⟩
      cases left <;> cases right <;> rfl

theorem scopedExpression_or {lhs rhs : ScalarIndexExpr Value} :
    scopedExpression (.or lhs rhs) indexName column requireComplete depth remaining = .ok (out, rest) ↔
      (depth ≤ maxExpressionDepth ∧ 0 < remaining) ∧ ∃ left middle right,
        scopedExpression lhs indexName column requireComplete (depth + 1) (remaining - 1) = .ok (left, middle) ∧
        scopedExpression rhs indexName column requireComplete (depth + 1) middle = .ok (right, rest) ∧
        out = prunedOr left right := by
  rw [scopedExpression]
  split
  · simp only [reduceCtorEq, false_iff]
    omega
  · have within : depth ≤ maxExpressionDepth ∧ 0 < remaining := by omega
    simp only [bind_eq_ok, Prod.exists, within, true_and]
    constructor
    · rintro ⟨left, middle, first, right, last, second, joined⟩
      refine ⟨left, middle, right, first, ?_⟩
      cases left <;> cases right <;> cases joined <;> exact ⟨second, rfl⟩
    · rintro ⟨left, middle, right, first, second, rfl⟩
      refine ⟨left, middle, first, right, rest, second, ?_⟩
      cases left <;> cases right <;> rfl

theorem scopedExpression_not {inner : ScalarIndexExpr Value} :
    scopedExpression (.not inner) indexName column requireComplete depth remaining = .ok (out, rest) ↔
      (depth ≤ maxExpressionDepth ∧ 0 < remaining) ∧ ∃ kept,
        scopedExpression inner indexName column true (depth + 1) (remaining - 1) = .ok (kept, rest) ∧
        out = kept.map .not := by
  rw [scopedExpression]
  split
  · simp only [reduceCtorEq, false_iff]
    omega
  · have within : depth ≤ maxExpressionDepth ∧ 0 < remaining := by omega
    simp only [bind_eq_ok, Prod.exists, Except.ok.injEq, Prod.mk.injEq, within, true_and]
    constructor
    · rintro ⟨kept, _, operand, same, rfl⟩
      exact ⟨kept, operand, same.symm⟩
    · rintro ⟨kept, operand, same⟩
      exact ⟨kept, rest, operand, same.symm, rfl⟩

end Inversion

section Soundness

variable {indexName column : String} {expr kept : ScalarIndexExpr Value}

/-- In complete mode nothing is pruned. -/
theorem scopedExpression_complete {depth remaining rest : Nat}
    (success : scopedExpression expr indexName column true depth remaining = .ok (some kept, rest)) :
    kept = expr := by
  induction expr generalizing kept depth remaining rest with
  | query search =>
    obtain ⟨_, _, ⟨_, absent⟩ | ⟨_, _, same⟩⟩ := scopedExpression_query.mp success
    · cases absent
    · exact Option.some.inj same
  | and lhs rhs left right =>
    obtain ⟨_, one, middle, two, first, second, joined⟩ := scopedExpression_and.mp success
    cases one with
    | none => cases two <;> simp [prunedAnd] at joined
    | some one =>
      cases two with
      | none => simp [prunedAnd] at joined
      | some two => rw [Option.some.inj joined, left first, right second]
  | or lhs rhs left right =>
    obtain ⟨_, one, middle, two, first, second, joined⟩ := scopedExpression_or.mp success
    cases one with
    | none => cases two <;> simp [prunedOr] at joined
    | some one =>
      cases two with
      | none => simp [prunedOr] at joined
      | some two => rw [Option.some.inj joined, left first, right second]
  | not inner operand =>
    obtain ⟨_, one, first, joined⟩ := scopedExpression_not.mp success
    cases one with
    | none => cases joined
    | some one => rw [Option.some.inj joined, operand first]

/-- What scoping may do to an expression: drop conjuncts, and nothing else. A negation
that stays keeps its operand. -/
inductive Prunes : ScalarIndexExpr Value → ScalarIndexExpr Value → Prop where
  | query (search : ScalarIndexSearch Value) : Prunes (.query search) (.query search)
  | both {lhs rhs left right : ScalarIndexExpr Value} :
      Prunes lhs left → Prunes rhs right → Prunes (.and lhs rhs) (.and left right)
  | left {lhs rhs left : ScalarIndexExpr Value} : Prunes lhs left → Prunes (.and lhs rhs) left
  | right {lhs rhs right : ScalarIndexExpr Value} : Prunes rhs right → Prunes (.and lhs rhs) right
  | either {lhs rhs left right : ScalarIndexExpr Value} :
      Prunes lhs left → Prunes rhs right → Prunes (.or lhs rhs) (.or left right)
  | not (inner : ScalarIndexExpr Value) : Prunes (.not inner) (.not inner)

theorem Prunes.prunedAnd {requireComplete : Bool} {lhs rhs kept : ScalarIndexExpr Value}
    {left right : Option (ScalarIndexExpr Value)} (first : ∀ one, left = some one → Prunes lhs one)
    (second : ∀ two, right = some two → Prunes rhs two)
    (joined : some kept = prunedAnd requireComplete left right) : Prunes (.and lhs rhs) kept := by
  cases left with
  | none =>
    cases right with
    | none => cases requireComplete <;> simp [Scalar.prunedAnd] at joined
    | some two =>
      cases requireComplete <;> simp [Scalar.prunedAnd] at joined
      exact .right (joined ▸ second two rfl)
  | some one =>
    cases right with
    | none =>
      cases requireComplete <;> simp [Scalar.prunedAnd] at joined
      exact .left (joined ▸ first one rfl)
    | some two =>
      rw [Option.some.inj joined]
      exact .both (first one rfl) (second two rfl)

theorem Prunes.prunedOr {lhs rhs kept : ScalarIndexExpr Value} {left right : Option (ScalarIndexExpr Value)}
    (first : ∀ one, left = some one → Prunes lhs one) (second : ∀ two, right = some two → Prunes rhs two)
    (joined : some kept = prunedOr left right) : Prunes (.or lhs rhs) kept := by
  cases left with
  | none => cases right <;> simp [Scalar.prunedOr] at joined
  | some one =>
    cases right with
    | none => simp [Scalar.prunedOr] at joined
    | some two =>
      rw [Option.some.inj joined]
      exact .either (first one rfl) (second two rfl)

/-- Below a negation this rests on the complete mode, not on the induction. -/
theorem scopedExpression_prunes {requireComplete : Bool} {depth remaining rest : Nat}
    (success : scopedExpression expr indexName column requireComplete depth remaining = .ok (some kept, rest)) :
    Prunes expr kept := by
  induction expr generalizing kept requireComplete depth remaining rest with
  | query search =>
    obtain ⟨_, _, ⟨_, absent⟩ | ⟨_, _, same⟩⟩ := scopedExpression_query.mp success
    · cases absent
    · rw [Option.some.inj same]
      exact .query search
  | and lhs rhs left right =>
    obtain ⟨_, one, middle, two, first, second, joined⟩ := scopedExpression_and.mp success
    refine Prunes.prunedAnd (fun kept same => ?_) (fun kept same => ?_) joined
    · exact left (same ▸ first)
    · exact right (same ▸ second)
  | or lhs rhs left right =>
    obtain ⟨_, one, middle, two, first, second, joined⟩ := scopedExpression_or.mp success
    refine Prunes.prunedOr (fun kept same => ?_) (fun kept same => ?_) joined
    · exact left (same ▸ first)
    · exact right (same ▸ second)
  | not inner _ =>
    obtain ⟨_, one, first, joined⟩ := scopedExpression_not.mp success
    cases one with
    | none => cases joined
    | some one =>
      rw [Option.some.inj joined, scopedExpression_complete first]
      exact .not inner

theorem Prunes.weakens (prunes : Prunes expr kept) (valuation : ScalarIndexSearch Value → Truth)
    (holds : expr.truth valuation = .yes) : kept.truth valuation = .yes := by
  induction prunes with
  | query search => exact holds
  | both _ _ left right =>
    have both := (Truth.and_eq_yes _ _).mp holds
    exact (Truth.and_eq_yes _ _).mpr ⟨left both.1, right both.2⟩
  | left _ ih => exact ih (Truth.and_weaken_left holds)
  | right _ ih => exact ih (Truth.and_weaken_right holds)
  | either _ _ left right =>
    rcases (Truth.or_eq_yes _ _).mp holds with inLeft | inRight
    · exact (Truth.or_eq_yes _ _).mpr (.inl (left inLeft))
    · exact (Truth.or_eq_yes _ _).mpr (.inr (right inRight))
  | not inner => exact holds

/-- Wherever the original is TRUE the pruned expression is TRUE. -/
theorem scopedExpression_weakens (valuation : ScalarIndexSearch Value → Truth)
    {requireComplete : Bool} {depth remaining rest : Nat}
    (success : scopedExpression expr indexName column requireComplete depth remaining = .ok (some kept, rest))
    (holds : expr.truth valuation = .yes) : kept.truth valuation = .yes :=
  (scopedExpression_prunes success).weakens valuation holds

/-- A leaf of a joined expression is a leaf of one of its operands. -/
theorem mem_leaves_prunedAnd {requireComplete : Bool} {left right : Option (ScalarIndexExpr Value)}
    (joined : some kept = prunedAnd requireComplete left right) {leaf : ScalarIndexSearch Value}
    (member : leaf ∈ kept.leaves) :
    (∃ one, left = some one ∧ leaf ∈ one.leaves) ∨ ∃ two, right = some two ∧ leaf ∈ two.leaves := by
  cases left with
  | none =>
    cases right with
    | none => cases requireComplete <;> simp [prunedAnd] at joined
    | some two =>
      cases requireComplete <;> simp [prunedAnd] at joined
      exact .inr ⟨two, rfl, joined ▸ member⟩
  | some one =>
    cases right with
    | none =>
      cases requireComplete <;> simp [prunedAnd] at joined
      exact .inl ⟨one, rfl, joined ▸ member⟩
    | some two =>
      rw [Option.some.inj joined] at member
      rcases List.mem_append.mp member with inLeft | inRight
      · exact .inl ⟨one, rfl, inLeft⟩
      · exact .inr ⟨two, rfl, inRight⟩

theorem mem_leaves_prunedOr {left right : Option (ScalarIndexExpr Value)}
    (joined : some kept = prunedOr left right)
    {leaf : ScalarIndexSearch Value} (member : leaf ∈ kept.leaves) :
    (∃ one, left = some one ∧ leaf ∈ one.leaves) ∨ ∃ two, right = some two ∧ leaf ∈ two.leaves := by
  cases left with
  | none => cases right <;> simp [prunedOr] at joined
  | some one =>
    cases right with
    | none => simp [prunedOr] at joined
    | some two =>
      rw [Option.some.inj joined] at member
      rcases List.mem_append.mp member with inLeft | inRight
      · exact .inl ⟨one, rfl, inLeft⟩
      · exact .inr ⟨two, rfl, inRight⟩

/-- Every surviving leaf names the selected index and column. -/
theorem scopedExpression_leaves {requireComplete : Bool} {depth remaining rest : Nat}
    (success : scopedExpression expr indexName column requireComplete depth remaining = .ok (some kept, rest))
    (leaf : ScalarIndexSearch Value) (member : leaf ∈ kept.leaves) :
    leaf ∈ expr.leaves ∧ leaf.indexName = indexName ∧ leaf.column = column := by
  induction expr generalizing kept requireComplete depth remaining rest with
  | query search =>
    obtain ⟨_, _, ⟨_, absent⟩ | ⟨name, path, same⟩⟩ := scopedExpression_query.mp success
    · cases absent
    · rw [Option.some.inj same] at member
      have only : leaf = search := by simpa [ScalarIndexExpr.leaves] using member
      subst leaf
      exact ⟨List.mem_singleton_self _, name, path⟩
  | and lhs rhs left right =>
    obtain ⟨_, _, middle, _, first, second, joined⟩ := scopedExpression_and.mp success
    rcases mem_leaves_prunedAnd joined member with ⟨one, rfl, inLeft⟩ | ⟨two, rfl, inRight⟩
    · obtain ⟨inside, named⟩ := left first inLeft
      exact ⟨List.mem_append_left _ inside, named⟩
    · obtain ⟨inside, named⟩ := right second inRight
      exact ⟨List.mem_append_right _ inside, named⟩
  | or lhs rhs left right =>
    obtain ⟨_, _, middle, _, first, second, joined⟩ := scopedExpression_or.mp success
    rcases mem_leaves_prunedOr joined member with ⟨one, rfl, inLeft⟩ | ⟨two, rfl, inRight⟩
    · obtain ⟨inside, named⟩ := left first inLeft
      exact ⟨List.mem_append_left _ inside, named⟩
    · obtain ⟨inside, named⟩ := right second inRight
      exact ⟨List.mem_append_right _ inside, named⟩
  | not inner operand =>
    obtain ⟨_, one, first, joined⟩ := scopedExpression_not.mp success
    cases one with
    | none => cases joined
    | some one =>
      rw [Option.some.inj joined] at member
      exact operand first member

end Soundness

end LanceC.Scalar
