import LanceC.Logic.Except
import LanceC.Scalar.Expression

/-! Which expressions `scopedExpression` accepts, what they cost, and that neither
depends on the order of operands. -/

namespace LanceC.Scalar

open Logic

variable {Value : Type}

namespace ScalarIndexExpr

def nodes : ScalarIndexExpr Value → Nat
  | query _ => 1
  | and lhs rhs | or lhs rhs => lhs.nodes + rhs.nodes + 1
  | not inner => inner.nodes + 1

/-- How deep the deepest node lies, where the root lies at 0. -/
def height : ScalarIndexExpr Value → Nat
  | query _ => 0
  | and lhs rhs | or lhs rhs => max lhs.height rhs.height + 1
  | not inner => inner.height + 1

/-- The leaves of the index are all on its column. -/
def OnColumn (indexName column : String) (expr : ScalarIndexExpr Value) : Prop :=
  ∀ search ∈ expr.leaves, search.indexName = indexName → search.column = column

/-- What scoping leaves of an expression that it accepts. -/
def survivor (indexName : String) : Bool → ScalarIndexExpr Value → Option (ScalarIndexExpr Value)
  | _, query search => if search.indexName = indexName then some (query search) else none
  | requireComplete, and lhs rhs =>
    prunedAnd requireComplete (lhs.survivor indexName requireComplete) (rhs.survivor indexName requireComplete)
  | requireComplete, or lhs rhs =>
    prunedOr (lhs.survivor indexName requireComplete) (rhs.survivor indexName requireComplete)
  | _, not inner => (inner.survivor indexName true).map not

/-- The same expression up to the order of the operands of each AND and OR. -/
inductive Reordered : ScalarIndexExpr Value → ScalarIndexExpr Value → Prop where
  | query (search : ScalarIndexSearch Value) : Reordered (query search) (query search)
  | and {lhs rhs lhs' rhs' : ScalarIndexExpr Value} :
      Reordered lhs lhs' → Reordered rhs rhs' → Reordered (and lhs rhs) (and lhs' rhs')
  | andSwapped {lhs rhs lhs' rhs' : ScalarIndexExpr Value} :
      Reordered lhs lhs' → Reordered rhs rhs' → Reordered (and lhs rhs) (and rhs' lhs')
  | or {lhs rhs lhs' rhs' : ScalarIndexExpr Value} :
      Reordered lhs lhs' → Reordered rhs rhs' → Reordered (or lhs rhs) (or lhs' rhs')
  | orSwapped {lhs rhs lhs' rhs' : ScalarIndexExpr Value} :
      Reordered lhs lhs' → Reordered rhs rhs' → Reordered (or lhs rhs) (or rhs' lhs')
  | not {inner inner' : ScalarIndexExpr Value} : Reordered inner inner' → Reordered (not inner) (not inner')

section OnColumn

variable {indexName column : String} {lhs rhs : ScalarIndexExpr Value}

theorem onColumn_and :
    (and lhs rhs).OnColumn indexName column ↔ lhs.OnColumn indexName column ∧ rhs.OnColumn indexName column := by
  simp only [OnColumn, leaves, List.forall_mem_append]

theorem onColumn_or :
    (or lhs rhs).OnColumn indexName column ↔ lhs.OnColumn indexName column ∧ rhs.OnColumn indexName column := by
  simp only [OnColumn, leaves, List.forall_mem_append]

end OnColumn

end ScalarIndexExpr

section Budget

open ScalarIndexExpr

variable {indexName column : String} {expr : ScalarIndexExpr Value} {requireComplete : Bool}
variable {depth remaining rest : Nat} {out : Option (ScalarIndexExpr Value)}

/-- The whole result, at any depth and with any budget. -/
theorem scopedExpression_eq_ok :
    scopedExpression expr indexName column requireComplete depth remaining = .ok (out, rest) ↔
      depth + expr.height ≤ maxExpressionDepth ∧ expr.nodes + rest = remaining ∧ expr.OnColumn indexName column ∧
        out = expr.survivor indexName requireComplete := by
  induction expr generalizing requireComplete depth remaining rest out with
  | query search =>
    have spent : (depth ≤ maxExpressionDepth ∧ 0 < remaining) ∧ rest = remaining - 1 ↔
        depth + 0 ≤ maxExpressionDepth ∧ 1 + rest = remaining := by omega
    rw [scopedExpression_query, ← and_assoc, spent, and_assoc]
    by_cases sameName : search.indexName = indexName <;> simp [height, nodes, OnColumn, leaves, survivor, sameName]
  | and lhs rhs left right =>
    rw [scopedExpression_and]
    simp only [left, right, height, nodes, onColumn_and, survivor]
    constructor
    · rintro ⟨within, _, middle, _, ⟨deep, spent, selected, rfl⟩, ⟨deep', spent', selected', rfl⟩, same⟩
      exact ⟨by omega, by omega, ⟨selected, selected'⟩, same⟩
    · rintro ⟨deep, spent, ⟨selected, selected'⟩, same⟩
      exact ⟨by omega, _, rhs.nodes + rest, _, ⟨by omega, by omega, selected, rfl⟩, ⟨by omega, rfl, selected', rfl⟩, same⟩
  | or lhs rhs left right =>
    rw [scopedExpression_or]
    simp only [left, right, height, nodes, onColumn_or, survivor]
    constructor
    · rintro ⟨within, _, middle, _, ⟨deep, spent, selected, rfl⟩, ⟨deep', spent', selected', rfl⟩, same⟩
      exact ⟨by omega, by omega, ⟨selected, selected'⟩, same⟩
    · rintro ⟨deep, spent, ⟨selected, selected'⟩, same⟩
      exact ⟨by omega, _, rhs.nodes + rest, _, ⟨by omega, by omega, selected, rfl⟩, ⟨by omega, rfl, selected', rfl⟩, same⟩
  | not inner operand =>
    rw [scopedExpression_not]
    simp only [operand, height, nodes, survivor]
    constructor
    · rintro ⟨within, _, ⟨deep, spent, selected, rfl⟩, same⟩
      exact ⟨by omega, by omega, selected, same⟩
    · rintro ⟨deep, spent, selected, same⟩
      exact ⟨by omega, _, ⟨by omega, by omega, selected, rfl⟩, same⟩

theorem scopedExpression_isOk :
    (∃ outcome, scopedExpression expr indexName column requireComplete depth remaining = .ok outcome) ↔
      depth + expr.height ≤ maxExpressionDepth ∧ expr.nodes ≤ remaining ∧ expr.OnColumn indexName column := by
  simp only [Prod.exists, scopedExpression_eq_ok]
  constructor
  · rintro ⟨_, rest, deep, spent, selected, _⟩
    exact ⟨deep, by omega, selected⟩
  · rintro ⟨deep, enough, selected⟩
    exact ⟨_, remaining - expr.nodes, deep, by omega, selected, rfl⟩

end Budget

namespace ScalarIndexExpr

variable {expr other : ScalarIndexExpr Value}

theorem Reordered.nodes_eq (same : Reordered expr other) : expr.nodes = other.nodes := by
  induction same with
  | query search => rfl
  | and _ _ left right | or _ _ left right => simp only [nodes, left, right]
  | andSwapped _ _ left right | orSwapped _ _ left right =>
    simp only [nodes, left, right]
    omega
  | not _ inner => simp only [nodes, inner]

theorem Reordered.height_eq (same : Reordered expr other) : expr.height = other.height := by
  induction same with
  | query search => rfl
  | and _ _ left right | or _ _ left right => simp only [height, left, right]
  | andSwapped _ _ left right | orSwapped _ _ left right =>
    simp only [height, left, right, Nat.max_comm]
  | not _ inner => simp only [height, inner]

theorem Reordered.onColumn_iff {indexName column : String} (same : Reordered expr other) :
    expr.OnColumn indexName column ↔ other.OnColumn indexName column := by
  induction same with
  | query search => rfl
  | and _ _ left right => simp only [onColumn_and, left, right]
  | or _ _ left right => simp only [onColumn_or, left, right]
  | andSwapped _ _ left right => simp only [onColumn_and, left, right, and_comm]
  | orSwapped _ _ left right => simp only [onColumn_or, left, right, and_comm]
  | not _ inner => exact inner

theorem Reordered.joinedAnd {requireComplete : Bool} {left right left' right' : Option (ScalarIndexExpr Value)}
    (first : Option.Rel Reordered left left') (second : Option.Rel Reordered right right') :
    Option.Rel Reordered (prunedAnd requireComplete left right) (prunedAnd requireComplete left' right') ∧
      Option.Rel Reordered (prunedAnd requireComplete left right) (prunedAnd requireComplete right' left') := by
  cases first with
  | none =>
    cases second with
    | none => cases requireComplete <;> exact ⟨.none, .none⟩
    | some two =>
      cases requireComplete with
      | false => exact ⟨.some two, .some two⟩
      | true => exact ⟨.none, .none⟩
  | some one =>
    cases second with
    | none =>
      cases requireComplete with
      | false => exact ⟨.some one, .some one⟩
      | true => exact ⟨.none, .none⟩
    | some two => exact ⟨.some (.and one two), .some (.andSwapped one two)⟩

theorem Reordered.joinedOr {left right left' right' : Option (ScalarIndexExpr Value)}
    (first : Option.Rel Reordered left left') (second : Option.Rel Reordered right right') :
    Option.Rel Reordered (prunedOr left right) (prunedOr left' right') ∧
      Option.Rel Reordered (prunedOr left right) (prunedOr right' left') := by
  cases first with
  | none => cases second <;> exact ⟨.none, .none⟩
  | some one =>
    cases second with
    | none => exact ⟨.none, .none⟩
    | some two => exact ⟨.some (.or one two), .some (.orSwapped one two)⟩

theorem Reordered.survivors {indexName : String} (same : Reordered expr other) (requireComplete : Bool) :
    Option.Rel Reordered (expr.survivor indexName requireComplete) (other.survivor indexName requireComplete) := by
  induction same generalizing requireComplete with
  | query search =>
    simp only [survivor]
    split
    · exact .some (.query search)
    · exact .none
  | and _ _ left right => exact (Reordered.joinedAnd (left requireComplete) (right requireComplete)).1
  | andSwapped _ _ left right => exact (Reordered.joinedAnd (left requireComplete) (right requireComplete)).2
  | or _ _ left right => exact (Reordered.joinedOr (left requireComplete) (right requireComplete)).1
  | orSwapped _ _ left right => exact (Reordered.joinedOr (left requireComplete) (right requireComplete)).2
  | not _ inner =>
    have operand := inner true
    simp only [survivor]
    generalize survivor indexName true _ = left at operand ⊢
    generalize survivor indexName true _ = right at operand ⊢
    cases operand with
    | none => exact .none
    | some kept => exact .some (.not kept)

end ScalarIndexExpr

section Claim

open ScalarIndexExpr

/-- Acceptance, cost and survivors of a scoping that starts at the root. -/
theorem scopedExpression_budget (expr : ScalarIndexExpr Value) (indexName column : String) (requireComplete : Bool)
    (budget : Nat) :
    ((∃ outcome, scopedExpression expr indexName column requireComplete 0 budget = .ok outcome) ↔
      expr.nodes ≤ budget ∧ expr.height ≤ maxExpressionDepth ∧ expr.OnColumn indexName column) ∧
    (∀ kept rest, scopedExpression expr indexName column requireComplete 0 budget = .ok (kept, rest) →
      rest + expr.nodes = budget) ∧
    ∀ other, Reordered expr other →
      ((∃ outcome, scopedExpression expr indexName column requireComplete 0 budget = .ok outcome) ↔
        ∃ outcome, scopedExpression other indexName column requireComplete 0 budget = .ok outcome) ∧
      ∀ kept rest kept' rest', scopedExpression expr indexName column requireComplete 0 budget = .ok (kept, rest) →
        scopedExpression other indexName column requireComplete 0 budget = .ok (kept', rest') →
        Option.Rel Reordered kept kept' ∧ rest = rest' := by
  refine ⟨?_, fun kept rest success => ?_, fun other same => ⟨?_, fun kept rest kept' rest' success success' => ?_⟩⟩
  · rw [scopedExpression_isOk, Nat.zero_add, and_left_comm]
  · obtain ⟨_, spent, _⟩ := scopedExpression_eq_ok.mp success
    rwa [Nat.add_comm]
  · rw [scopedExpression_isOk, scopedExpression_isOk, same.nodes_eq, same.height_eq, same.onColumn_iff]
  · obtain ⟨_, spent, _, rfl⟩ := scopedExpression_eq_ok.mp success
    obtain ⟨_, spent', _, rfl⟩ := scopedExpression_eq_ok.mp success'
    rw [same.nodes_eq] at spent
    exact ⟨same.survivors requireComplete, by omega⟩

end Claim

end LanceC.Scalar
