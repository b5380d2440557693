/-! Strong Kleene truth values, as SQL predicates take them over rows with NULLs. -/

namespace LanceC.Logic

inductive Truth where
  | yes
  | no
  | unknown
  deriving DecidableEq, Repr

namespace Truth

def and : Truth → Truth → Truth
  | no, _ => no
  | _, no => no
  | yes, yes => yes
  | _, _ => unknown

def or : Truth → Truth → Truth
  | yes, _ => yes
  | _, yes => yes
  | no, no => no
  | _, _ => unknown

def not : Truth → Truth
  | yes => no
  | no => yes
  | unknown => unknown

@[simp] theorem and_eq_yes (left right : Truth) :
    left.and right = yes ↔ left = yes ∧ right = yes := by
  cases left <;> cases right <;> simp [and]

@[simp] theorem or_eq_yes (left right : Truth) :
    left.or right = yes ↔ left = yes ∨ right = yes := by
  cases left <;> cases right <;> simp [or]

/-- A conjunction can only be TRUE where each conjunct is; nothing comparable
holds below a negation, where an UNKNOWN operand stays UNKNOWN. -/
theorem and_weaken_left {left right : Truth} (holds : left.and right = yes) : left = yes :=
  ((and_eq_yes left right).mp holds).1

theorem and_weaken_right {left right : Truth} (holds : left.and right = yes) : right = yes :=
  ((and_eq_yes left right).mp holds).2

end Truth

end LanceC.Logic
