import Mathlib.Order.Compare
import Mathlib.Order.Lattice

/-! Comparisons that may refuse a pair, with the laws of a total order wherever they answer. -/

namespace LanceC.Logic

universe u

variable {Value : Type u} {cmp : Value → Value → Option Ordering}

def AtMost (cmp : Value → Value → Option Ordering) (left right : Value) : Prop :=
  ∃ order, cmp left right = some order ∧ order ≠ .gt

/-- A comparison within each of several types; across types it has no answer. -/
structure LawfulPartialCmp (cmp : Value → Value → Option Ordering) : Prop where
  refl (value : Value) : cmp value value = some .eq
  swap (left right : Value) : cmp right left = (cmp left right).map Ordering.swap
  trans {left middle right : Value} : AtMost cmp left middle → AtMost cmp middle right → AtMost cmp left right

namespace AtMost

variable {left middle right : Value}

theorem of_eq (same : cmp left right = some .eq) : AtMost cmp left right := ⟨.eq, same, by decide⟩

theorem of_lt (below : cmp left right = some .lt) : AtMost cmp left right := ⟨.lt, below, by decide⟩

theorem refl (lawful : LawfulPartialCmp cmp) (value : Value) : AtMost cmp value value := of_eq (lawful.refl value)

/-- The same seen from the greater side. -/
theorem iff_swap (lawful : LawfulPartialCmp cmp) :
    AtMost cmp left right ↔ ∃ order, cmp right left = some order ∧ order ≠ .lt := by
  rw [lawful.swap left right]
  constructor
  · rintro ⟨order, compared, notAbove⟩
    refine ⟨order.swap, by rw [compared, Option.map_some], ?_⟩
    cases order <;> simp_all
  · rintro ⟨order, compared, notBelow⟩
    obtain ⟨inner, same, rfl⟩ := Option.map_eq_some_iff.mp compared
    refine ⟨inner, same, ?_⟩
    cases inner <;> simp_all

theorem of_eq_swap (lawful : LawfulPartialCmp cmp) (same : cmp left right = some .eq) : AtMost cmp right left :=
  (iff_swap lawful).mpr ⟨.eq, same, by decide⟩

theorem not_lt_swap (lawful : LawfulPartialCmp cmp) (atMost : AtMost cmp left right) :
    cmp right left ≠ some .lt := by
  obtain ⟨order, compared, notBelow⟩ := (iff_swap lawful).mp atMost
  rw [compared]
  exact fun same => notBelow (Option.some.inj same)

theorem trans_lt (lawful : LawfulPartialCmp cmp) (atMost : AtMost cmp left middle)
    (below : cmp middle right = some .lt) : cmp left right = some .lt := by
  obtain ⟨order, compared, notAbove⟩ := lawful.trans atMost (of_lt below)
  cases order with
  | lt => exact compared
  | eq =>
    have back := lawful.trans (of_eq_swap lawful compared) atMost
    exact absurd below (not_lt_swap lawful back)
  | gt => exact absurd rfl notAbove

theorem lt_trans (lawful : LawfulPartialCmp cmp) (below : cmp left middle = some .lt)
    (atMost : AtMost cmp middle right) : cmp left right = some .lt := by
  obtain ⟨order, compared, notAbove⟩ := lawful.trans (of_lt below) atMost
  cases order with
  | lt => exact compared
  | eq =>
    have back := lawful.trans atMost (of_eq_swap lawful compared)
    exact absurd below (not_lt_swap lawful back)
  | gt => exact absurd rfl notAbove

end AtMost

/-- `gt` one way is `lt` the other way. -/
theorem LawfulPartialCmp.gt_iff (lawful : LawfulPartialCmp cmp) (left right : Value) :
    cmp left right = some .gt ↔ cmp right left = some .lt := by
  rw [lawful.swap left right, Option.map_eq_some_iff]
  constructor
  · exact fun above => ⟨.gt, above, rfl⟩
  · rintro ⟨order, compared, flipped⟩
    cases order <;> simp_all

section LinearOrder

variable {Value : Type u} [LinearOrder Value]

theorem atMost_compare {left right : Value} :
    AtMost (fun left right => some (compare left right)) left right ↔ left ≤ right := by
  simp [AtMost, compare_gt_iff_gt]

/-- A linear order always answers. -/
theorem lawfulPartialCmp_compare : LawfulPartialCmp fun left right : Value => some (compare left right) where
  refl _ := congrArg some (compare_eq_iff_eq.mpr rfl)
  swap _ _ := congrArg some Std.OrientedCmp.eq_swap
  trans above below := atMost_compare.mpr ((atMost_compare.mp above).trans (atMost_compare.mp below))

end LinearOrder

end LanceC.Logic
