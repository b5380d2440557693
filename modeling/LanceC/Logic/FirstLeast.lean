import Mathlib.Order.Lattice

/-! The first element of known and least cost in a list, as a left-to-right
search with a strict comparison finds it. -/

namespace LanceC.Logic

variable {α β : Type} [LinearOrder β] {cost : α → Option β} {items : List α} {best : α} {least : β}

/-- Elements before `best` are dearer, elements after it are no cheaper;
elements of unknown cost do not count. -/
def FirstLeast (cost : α → Option β) (items : List α) (best : α) (least : β) : Prop :=
  cost best = some least ∧ ∃ before after, items = before ++ best :: after ∧
    (∀ item ∈ before, ∀ price, cost item = some price → least < price) ∧
    (∀ item ∈ after, ∀ price, cost item = some price → least ≤ price)

namespace FirstLeast

theorem single (known : cost best = some least) : FirstLeast cost [best] best least :=
  ⟨known, [], [], rfl, by simp, by simp⟩

theorem mem (found : FirstLeast cost items best least) : best ∈ items := by
  obtain ⟨_, before, after, same, _, _⟩ := found
  simp [same]

theorem le (found : FirstLeast cost items best least) {item : α} (member : item ∈ items)
    {price : β} (known : cost item = some price) : least ≤ price := by
  obtain ⟨own, before, after, same, earlier, later⟩ := found
  subst same
  rcases List.mem_append.mp member with first | rest
  · exact le_of_lt (earlier item first price known)
  · rcases List.mem_cons.mp rest with itself | last
    · subst itself
      exact le_of_eq (Option.some.inj (own.symm.trans known))
    · exact later item last price known

theorem least_unique {other : α} {price : β} (found : FirstLeast cost items best least)
    (found' : FirstLeast cost items other price) : least = price :=
  le_antisymm (found.le found'.mem found'.1) (found'.le found.mem found.1)

theorem append_keep (found : FirstLeast cost items best least) {next : α}
    (dearer : ∀ price, cost next = some price → least ≤ price) :
    FirstLeast cost (items ++ [next]) best least := by
  obtain ⟨own, before, after, same, earlier, later⟩ := found
  refine ⟨own, before, after ++ [next], by simp [same], earlier, ?_⟩
  intro item member price known
  rcases List.mem_append.mp member with old | new
  · exact later item old price known
  · exact dearer price (by rw [← List.mem_singleton.mp new]; exact known)

theorem append_replace (found : FirstLeast cost items best least) {next : α} {price : β}
    (known : cost next = some price) (cheaper : price < least) :
    FirstLeast cost (items ++ [next]) next price := by
  refine ⟨known, items, [], rfl, ?_, by simp⟩
  intro item member other itemCost
  exact lt_of_lt_of_le cheaper (found.le member itemCost)

end FirstLeast

end LanceC.Logic
