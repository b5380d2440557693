/-! Trees with labelled nodes and ordered children. -/

namespace LanceC.Logic

inductive RoseTree (α : Type) where
  | node (label : α) (children : List (RoseTree α))

namespace RoseTree

variable {α β : Type}

def label : RoseTree α → α
  | node label _ => label

def children : RoseTree α → List (RoseTree α)
  | node _ children => children

/-- A property holds of a tree once it passes from all children to their parent. -/
@[elab_as_elim]
theorem induction {motive : RoseTree α → Prop}
    (node : ∀ label children, (∀ child ∈ children, motive child) → motive (.node label children)) :
    ∀ tree, motive tree
  | .node label children => node label children fun child _ => induction node child

mutual

/-- The value of a tree from its label and the values of its children. -/
def fold (combine : α → List β → β) : RoseTree α → β
  | node label children => combine label (foldAll combine children)

def foldAll (combine : α → List β → β) : List (RoseTree α) → List β
  | [] => []
  | tree :: rest => fold combine tree :: foldAll combine rest

end

theorem foldAll_eq (combine : α → List β → β) (trees : List (RoseTree α)) :
    foldAll combine trees = trees.map (fold combine) := by
  induction trees with
  | nil => rfl
  | cons tree rest ih => rw [foldAll, ih, List.map_cons]

theorem fold_node (combine : α → List β → β) (label : α) (children : List (RoseTree α)) :
    fold combine (node label children) = combine label (children.map (fold combine)) := by
  rw [fold, foldAll_eq]

end RoseTree

end LanceC.Logic
