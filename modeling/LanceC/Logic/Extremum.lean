import Mathlib.Order.MinMax

/-! Least and greatest elements of a list, kept up to date one element at a time. -/

namespace LanceC.Logic

variable {α : Type} [LinearOrder α]

instance lawfulOrderMin : Std.LawfulOrderMin α where
  le_min_iff _ _ _ := le_min_iff
  min_eq_or left right := min_choice left right

instance lawfulOrderMax : Std.LawfulOrderMax α where
  max_le_iff _ _ _ := max_le_iff
  max_eq_or left right := max_choice left right

theorem min?_concat (values : List α) (next : α) :
    (values ++ [next]).min? = some (values.min?.elim next (min · next)) := by
  cases values with
  | nil => rfl
  | cons head rest =>
    rw [List.cons_append, List.min?_cons', List.foldl_append]
    rfl

theorem max?_concat (values : List α) (next : α) :
    (values ++ [next]).max? = some (values.max?.elim next (max · next)) := by
  cases values with
  | nil => rfl
  | cons head rest =>
    rw [List.cons_append, List.max?_cons', List.foldl_append]
    rfl

theorem min?_perm {values other : List α} (perm : values.Perm other) : values.min? = other.min? := by
  refine Option.ext fun least => ?_
  simp only [List.min?_eq_some_iff, perm.mem_iff]

theorem max?_perm {values other : List α} (perm : values.Perm other) : values.max? = other.max? := by
  refine Option.ext fun greatest => ?_
  simp only [List.max?_eq_some_iff, perm.mem_iff]

end LanceC.Logic
