import Mathlib.Data.List.Forall2

/-! Windows of a list, and lists cut into parts of one size. -/

namespace LanceC.Logic

universe u

variable {Item : Type u}

/-- What is left after `skip` items, or the first `fetch` of it. -/
def window (skip : Nat) (fetch : Option Nat) (items : List Item) : List Item :=
  match fetch with
  | none => items.drop skip
  | some count => (items.drop skip).take count

@[simp] theorem window_none (items : List Item) : window 0 none items = items := List.drop_zero

/-- Items regrouped into parts of `size`, the last one taking what remains. With parts
of size zero this comes to no end, unless there is nothing to regroup. -/
inductive Rechunked (size : Nat) : List Item → List (List Item) → Prop where
  | done : Rechunked size [] []
  | last {part : List Item} (nonempty : part ≠ []) (short : part.length < size) : Rechunked size part [part]
  | full {part items : List Item} {parts : List (List Item)} (positive : 0 < size) (whole : part.length = size)
      (others : Rechunked size items parts) : Rechunked size (part ++ items) (part :: parts)

/-- Every part but the last has `size` items; the last has at least one and at most that many. -/
def FullButLast (size : Nat) (parts : List (List Item)) : Prop :=
  (∀ part ∈ parts.dropLast, part.length = size) ∧ ∀ part ∈ parts.getLast?, 1 ≤ part.length ∧ part.length ≤ size

namespace Rechunked

variable {size : Nat} {items : List Item} {parts : List (List Item)}

/-- Regrouping keeps the items and their order. -/
theorem flatten (rechunked : Rechunked size items parts) : parts.flatten = items := by
  induction rechunked with
  | done => rfl
  | last _ _ => simp
  | full _ _ _ ih => rw [List.flatten_cons, ih]

theorem fullButLast (rechunked : Rechunked size items parts) : FullButLast size parts := by
  induction rechunked with
  | done => simp [FullButLast]
  | @last part nonempty short =>
    have inhabited : 1 ≤ part.length := List.length_pos_iff.mpr nonempty
    simp [FullButLast, inhabited, Nat.le_of_lt short]
  | @full part _ parts positive whole _ ih =>
    obtain ⟨each, last⟩ := ih
    cases parts with
    | nil =>
      refine ⟨by simp, fun final same => ?_⟩
      obtain rfl : part = final := by simpa using same
      exact ⟨by omega, by omega⟩
    | cons second rest =>
      refine ⟨?_, by simpa using last⟩
      rw [List.dropLast_cons_cons]
      exact List.forall_mem_cons.mpr ⟨whole, each⟩

/-- Parts of a positive size can always be formed. -/
theorem exists_of_pos (positive : 0 < size) (items : List Item) : ∃ parts, Rechunked size items parts := by
  by_cases short : items.length < size
  · by_cases empty : items = []
    · subst empty
      exact ⟨[], .done⟩
    · exact ⟨[items], .last empty short⟩
  · have whole : (items.take size).length = size := by
      rw [List.length_take]
      omega
    have shrinks : (items.drop size).length < items.length := by
      rw [List.length_drop]
      omega
    obtain ⟨parts, others⟩ := exists_of_pos positive (items.drop size)
    have regrouped := Rechunked.full positive whole others
    rw [List.take_append_drop] at regrouped
    exact ⟨items.take size :: parts, regrouped⟩
termination_by items.length

variable {given regrouped : List (List (List Item))}

theorem map_flatten
    (each : List.Forall₂ (fun stream batches => Rechunked size stream.flatten batches) given regrouped) :
    regrouped.map List.flatten = given.map List.flatten := by
  induction each with
  | nil => rfl
  | cons first _ ih => rw [List.map_cons, List.map_cons, first.flatten, ih]

theorem exists_forall₂ (positive : 0 < size) (given : List (List (List Item))) :
    ∃ regrouped, List.Forall₂ (fun stream batches => Rechunked size stream.flatten batches) given regrouped := by
  induction given with
  | nil => exact ⟨[], .nil⟩
  | cons stream rest ih =>
    obtain ⟨batches, first⟩ := exists_of_pos positive stream.flatten
    obtain ⟨others, each⟩ := ih
    exact ⟨batches :: others, .cons first each⟩

end Rechunked

end LanceC.Logic
