import Mathlib.Data.Set.Card

/-! How many processes are in certain positions, and a shared counter of them, as
one process after the other moves. -/

namespace LanceC.Logic

universe u v

variable {Process : Type u} {Position : Type v}

/-- The number of processes whose position satisfies `In`. -/
noncomputable def headcount (In : Position → Prop) (position : Process → Position) : ℕ∞ :=
  {process | In (position process)}.encard

/-- The counter shows a headcount, which then is finite and the counter not negative. -/
def Counts (counter : Int) (heads : ℕ∞) : Prop := ∃ count : Nat, counter = count ∧ heads = count

section Moves

variable {In : Position → Prop} {position : Process → Position} {process : Process} {next : Position}

theorem headcount_eq_zero : headcount In position = 0 ↔ ∀ process, ¬In (position process) := by
  simp [headcount, Set.encard_eq_zero, Set.eq_empty_iff_forall_notMem]

variable [DecidableEq Process]

theorem headcount_stay (same : In next ↔ In (position process)) :
    headcount In (Function.update position process next) = headcount In position := by
  unfold headcount
  congr 1
  ext other
  by_cases moved : other = process
  · subst moved
    simpa using same
  · simp [moved]

theorem headcount_enter (outside : ¬In (position process)) (inside : In next) :
    headcount In (Function.update position process next) = headcount In position + 1 := by
  have entered : {other | In (Function.update position process next other)} =
      insert process {other | In (position other)} := by
    ext other
    by_cases moved : other = process
    · subst moved
      simpa using inside
    · simp [moved]
  rw [headcount, entered]
  exact Set.encard_insert_of_notMem outside

theorem headcount_leave (inside : In (position process)) (outside : ¬In next) :
    headcount In (Function.update position process next) + 1 = headcount In position := by
  have back : Function.update (Function.update position process next) process (position process) = position := by
    simp
  have gone : ¬In (Function.update position process next process) := by simpa using outside
  have entered := headcount_enter gone inside
  rw [back] at entered
  exact entered.symm

end Moves

namespace Counts

variable {counter : Int}

theorem eq_zero {heads : ℕ∞} (counts : Counts 0 heads) : heads = 0 := by
  obtain ⟨count, zero, rfl⟩ := counts
  simpa using zero.symm

variable [DecidableEq Process] {In : Position → Prop} {position : Process → Position}
variable {process : Process} {next : Position}

theorem stay (counts : Counts counter (headcount In position)) (same : In next ↔ In (position process)) :
    Counts counter (headcount In (Function.update position process next)) := by
  rwa [headcount_stay same]

theorem enter (counts : Counts counter (headcount In position)) (outside : ¬In (position process))
    (inside : In next) : Counts (counter + 1) (headcount In (Function.update position process next)) := by
  obtain ⟨count, rfl, heads⟩ := counts
  exact ⟨count + 1, by simp, by simp [headcount_enter outside inside, heads]⟩

theorem leave (counts : Counts counter (headcount In position)) (inside : In (position process))
    (outside : ¬In next) : Counts (counter - 1) (headcount In (Function.update position process next)) := by
  obtain ⟨count, rfl, heads⟩ := counts
  have left := headcount_leave inside outside
  rw [heads] at left
  generalize headcount In (Function.update position process next) = fewer at left ⊢
  have finite : fewer ≠ ⊤ := by
    rintro rfl
    exact ENat.natCast_ne_top count (by simpa using left.symm)
  lift fewer to ℕ using finite
  have total : fewer + 1 = count := by exact_mod_cast left
  exact ⟨fewer, by omega, rfl⟩

end Counts

end LanceC.Logic
