import Mathlib.Data.List.Nodup

/-! Lists whose entries are told apart by a key. -/

namespace LanceC.Logic

variable {α κ : Type} {key : α → κ} {items chosen : List α}

/-- Entries chosen by all keys, each once and in any order, are all entries. -/
theorem perm_of_keys_perm (distinct : (items.map key).Nodup) (inside : ∀ item ∈ chosen, item ∈ items)
    (keys : (chosen.map key).Perm (items.map key)) : chosen.Perm items := by
  have once : chosen.Nodup := (keys.nodup_iff.mpr distinct).of_map
  rw [List.perm_ext_iff_of_nodup once distinct.of_map]
  intro item
  constructor
  · exact inside item
  · intro member
    obtain ⟨other, otherChosen, same⟩ := List.mem_map.mp (keys.mem_iff.mpr (List.mem_map_of_mem member))
    have identical : other = item := List.inj_on_of_nodup_map distinct (inside other otherChosen) member same
    exact identical ▸ otherChosen

end LanceC.Logic
