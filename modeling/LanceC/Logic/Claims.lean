import LanceC.Logic.Except
import Mathlib.Data.List.Nodup

/-! Walks over shared data that pass on the items visited so far and refuse to visit an item twice. -/

namespace LanceC.Logic

variable {ε Item Index : Type}

/-- The walk visits the items of `taken`, in this order. It succeeds when what it checks on
the way is `Fine` and it meets no item for the second time. -/
def Claims (walk : List Item → Except ε (List Item)) (Fine : Prop) (taken : List Item) : Prop :=
  ∀ visited reached, walk visited = .ok reached ↔
    (Fine ∧ taken.Nodup ∧ taken.Disjoint visited) ∧ reached = taken.reverse ++ visited

namespace Claims

variable {walk second : List Item → Except ε (List Item)} {Fine Fine' : Prop} {taken others : List Item}

theorem congr {walk' : List Item → Except ε (List Item)} {taken' : List Item} (claims : Claims walk Fine taken)
    (same : ∀ visited, walk' visited = walk visited) (fine : Fine' ↔ Fine) (order : taken' = taken) :
    Claims walk' Fine' taken' := by
  intro visited reached
  rw [same, fine, order]
  exact claims visited reached

theorem done : Claims (fun visited => (.ok visited : Except ε (List Item))) True [] := by
  intro visited reached
  simp [eq_comm]

/-- A walk that does not get through, wherever it starts. -/
theorem refused (fails : ∀ visited, ∃ error, walk visited = .error error) (taken : List Item) :
    Claims walk False taken := by
  intro visited reached
  obtain ⟨error, failed⟩ := fails visited
  simp [failed]

theorem insert [DecidableEq Item] (item : Item) (error : ε) :
    Claims (fun visited => if visited.contains item then .error error else .ok (item :: visited)) True [item] := by
  intro visited reached
  by_cases known : item ∈ visited
  · simp [known]
  · simp [known, eq_comm]

/-- One walk after the other; neither may meet what the other has visited. -/
theorem bind (first : Claims walk Fine taken) (then' : Claims second Fine' others) :
    Claims (fun visited => walk visited >>= second) (Fine ∧ Fine') (taken ++ others) := by
  intro visited reached
  rw [bind_eq_ok]
  constructor
  · rintro ⟨between, started, continued⟩
    obtain ⟨⟨fine, distinct, fresh⟩, rfl⟩ := (first visited between).mp started
    obtain ⟨⟨fine', distinct', fresh'⟩, rfl⟩ := (then' _ reached).mp continued
    rw [List.disjoint_append_right, List.disjoint_reverse_right] at fresh'
    refine ⟨⟨⟨fine, fine'⟩, List.nodup_append'.mpr ⟨distinct, distinct', List.disjoint_comm.mp fresh'.1⟩,
      List.disjoint_append_left.mpr ⟨fresh, fresh'.2⟩⟩, ?_⟩
    rw [List.reverse_append, List.append_assoc]
  · rintro ⟨⟨⟨fine, fine'⟩, distinct, fresh⟩, rfl⟩
    obtain ⟨distinct, distinct', apart⟩ := List.nodup_append'.mp distinct
    obtain ⟨fresh, fresh'⟩ := List.disjoint_append_left.mp fresh
    refine ⟨taken.reverse ++ visited, (first visited _).mpr ⟨⟨fine, distinct, fresh⟩, rfl⟩, ?_⟩
    refine (then' _ _).mpr ⟨⟨fine', distinct', ?_⟩, by rw [List.reverse_append, List.append_assoc]⟩
    exact List.disjoint_append_right.mpr ⟨List.disjoint_reverse_right.mpr (List.disjoint_comm.mp apart), fresh'⟩

theorem foldlM {items : List Index} {step : List Item → Index → Except ε (List Item)} {Fine : Index → Prop}
    {taken : Index → List Item}
    (each : ∀ index ∈ items, Claims (fun visited => step visited index) (Fine index) (taken index)) :
    Claims (fun visited => items.foldlM step visited) (∀ index ∈ items, Fine index) (items.flatMap taken) := by
  induction items with
  | nil => simpa [pure, Except.pure] using @done ε Item
  | cons index rest ih =>
    have others := ih fun other member => each other (List.mem_cons_of_mem _ member)
    have both := (each index List.mem_cons_self).bind others
    simpa [List.foldlM_cons, List.flatMap_cons] using both

end Claims

end LanceC.Logic
