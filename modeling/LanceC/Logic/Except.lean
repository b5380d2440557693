import Mathlib.Data.List.Forall2

/-! Peeling fallible computations apart: the first step of a sequence, and the
traversal of a list. -/

namespace LanceC.Logic

variable {ε α β : Type}

theorem bind_eq_ok {source : Except ε α} {next : α → Except ε β} {result : β} :
    (source >>= next) = .ok result ↔ ∃ value, source = .ok value ∧ next value = .ok result := by
  cases source with
  | error error => simp [bind, Except.bind]
  | ok value => simp [bind, Except.bind]

theorem bind_eq_error {source : Except ε α} {next : α → Except ε β} {error : ε} :
    (source >>= next) = .error error ↔ source = .error error ∨ ∃ value, source = .ok value ∧ next value = .error error := by
  cases source <;> simp [bind, Except.bind]

/-- `if condition { return Err(error) }` and the statements after it. -/
theorem ite_throw_eq_ok {condition : Prop} [Decidable condition] {error : ε} {skipped : α → Except ε β}
    {rest : Except ε β} {result : β} :
    (if condition then (throw error : Except ε α) >>= skipped else rest) = .ok result ↔
      ¬condition ∧ rest = .ok result := by
  by_cases refused : condition
  · simp [refused, throw, throwThe, MonadExceptOf.throw, bind, Except.bind]
  · simp [refused]

/-- Where the computation returns, `post` holds of what it returns. -/
def Ensures (source : Except ε α) (post : α → Prop) : Prop := ∀ value, source = .ok value → post value

namespace Ensures

variable {post : α → Prop} {value : α}

theorem ok (holds : post value) : Ensures (.ok value : Except ε α) post := by
  rintro _ ⟨⟩
  exact holds

theorem error (error : ε) : Ensures (.error error) post := nofun

theorem bind {source : Except ε β} {next : β → Except ε α} (rest : ∀ value, Ensures (next value) post) :
    Ensures (source >>= next) post := by
  intro result success
  obtain ⟨value, _, continued⟩ := bind_eq_ok.mp success
  exact rest value result continued

theorem ite {condition : Prop} [Decidable condition] {yes no : Except ε α} (whenTrue : Ensures yes post)
    (whenFalse : Ensures no post) : Ensures (if condition then yes else no) post := by
  split
  · exact whenTrue
  · exact whenFalse

end Ensures

theorem mapM_eq_ok {items : List α} {step : α → Except ε β} {results : List β} :
    items.mapM step = .ok results ↔ List.Forall₂ (fun item result => step item = .ok result) items results := by
  induction items generalizing results with
  | nil => cases results <;> simp [pure, Except.pure]
  | cons head rest ih =>
    rw [List.mapM_cons]
    cases results with
    | nil => simp [bind_eq_ok, pure, Except.pure]
    | cons first others => simp [bind_eq_ok, ih, pure, Except.pure]

theorem mapM_isOk {items : List α} {step : α → Except ε β} :
    (∃ results, items.mapM step = .ok results) ↔ ∀ item ∈ items, ∃ result, step item = .ok result := by
  induction items with
  | nil => simp [pure, Except.pure]
  | cons head rest ih =>
    simp only [List.mapM_cons, bind_eq_ok, List.forall_mem_cons, ← ih]
    simp [pure, Except.pure]

/-- A traversal ends with the first error that its steps come to. -/
theorem mapM_eq_error {items : List α} {step : α → Except ε β} {error : ε} :
    items.mapM step = .error error ↔ ∃ before item after, items = before ++ item :: after ∧
      (∀ earlier ∈ before, ∃ result, step earlier = .ok result) ∧ step item = .error error := by
  induction items with
  | nil => simp [pure, Except.pure]
  | cons head rest ih =>
    rw [List.mapM_cons]
    cases first : step head with
    | error refusal =>
      change (Except.error refusal : Except ε (List β)) = .error error ↔ _
      constructor
      · intro failed
        cases failed
        exact ⟨[], head, rest, rfl, by simp, first⟩
      · rintro ⟨before, item, after, same, passed, failed⟩
        cases before with
        | nil =>
          rw [← (List.cons.inj same).1, first] at failed
          rw [Except.error.inj failed]
        | cons early others =>
          obtain ⟨result, returned⟩ := passed early List.mem_cons_self
          rw [(List.cons.inj same).1, returned] at first
          cases first
    | ok value =>
      have later : ((Except.ok value >>= fun value => do
          let others ← rest.mapM step
          pure (value :: others)) = .error error) ↔ rest.mapM step = .error error := by
        cases rest.mapM step <;> simp [bind, Except.bind, pure, Except.pure]
      rw [later, ih]
      constructor
      · rintro ⟨before, item, after, rfl, passed, failed⟩
        exact ⟨head :: before, item, after, rfl, List.forall_mem_cons.mpr ⟨⟨value, first⟩, passed⟩, failed⟩
      · rintro ⟨before, item, after, same, passed, failed⟩
        cases before with
        | nil =>
          rw [(List.cons.inj same).1, failed] at first
          cases first
        | cons early others =>
          exact ⟨others, item, after, (List.cons.inj same).2, (List.forall_mem_cons.mp passed).2, failed⟩

/-- A traversal with positions that the results do not depend on. -/
theorem mapM_zipIdx_eq_ok {items : List α} {step : α × Nat → Except ε β} {results : List β} {R : α → β → Prop}
    (steps : ∀ item index result, step (item, index) = .ok result ↔ R item result) (start : Nat) :
    (items.zipIdx start).mapM step = .ok results ↔ List.Forall₂ R items results := by
  rw [mapM_eq_ok]
  induction items generalizing start results with
  | nil => cases results <;> simp
  | cons head rest ih =>
    rw [List.zipIdx_cons]
    cases results with
    | nil => simp
    | cons first others => rw [List.forall₂_cons, List.forall₂_cons, ih, steps]

/-- It ends with the error of the first item that its step does not accept, at that item's position. -/
theorem mapM_zipIdx_eq_error {items : List α} {step : α × Nat → Except ε β} {error : ε} :
    items.zipIdx.mapM step = .error error ↔ ∃ index, (∃ item ∈ items[index]?, step (item, index) = .error error) ∧
      ∀ earlier < index, ∃ item ∈ items[earlier]?, ∃ result, step (item, earlier) = .ok result := by
  have position (index : Nat) : items.zipIdx[index]? = items[index]?.map (·, index) := by
    simp [List.getElem?_zipIdx]
  rw [mapM_eq_error]
  constructor
  · rintro ⟨before, ⟨item, index⟩, after, same, passed, failed⟩
    have here := position before.length
    rw [same, List.getElem?_append_right (Nat.le_refl _), Nat.sub_self, List.getElem?_cons_zero, eq_comm,
      Option.map_eq_some_iff] at here
    obtain ⟨_, found, pair⟩ := here
    cases pair
    refine ⟨before.length, ⟨item, found, failed⟩, fun earlier lower => ?_⟩
    have there := position earlier
    rw [same, List.getElem?_append_left lower, List.getElem?_eq_getElem lower, eq_comm, Option.map_eq_some_iff] at there
    obtain ⟨early, found, pair⟩ := there
    obtain ⟨result, returned⟩ := passed _ (List.getElem_mem lower)
    exact ⟨early, found, result, by rw [pair]; exact returned⟩
  · rintro ⟨index, ⟨item, found, failed⟩, passed⟩
    have here : items.zipIdx[index]? = some (item, index) := by rw [position, found, Option.map_some]
    obtain ⟨inside, same⟩ := List.getElem?_eq_some_iff.mp here
    refine ⟨items.zipIdx.take index, (item, index), items.zipIdx.drop (index + 1), ?_, ?_, failed⟩
    · rw [← same, List.getElem_cons_drop, List.take_append_drop]
    · intro entry member
      obtain ⟨earlier, lower, reached⟩ := List.mem_take_iff_getElem.mp member
      obtain ⟨early, present, result, returned⟩ := passed earlier (by omega)
      have there := position earlier
      rw [present, Option.map_some, List.getElem?_eq_getElem (by omega), Option.some.injEq] at there
      exact ⟨result, by rw [← reached, there]; exact returned⟩

/-- A traversal whose steps succeed only on `P` and with the value of `f`. -/
theorem mapM_ok_map {items : List α} {step : α → Except ε β} {results : List β} {f : α → β} {P : α → Prop}
    (steps : ∀ item result, step item = .ok result → result = f item ∧ P item)
    (success : items.mapM step = .ok results) : results = items.map f ∧ ∀ item ∈ items, P item := by
  induction mapM_eq_ok.mp success with
  | nil => simp
  | cons first _ ih =>
    obtain ⟨value, holds⟩ := steps _ _ first
    obtain ⟨values, all⟩ := ih (mapM_eq_ok.mpr ‹_›)
    exact ⟨by rw [List.map_cons, value, values], List.forall_mem_cons.mpr ⟨holds, all⟩⟩

/-- A fold succeeds where each of its steps does, whatever has been gathered before. -/
theorem foldlM_isOk {items : List β} {step : α → β → Except ε α}
    (steps : ∀ item ∈ items, ∀ current, ∃ next, step current item = .ok next) (start : α) :
    ∃ result, items.foldlM step start = .ok result := by
  induction items generalizing start with
  | nil => exact ⟨start, rfl⟩
  | cons head rest ih =>
    obtain ⟨next, first⟩ := steps head List.mem_cons_self start
    obtain ⟨result, others⟩ := ih (fun item member => steps item (List.mem_cons_of_mem _ member)) next
    exact ⟨result, by rw [List.foldlM_cons, first]; exact others⟩

end LanceC.Logic
