import Mathlib.Data.List.AList

/-! Hash maps over Mathlib's association lists. The order in which a map is
iterated is the implementation's choice. -/

namespace LanceC.Logic

abbrev HashMap (κ α : Type) := AList fun _ : κ => α

/-- One iteration over a map: every entry once, in some order. -/
structure IterationOrder (κ α : Type) where
  visit : HashMap κ α → List (Σ _ : κ, α)
  perm : ∀ map, (visit map).Perm map.entries

/-- Iteration in the order of the stored entries. -/
def IterationOrder.stored (κ α : Type) : IterationOrder κ α := ⟨AList.entries, fun _ => .refl _⟩

def IterationOrder.reversed (κ α : Type) : IterationOrder κ α :=
  ⟨fun map => map.entries.reverse, fun _ => List.reverse_perm _⟩

namespace HashMap

variable {κ α : Type}

theorem visit_keys_nodup (order : IterationOrder κ α) (map : HashMap κ α) :
    ((order.visit map).map Sigma.fst).Nodup :=
  (List.perm_nodupKeys (order.perm map)).mpr map.nodupKeys

variable [DecidableEq κ]

/-- `entry(key).and_modify(modify).or_insert(value)`. -/
def upsert (map : HashMap κ α) (key : κ) (modify : α → α) (value : α) : HashMap κ α :=
  map.insert key ((map.lookup key).elim value modify)

/-- `entry(key).or_insert(value)`. -/
def orInsert (map : HashMap κ α) (key : κ) (value : α) : HashMap κ α :=
  if key ∈ map then map else map.insert key value

/-- The loop that updates every value in place. -/
def mapValues (map : HashMap κ α) (update : κ → α → α) : HashMap κ α where
  entries := map.entries.map fun entry => ⟨entry.1, update entry.1 entry.2⟩
  nodupKeys := by
    have same : (map.entries.map fun entry => (⟨entry.1, update entry.1 entry.2⟩ : Σ _ : κ, α)).keys =
        map.entries.keys := by
      simp [List.keys, Function.comp_def]
    rw [List.NodupKeys, same]
    exact map.nodupKeys

@[simp] theorem lookup_upsert (map : HashMap κ α) (key other : κ) (modify : α → α) (value : α) :
    (map.upsert key modify value).lookup other =
      if other = key then some ((map.lookup key).elim value modify) else map.lookup other := by
  by_cases same : other = key
  · subst same
    simp [upsert]
  · simp [upsert, AList.lookup_insert_ne same, same]

@[simp] theorem lookup_orInsert (map : HashMap κ α) (key other : κ) (value : α) :
    (map.orInsert key value).lookup other =
      (map.lookup other).or (if other = key then some value else none) := by
  unfold orInsert
  by_cases present : key ∈ map
  · by_cases same : other = key
    · subst same
      obtain ⟨stored, found⟩ := Option.isSome_iff_exists.mp (AList.lookup_isSome.mpr present)
      simp [present, found]
    · simp [present, same]
  · by_cases same : other = key
    · subst same
      simp [present, AList.lookup_eq_none.mpr present]
    · simp [present, same, AList.lookup_insert_ne same]

@[simp] theorem lookup_mapValues (map : HashMap κ α) (update : κ → α → α) (key : κ) :
    (map.mapValues update).lookup key = (map.lookup key).map (update key) :=
  List.dlookup_map₂ key

/-- Inserting the entries of a visited map fills in exactly the absent keys. -/
theorem lookup_foldl_orInsert (entries : List (Σ _ : κ, α)) (into : HashMap κ α) (value : α → α) (key : κ) :
    (entries.foldl (fun map entry => map.orInsert entry.1 (value entry.2)) into).lookup key =
      (into.lookup key).or ((entries.dlookup key).map value) := by
  induction entries generalizing into with
  | nil => simp
  | cons entry rest ih =>
    obtain ⟨other, stored⟩ := entry
    rw [List.foldl_cons, ih, lookup_orInsert, Option.or_assoc]
    by_cases same : key = other
    · subst same
      simp
    · simp [same, List.dlookup_cons_ne rest (⟨other, stored⟩ : Σ _ : κ, α) same]

theorem dlookup_visit (order : IterationOrder κ α) (map : HashMap κ α) (key : κ) :
    (order.visit map).dlookup key = map.lookup key :=
  (List.perm_dlookup key ((List.perm_nodupKeys (order.perm map)).mpr map.nodupKeys) (order.perm map))

theorem mem_visit_iff (order : IterationOrder κ α) (map : HashMap κ α) (key : κ) (value : α) :
    ⟨key, value⟩ ∈ order.visit map ↔ map.lookup key = some value :=
  (order.perm map).mem_iff.trans AList.mem_lookup_iff.symm

end HashMap

end LanceC.Logic
