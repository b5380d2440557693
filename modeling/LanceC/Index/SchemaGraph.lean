import LanceC.Index.ModelSchema
import LanceC.Logic.Claims
import Mathlib.Data.Set.Finite.Basic

/-! What the pre-flight of a schema decides of an arbitrary graph of `ArrowSchema` structs. -/

namespace LanceC.Index

open Ffi Logic Machine

/-- One step from a struct to a struct below it. -/
inductive SchemaStep where
  | child (index : Nat)
  | dictionary
  deriving DecidableEq, Repr

namespace ArrowSchemaNode

def childCount (value : ArrowSchemaNode) : Nat := value.nChildren.toNat

def child (value : ArrowSchemaNode) (index : Nat) : Option Nat := value.children.bind (· index)

/-- A struct on its own. -/
structure WellFormed [Target] (value : ArrowSchemaNode) : Prop where
  live : value.hasRelease = true
  format : ∃ text, value.format = .text text
  name : value.name.isUtf8 = true
  nonneg : 0 ≤ value.nChildren
  addressable : value.childCount ≤ isizeMax / (Target.usizeBits / 8)
  readable : 0 < value.childCount → value.children.isSome = true

end ArrowSchemaNode

/-- The unfolding of a graph: `path` leads from one pointer to another. -/
inductive Reaches (memory : SchemaMemory) : Option Nat → List SchemaStep → Option Nat → Prop where
  | here (pointer : Option Nat) : Reaches memory pointer [] pointer
  | child {address index : Nat} {path : List SchemaStep} {reached : Option Nat}
      (inside : index < (memory address).childCount)
      (below : Reaches memory ((memory address).child index) path reached) :
      Reaches memory (some address) (.child index :: path) reached
  | dictionary {address : Nat} {path : List SchemaStep} {values : Nat} {reached : Option Nat}
      (encoded : (memory address).dictionary = some values) (below : Reaches memory (some values) path reached) :
      Reaches memory (some address) (.dictionary :: path) reached

/-- The unfolding is a tree of well-formed structs, no deeper than the limit. -/
structure WellFormedSchema [Target] (memory : SchemaMemory) (root : Option Nat) : Prop where
  reached : ∀ path pointer, Reaches memory root path pointer →
    path.length ≤ maxSchemaDepth ∧ ∃ address, pointer = some address ∧ (memory address).WellFormed
  once : ∀ path path' address, Reaches memory root path (some address) → Reaches memory root path' (some address) →
    path = path'

section Unfolding

variable [Target] (memory : SchemaMemory)

/-- Everything within `levels` is well formed, and nothing is beyond. -/
def Fits : Nat → Option Nat → Prop
  | 0, _ | _ + 1, none => False
  | levels + 1, some address =>
    (memory address).WellFormed ∧
      (∀ index ∈ List.range (memory address).childCount, Fits levels ((memory address).child index)) ∧
      ∀ values ∈ (memory address).dictionary, Fits levels (some values)

omit [Target] in
/-- The structs within `levels`, in the order the pre-flight visits them. -/
def positions : Nat → Option Nat → List (List SchemaStep × Nat)
  | 0, _ | _ + 1, none => []
  | levels + 1, some address =>
    ([], address) ::
      ((List.range (memory address).childCount).flatMap fun index =>
        (positions levels ((memory address).child index)).map fun entry => (.child index :: entry.1, entry.2)) ++
      (memory address).dictionary.toList.flatMap fun values =>
        (positions levels (some values)).map fun entry => (.dictionary :: entry.1, entry.2)

end Unfolding

section Walk

variable [Target] {memory : SchemaMemory} {levels address : Nat} {path : String}

theorem addressable_le_usizeMax {count : Nat} (addressable : count ≤ isizeMax / (Target.usizeBits / 8)) :
    count ≤ usizeMax := by
  have smaller : isizeMax / (Target.usizeBits / 8) ≤ isizeMax := Nat.div_le_self ..
  have inside : isizeMax ≤ usizeMax :=
    Nat.sub_le_sub_right (Nat.pow_le_pow_right (by decide) (Nat.sub_le ..)) 1
  omega

theorem preflight_node (wellFormed : (memory address).WellFormed) (visited : List Nat) :
    preflight memory (levels + 1) (some address) path visited =
      ((if visited.contains address then .error (.invalidInput s!"{path} contains a schema pointer cycle")
        else .ok (address :: visited)) >>= fun visited =>
        ((List.range (memory address).childCount).foldlM (fun visited index =>
          preflight memory levels ((memory address).child index) s!"{path}.children[{index}]" visited) visited) >>=
        fun visited =>
          match (memory address).dictionary with
          | none => .ok visited
          | some values => preflight memory levels (some values) s!"{path}.dictionary" visited) := by
  obtain ⟨live, ⟨text, format⟩, name, nonneg, addressable, readable⟩ := wellFormed
  have converted : usizeTryFrom (memory address).nChildren = some (memory address).childCount :=
    usizeTryFrom_eq_some.mpr ⟨(Int.toNat_of_nonneg nonneg).symm, addressable_le_usizeMax addressable⟩
  rw [preflight]
  by_cases known : visited.contains address = true
  · rw [if_pos known, if_pos known]
    rfl
  · rw [if_neg known, if_neg known]
    have present : ¬((memory address).childCount > 0 ∧ (memory address).children.isNone = true) := by
      rintro ⟨positive, absent⟩
      simp [Option.isNone_iff_eq_none.mp absent] at readable
      omega
    simp only [live, format, name, converted]
    rw [if_neg (by simp), if_neg (by simp [CString.isUtf8]), if_neg (by simp), if_neg (Nat.not_lt.mpr addressable),
      if_neg present]
    rfl

theorem wellFormed_of_preflight {visited reached : List Nat}
    (success : preflight memory (levels + 1) (some address) path visited = .ok reached) :
    (memory address).WellFormed := by
  rw [preflight] at success
  simp only [ite_throw_eq_ok] at success
  obtain ⟨_, alive, format, name, success⟩ := success
  split at success
  · rename_i childCount converted
    simp only [ite_throw_eq_ok] at success
    obtain ⟨addressable, present, _⟩ := success
    obtain ⟨same, _⟩ := usizeTryFrom_eq_some.mp converted
    have counted : (memory address).childCount = childCount := by
      rw [ArrowSchemaNode.childCount, same, Int.toNat_natCast]
    obtain ⟨live, given⟩ := not_or.mp alive
    refine ⟨by simpa using live, ?_, by simpa using name, by omega, by omega, ?_⟩
    · cases text : (memory address).format with
      | null => exact absurd text given
      | malformed message => simp [text, CString.isUtf8] at format
      | text value => exact ⟨value, rfl⟩
    · intro positive
      rw [counted] at positive
      simpa [positive, Option.isSome_iff_ne_none] using present
  · cases success

/-- The pre-flight visits the unfolding once, in order. -/
theorem preflight_claims (memory : SchemaMemory) (levels : Nat) (pointer : Option Nat) (path : String) :
    Claims (preflight memory levels pointer path) (Fits memory levels pointer)
      ((positions memory levels pointer).map Prod.snd) := by
  induction levels generalizing pointer path with
  | zero =>
    refine Claims.refused (fun visited => ?_) _
    cases pointer with
    | none => exact ⟨_, rfl⟩
    | some address => exact ⟨_, rfl⟩
  | succ levels ih =>
    cases pointer with
    | none => exact Claims.refused (fun visited => ⟨_, rfl⟩) _
    | some address =>
      by_cases wellFormed : (memory address).WellFormed
      · have here := Claims.insert address (LanceError.invalidInput s!"{path} contains a schema pointer cycle")
        have children := Claims.foldlM fun index (_ : index ∈ List.range (memory address).childCount) =>
          ih ((memory address).child index) s!"{path}.children[{index}]"
        have encoded : Claims (fun visited => match (memory address).dictionary with
              | none => .ok visited
              | some values => preflight memory levels (some values) s!"{path}.dictionary" visited)
            (∀ values ∈ (memory address).dictionary, Fits memory levels (some values))
            ((memory address).dictionary.toList.flatMap fun values =>
              (positions memory levels (some values)).map Prod.snd) := by
          cases (memory address).dictionary with
          | none => exact Claims.done.congr (fun _ => rfl) (by simp) rfl
          | some values => exact (ih (some values) _).congr (fun _ => rfl) (by simp) (by simp)
        refine (here.bind (children.bind encoded)).congr (preflight_node wellFormed) ?_ ?_
        · simp only [Fits, wellFormed, true_and]
        · simp [positions, List.map_flatMap, Function.comp_def]
      · have fails : ∀ visited, ∃ error, preflight memory (levels + 1) (some address) path visited = .error error := by
          intro visited
          cases outcome : preflight memory (levels + 1) (some address) path visited with
          | error error => exact ⟨error, rfl⟩
          | ok reached => exact absurd (wellFormed_of_preflight outcome) wellFormed
        exact (Claims.refused fails _).congr (fun _ => rfl) (by simp [Fits, wellFormed]) rfl

end Walk

section Reachable

variable [Target] {memory : SchemaMemory} {levels : Nat} {pointer : Option Nat}

omit [Target] in
theorem reaches_of_positions {path : List SchemaStep} {address : Nat}
    (visited : (path, address) ∈ positions memory levels pointer) :
    Reaches memory pointer path (some address) := by
  induction levels generalizing pointer path with
  | zero => simp [positions] at visited
  | succ levels ih =>
    cases pointer with
    | none => simp [positions] at visited
    | some root =>
      simp only [positions, List.cons_append, List.mem_cons, List.mem_append, List.mem_flatMap, List.mem_map,
        List.mem_range, Option.mem_toList, Prod.mk.injEq] at visited
      rcases visited with ⟨rfl, rfl⟩ | ⟨index, inside, entry, below, rfl, rfl⟩ | ⟨values, encoded, entry, below, rfl, rfl⟩
      · exact .here _
      · exact .child inside (ih below)
      · exact .dictionary encoded (ih below)

/-- Nothing reached escapes an unfolding that fits. -/
theorem positions_of_reaches {path : List SchemaStep} {reached : Option Nat} (fits : Fits memory levels pointer)
    (reaches : Reaches memory pointer path reached) :
    path.length < levels ∧ ∃ address, reached = some address ∧ (memory address).WellFormed ∧
      (path, address) ∈ positions memory levels pointer := by
  induction reaches generalizing levels with
  | here pointer =>
    obtain _ | levels := levels
    · exact fits.elim
    · cases pointer with
      | none => exact fits.elim
      | some address => exact ⟨Nat.succ_pos levels, address, rfl, fits.1, by simp [positions]⟩
  | @child root index path reached inside below ih =>
    obtain _ | levels := levels
    · exact fits.elim
    · obtain ⟨shorter, address, same, wellFormed, visited⟩ := ih (fits.2.1 index (List.mem_range.mpr inside))
      refine ⟨Nat.succ_lt_succ shorter, address, same, wellFormed, ?_⟩
      simp only [positions, List.cons_append, List.mem_cons, List.mem_append, List.mem_flatMap, List.mem_map]
      exact .inr (.inl ⟨index, List.mem_range.mpr inside, (path, address), visited, rfl⟩)
  | @dictionary root path values reached encoded below ih =>
    obtain _ | levels := levels
    · exact fits.elim
    · obtain ⟨shorter, address, same, wellFormed, visited⟩ := ih (fits.2.2 values encoded)
      refine ⟨Nat.succ_lt_succ shorter, address, same, wellFormed, ?_⟩
      simp only [positions, List.cons_append, List.mem_cons, List.mem_append, List.mem_flatMap, List.mem_map]
      exact .inr (.inr ⟨values, Option.mem_toList.mpr encoded, (path, address), visited, rfl⟩)

theorem fits_of_reaches
    (inside : ∀ path reached, Reaches memory pointer path reached →
      path.length < levels ∧ ∃ address, reached = some address ∧ (memory address).WellFormed) :
    Fits memory levels pointer := by
  induction levels generalizing pointer with
  | zero => exact absurd (inside [] pointer (.here pointer)).1 (Nat.not_lt_zero _)
  | succ levels ih =>
    obtain ⟨_, root, rfl, wellFormed⟩ := inside [] pointer (.here pointer)
    refine ⟨wellFormed, fun index member => ih fun path reached below => ?_,
      fun values encoded => ih fun path reached below => ?_⟩
    · have further := inside _ _ (.child (List.mem_range.mp member) below)
      exact ⟨Nat.lt_of_succ_lt_succ further.1, further.2⟩
    · have further := inside _ _ (.dictionary encoded below)
      exact ⟨Nat.lt_of_succ_lt_succ further.1, further.2⟩

theorem fits_iff :
    Fits memory levels pointer ↔ ∀ path reached, Reaches memory pointer path reached →
      path.length < levels ∧ ∃ address, reached = some address ∧ (memory address).WellFormed := by
  refine ⟨fun fits path reached reaches => ?_, fits_of_reaches⟩
  obtain ⟨shorter, address, same, wellFormed, _⟩ := positions_of_reaches fits reaches
  exact ⟨shorter, address, same, wellFormed⟩

omit [Target] in
theorem positions_nodup (memory : SchemaMemory) (levels : Nat) (pointer : Option Nat) :
    ((positions memory levels pointer).map Prod.fst).Nodup := by
  induction levels generalizing pointer with
  | zero => simp [positions]
  | succ levels ih =>
    cases pointer with
    | none => simp [positions]
    | some root =>
      have below : ∀ (step : SchemaStep) (next : Option Nat),
          ((positions memory levels next).map fun entry => step :: entry.1).Nodup := by
        intro step next
        have lifted := (ih next).map (List.cons_injective (a := step))
        simpa [Function.comp_def] using lifted
      simp only [positions, List.cons_append, List.map_cons, List.map_append, List.map_flatMap, List.map_map,
        Function.comp_def, List.nodup_cons, List.nodup_append']
      refine ⟨by simp, ?_, ?_, ?_⟩
      · refine List.nodup_flatMap.mpr ⟨fun index _ => below (.child index) _, ?_⟩
        refine List.nodup_range.imp fun different path one other => ?_
        obtain ⟨_, _, rfl⟩ := List.mem_map.mp one
        obtain ⟨_, _, same⟩ := List.mem_map.mp other
        injection (List.cons.inj same).1 with same
        exact different same.symm
      · cases (memory root).dictionary with
        | none => simp
        | some values => simpa using below .dictionary (some values)
      · intro path one other
        obtain ⟨_, _, one⟩ := List.mem_flatMap.mp one
        obtain ⟨_, _, other⟩ := List.mem_flatMap.mp other
        obtain ⟨_, _, rfl⟩ := List.mem_map.mp one
        obtain ⟨_, _, same⟩ := List.mem_map.mp other
        exact SchemaStep.noConfusion (List.cons.inj same).1

theorem once_iff (fits : Fits memory levels pointer) :
    ((positions memory levels pointer).map Prod.snd).Nodup ↔
      ∀ path path' address, Reaches memory pointer path (some address) →
        Reaches memory pointer path' (some address) → path = path' := by
  have listed : ∀ {path address}, Reaches memory pointer path (some address) →
      (path, address) ∈ positions memory levels pointer := by
    intro path address reaches
    obtain ⟨_, reached, same, _, visited⟩ := positions_of_reaches fits reaches
    rwa [Option.some.inj same]
  constructor
  · intro distinct path path' address reaches reaches'
    have same := List.inj_on_of_nodup_map distinct (listed reaches) (listed reaches') rfl
    exact congrArg Prod.fst same
  · intro once
    refine (List.Nodup.of_map _ (positions_nodup memory levels pointer)).map_on ?_
    rintro ⟨path, address⟩ visited ⟨path', _⟩ visited' rfl
    rw [once path path' address (reaches_of_positions visited) (reaches_of_positions visited')]

theorem wellFormedSchema_iff :
    WellFormedSchema memory pointer ↔
      Fits memory (maxSchemaDepth + 1) pointer ∧
        ((positions memory (maxSchemaDepth + 1) pointer).map Prod.snd).Nodup := by
  constructor
  · intro schema
    have fits := fits_iff.mpr fun path reached reaches =>
      ⟨Nat.lt_succ_of_le (schema.reached path reached reaches).1, (schema.reached path reached reaches).2⟩
    exact ⟨fits, (once_iff fits).mpr schema.once⟩
  · rintro ⟨fits, distinct⟩
    refine ⟨fun path reached reaches => ?_, (once_iff fits).mp distinct⟩
    have inside := fits_iff.mp fits path reached reaches
    exact ⟨Nat.le_of_lt_succ inside.1, inside.2⟩

theorem preflight_isOk {path : String} :
    (∃ visited, preflight memory (maxSchemaDepth + 1) pointer path [] = .ok visited) ↔
      WellFormedSchema memory pointer := by
  have claims := preflight_claims memory (maxSchemaDepth + 1) pointer path []
  rw [wellFormedSchema_iff]
  constructor
  · rintro ⟨visited, success⟩
    obtain ⟨⟨fits, distinct, _⟩, _⟩ := (claims visited).mp success
    exact ⟨fits, distinct⟩
  · rintro ⟨fits, distinct⟩
    exact ⟨_, (claims _).mpr ⟨⟨fits, distinct, List.disjoint_nil_right _⟩, rfl⟩⟩

theorem finite_of_fits (fits : Fits memory levels pointer) :
    {path | ∃ reached, Reaches memory pointer path reached}.Finite := by
  refine ((positions memory levels pointer).map Prod.fst).finite_toSet.subset ?_
  rintro path ⟨reached, reaches⟩
  obtain ⟨_, address, _, _, visited⟩ := positions_of_reaches fits reaches
  exact List.mem_map.mpr ⟨(path, address), visited, rfl⟩

end Reachable

/-- The pre-flight accepts exactly the well-formed trees, and the conversion is called on no other graph. -/
theorem validateModelSchema_preflight [Target] (memory : SchemaMemory) (schema : Option Nat) (name : String) :
    ((∃ visited, preflight memory (maxSchemaDepth + 1) schema s!"{name}_schema" [] = .ok visited) ↔
      WellFormedSchema memory schema) ∧
    (WellFormedSchema memory schema → {path | ∃ reached, Reaches memory schema path reached}.Finite) ∧
    (¬WellFormedSchema memory schema →
      ∃ error, ∀ arrow, validateModelSchema arrow memory schema name = .error error) := by
  have decided := @preflight_isOk _ memory schema s!"{name}_schema"
  refine ⟨decided, fun schema => finite_of_fits (wellFormedSchema_iff.mp schema).1, fun malformed => ?_⟩
  cases outcome : preflight memory (maxSchemaDepth + 1) schema s!"{name}_schema" [] with
  | ok visited => exact absurd (decided.mp ⟨visited, outcome⟩) malformed
  | error error =>
    refine ⟨error, fun arrow => ?_⟩
    rw [validateModelSchema, outcome]
    rfl

end LanceC.Index
