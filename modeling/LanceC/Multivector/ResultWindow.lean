import LanceC.Error
import LanceC.Logic.Except
import LanceC.Logic.Rechunk
import Mathlib.Order.Lattice

/-! The final window of a multi-vector search (`apply_result_window` of multivector.rs)
and what its rewritten plan produces. -/

namespace LanceC.Multivector.ResultWindow

open Logic

structure SortOptions where
  descending : Bool
  nullsFirst : Bool
  deriving DecidableEq, Repr

/-- A column reference, resolved against a schema. -/
structure Column where
  name : String
  index : Nat
  deriving DecidableEq, Repr

structure PhysicalSortExpr where
  expr : Column
  options : SortOptions
  deriving DecidableEq, Repr

/-- The operators the window is built from, over any other operators. -/
inductive Plan (Node : Type) where
  | strictBatchSize (input : Plan Node) (batchSize : Nat)
  | coalescePartitions (input : Plan Node)
  | sort (exprs : List PhysicalSortExpr) (input : Plan Node)
  | globalLimit (input : Plan Node) (skip : Nat) (fetch : Option Nat)
  | other (node : Node)
  deriving DecidableEq, Repr

/-- One cell for each column; an absent value is NULL. -/
abbrev Row (Value : Type) := List (Option Value)

/-- The batches of one partition. -/
abbrev BatchStream (Value : Type) := List (List (Row Value))

/-- The query engine's part. `Executes plan streams` holds of the streams, one for each
partition, that an execution of the plan may complete with. -/
structure PlanUpstream (Node Value : Type) where
  schema : Plan Node → List String
  col : String → List String → Except DataFusionError Column
  withNewChildren : Plan Node → List (Plan Node) → Except DataFusionError (Plan Node)
  Executes : Plan Node → List (BatchStream Value) → Prop

section Code

variable {Node Value : Type} (upstream : PlanUpstream Node Value)

/-- The part for a plan that is no strict batch size node. -/
def sortAndLimit (plan : Plan Node) (offset : Nat) (limit : Option Nat) : Except DataFusionError (Plan Node) := do
  let expr ← upstream.col "_distance" (upstream.schema plan)
  let sort : PhysicalSortExpr := { expr, options := { descending := false, nullsFirst := false } }
  let sorted := Plan.sort [sort] (.coalescePartitions plan)
  return .globalLimit sorted offset limit

def applyResultWindow : Plan Node → Nat → Option Nat → Except DataFusionError (Plan Node)
  | .strictBatchSize child batchSize, offset, limit => do
    let input ← applyResultWindow child offset limit
    upstream.withNewChildren (.strictBatchSize child batchSize) [input]
  | plan, offset, limit => sortAndLimit upstream plan offset limit

end Code

section Semantics

variable {Value : Type} [LinearOrder Value]

/-- NULL stands on its own side, whichever way the values run. -/
def SortOptions.compareCells (options : SortOptions) : Option Value → Option Value → Ordering
  | none, none => .eq
  | none, some _ => if options.nullsFirst then .lt else .gt
  | some _, none => if options.nullsFirst then .gt else .lt
  | some left, some right => if options.descending then compare right left else compare left right

def Column.cell (column : Column) (row : Row Value) : Option Value := row[column.index]?.join

def PhysicalSortExpr.compareRows (sort : PhysicalSortExpr) (left right : Row Value) : Ordering :=
  sort.options.compareCells (sort.expr.cell left) (sort.expr.cell right)

/-- The first sort expression that tells two rows apart decides. -/
def compareRows : List PhysicalSortExpr → Row Value → Row Value → Ordering
  | [], _, _ => .eq
  | sort :: rest, left, right => (sort.compareRows left right).then (compareRows rest left right)

variable {Node : Type}

def PlanUpstream.SinglePartition (upstream : PlanUpstream Node Value) (plan : Plan Node) : Prop :=
  ∀ streams, upstream.Executes plan streams → ∃ stream, streams = [stream]

/-- The documented behaviour of the operators. A sort and a limit work on one partition;
merging partitions and sorting leave open in which order (equal) rows come. -/
structure PlanUpstream.Documented (upstream : PlanUpstream Node Value) : Prop where
  col_ok (name : String) (schema : List String) (column : Column) :
    upstream.col name schema = .ok column ↔ column.name = name ∧ schema.idxOf? name = some column.index
  rebuilds (child input : Plan Node) (batchSize : Nat) :
    upstream.withNewChildren (.strictBatchSize child batchSize) [input] = .ok (.strictBatchSize input batchSize)
  rechunks (input : Plan Node) (batchSize : Nat) (streams : List (BatchStream Value)) :
    upstream.Executes (.strictBatchSize input batchSize) streams ↔ ∃ given, upstream.Executes input given ∧
      List.Forall₂ (fun stream batches => Rechunked batchSize stream.flatten batches) given streams
  merges {input : Plan Node} {streams : List (BatchStream Value)}
    (executes : upstream.Executes (.coalescePartitions input) streams) :
    ∃ given merged, upstream.Executes input given ∧ streams = [merged] ∧ merged.flatten.Perm given.flatten.flatten
  sorts {exprs : List PhysicalSortExpr} {input : Plan Node} {streams : List (BatchStream Value)}
    (single : upstream.SinglePartition input) (executes : upstream.Executes (.sort exprs input) streams) :
    ∃ given sorted, upstream.Executes input [given] ∧ streams = [sorted] ∧ sorted.flatten.Perm given.flatten ∧
      sorted.flatten.Pairwise fun left right => compareRows exprs left right ≠ .gt
  limits {input : Plan Node} {skip : Nat} {fetch : Option Nat} {streams : List (BatchStream Value)}
    (single : upstream.SinglePartition input) (executes : upstream.Executes (.globalLimit input skip fetch) streams) :
    ∃ given limited, upstream.Executes input [given] ∧ streams = [limited] ∧
      limited.flatten = window skip fetch given.flatten

end Semantics

section Spec

variable {Node Value : Type} [LinearOrder Value]

def distanceOf (schema : List String) (row : Row Value) : Option Value :=
  (schema.idxOf? "_distance").bind fun index => row[index]?.join

/-- Ascending, and NULL behind every value. -/
def NullsLast : Option Value → Option Value → Prop
  | _, none => True
  | some left, some right => left ≤ right
  | none, some _ => False

/-- `rows` is a window of the given rows arranged by distance. -/
def DistanceWindow (distance : Row Value → Option Value) (offset : Nat) (limit : Option Nat)
    (given rows : List (Row Value)) : Prop :=
  ∃ ordered : List (Row Value), ordered.Perm given ∧
    (ordered.Pairwise fun left right => NullsLast (distance left) (distance right)) ∧
    rows = window offset limit ordered

/-- With nothing to skip and no bound the window is everything. -/
theorem DistanceWindow.perm {distance : Row Value → Option Value} {given rows : List (Row Value)}
    (windowed : DistanceWindow distance 0 none given rows) : rows.Perm given := by
  obtain ⟨ordered, arranged, _, rfl⟩ := windowed
  exact arranged

/-- The plan below the strict batch size nodes on top. -/
def Plan.unbatched : Plan Node → Plan Node
  | strictBatchSize input _ => input.unbatched
  | plan => plan

/-- The strict batch size nodes on top of a plan, over another one. -/
def Plan.rebatch : Plan Node → Plan Node → Plan Node
  | strictBatchSize input batchSize, below => strictBatchSize (input.rebatch below) batchSize
  | _, below => below

/-- The sizes of the strict batch size nodes on top. -/
def Plan.batchSizes : Plan Node → List Nat
  | strictBatchSize input batchSize => batchSize :: input.batchSizes
  | _ => []

/-- The rows of a complete execution, whatever partitions and batches they came in. -/
def PlanUpstream.Produces (upstream : PlanUpstream Node Value) (plan : Plan Node)
    (rows : List (Row Value)) : Prop :=
  ∃ streams, upstream.Executes plan streams ∧ streams.flatten.flatten = rows

end Spec

section Proofs

variable {Node Value : Type} [LinearOrder Value] {upstream : PlanUpstream Node Value}

/-- The window goes below the strict batch size nodes, which stay in their order. -/
theorem applyResultWindow_eq (documented : upstream.Documented) (plan : Plan Node) (offset : Nat)
    (limit : Option Nat) :
    applyResultWindow upstream plan offset limit =
      (sortAndLimit upstream plan.unbatched offset limit).map plan.rebatch := by
  induction plan with
  | strictBatchSize input batchSize ih =>
    rw [applyResultWindow, ih, Plan.unbatched]
    cases sortAndLimit upstream input.unbatched offset limit with
    | error error => rfl
    | ok below => exact documented.rebuilds input (input.rebatch below) batchSize
  | _ => exact (congrFun Except.map_id _).symm

theorem sortAndLimit_ok (documented : upstream.Documented) {plan result : Plan Node} {offset : Nat}
    {limit : Option Nat} (success : sortAndLimit upstream plan offset limit = .ok result) :
    ∃ index, (upstream.schema plan).idxOf? "_distance" = some index ∧
      result = .globalLimit (.sort [⟨⟨"_distance", index⟩, ⟨false, false⟩⟩] (.coalescePartitions plan)) offset limit := by
  obtain ⟨⟨name, index⟩, resolved, built⟩ := bind_eq_ok.mp success
  obtain ⟨rfl, position⟩ := (documented.col_ok _ _ _).mp resolved
  exact ⟨index, position, (Except.ok.inj built).symm⟩

theorem sortAndLimit_isOk (documented : upstream.Documented) (plan : Plan Node) (offset : Nat)
    (limit : Option Nat) :
    (∃ result, sortAndLimit upstream plan offset limit = .ok result) ↔ "_distance" ∈ upstream.schema plan := by
  rw [← List.isSome_idxOf?, Option.isSome_iff_exists]
  constructor
  · rintro ⟨result, success⟩
    obtain ⟨index, position, _⟩ := sortAndLimit_ok documented success
    exact ⟨index, position⟩
  · rintro ⟨index, position⟩
    have resolved := (documented.col_ok "_distance" (upstream.schema plan) ⟨"_distance", index⟩).mpr ⟨rfl, position⟩
    exact ⟨_, bind_eq_ok.mpr ⟨_, resolved, rfl⟩⟩

theorem applyResultWindow_isOk (documented : upstream.Documented) (plan : Plan Node) (offset : Nat)
    (limit : Option Nat) :
    (∃ result, applyResultWindow upstream plan offset limit = .ok result) ↔
      "_distance" ∈ upstream.schema plan.unbatched := by
  rw [← sortAndLimit_isOk documented plan.unbatched offset limit, applyResultWindow_eq documented]
  cases sortAndLimit upstream plan.unbatched offset limit <;> simp [Except.map]

/-- Strict batches change neither the partitions nor the rows of each. -/
theorem executes_rebatch (documented : upstream.Documented) {plan below : Plan Node}
    {streams : List (BatchStream Value)} (executes : upstream.Executes (plan.rebatch below) streams) :
    ∃ given, upstream.Executes below given ∧ streams.map List.flatten = given.map List.flatten := by
  induction plan generalizing streams with
  | strictBatchSize input batchSize ih =>
    obtain ⟨between, executed, regrouped⟩ := (documented.rechunks _ _ _).mp executes
    obtain ⟨given, started, same⟩ := ih executed
    exact ⟨given, started, (Rechunked.map_flatten regrouped).trans same⟩
  | _ => exact ⟨streams, executes, rfl⟩

theorem executes_of_unbatched (documented : upstream.Documented) {plan : Plan Node}
    (positive : ∀ size ∈ plan.batchSizes, 0 < size) {given : List (BatchStream Value)}
    (executes : upstream.Executes plan.unbatched given) :
    ∃ streams, upstream.Executes plan streams ∧ streams.map List.flatten = given.map List.flatten := by
  induction plan with
  | strictBatchSize input batchSize ih =>
    obtain ⟨own, others⟩ := List.forall_mem_cons.mp positive
    obtain ⟨between, executed, same⟩ := ih others executes
    obtain ⟨streams, regrouped⟩ := Rechunked.exists_forall₂ own between
    exact ⟨streams, (documented.rechunks _ _ _).mpr ⟨between, executed, regrouped⟩,
      (Rechunked.map_flatten regrouped).trans same⟩
  | _ => exact ⟨given, executes, rfl⟩

theorem produces_of_unbatched (documented : upstream.Documented) {plan : Plan Node}
    (positive : ∀ size ∈ plan.batchSizes, 0 < size) {rows : List (Row Value)}
    (produces : upstream.Produces plan.unbatched rows) : upstream.Produces plan rows := by
  obtain ⟨given, started, rfl⟩ := produces
  obtain ⟨streams, executes, same⟩ := executes_of_unbatched documented positive started
  exact ⟨streams, executes, by rw [List.flatten_flatten, List.flatten_flatten, same]⟩

/-- The comparison the window sorts by. -/
theorem nullsLast_of_compareRows {schema : List String} {index : Nat}
    (position : schema.idxOf? "_distance" = some index) {left right : Row Value}
    (inOrder : compareRows [⟨⟨"_distance", index⟩, ⟨false, false⟩⟩] left right ≠ .gt) :
    NullsLast (distanceOf schema left) (distanceOf schema right) := by
  simp only [compareRows, PhysicalSortExpr.compareRows, Column.cell, Ordering.then_eq] at inOrder
  simp only [distanceOf, position, Option.bind_some]
  cases first : left[index]?.join with
  | none =>
    cases second : right[index]?.join with
    | none => trivial
    | some value => simp [first, second, SortOptions.compareCells] at inOrder
  | some value =>
    cases second : right[index]?.join with
    | none => trivial
    | some other => simpa [first, second, SortOptions.compareCells, NullsLast, compare_gt_iff_gt] using inOrder

/-- What the sort and the limit make of the merged partitions. -/
theorem executes_sortAndLimit (documented : upstream.Documented) {plan result : Plan Node} {offset : Nat}
    {limit : Option Nat} (success : sortAndLimit upstream plan offset limit = .ok result)
    {streams : List (BatchStream Value)} (executes : upstream.Executes result streams) :
    ∃ given limited, upstream.Executes plan given ∧ streams = [limited] ∧
      DistanceWindow (distanceOf (upstream.schema plan)) offset limit given.flatten.flatten limited.flatten := by
  obtain ⟨index, position, rfl⟩ := sortAndLimit_ok documented success
  have merged : upstream.SinglePartition (.coalescePartitions plan) := fun parts merging => by
    obtain ⟨_, stream, _, single, _⟩ := documented.merges merging
    exact ⟨stream, single⟩
  have sorted : upstream.SinglePartition (.sort [⟨⟨"_distance", index⟩, ⟨false, false⟩⟩] (.coalescePartitions plan)) :=
    fun parts sorting => by
      obtain ⟨_, stream, _, single, _⟩ := documented.sorts merged sorting
      exact ⟨stream, single⟩
  obtain ⟨ordered, limited, sorting, rfl, windowed⟩ := documented.limits sorted executes
  obtain ⟨stream, same, merging, alone, arranged, inOrder⟩ := documented.sorts merged sorting
  obtain rfl : ordered = same := by simpa using alone
  obtain ⟨given, whole, started, alone, interleaved⟩ := documented.merges merging
  obtain rfl : stream = whole := by simpa using alone
  refine ⟨given, limited, started, rfl, ordered.flatten, arranged.trans interleaved, ?_, windowed⟩
  exact inOrder.imp fun atMost => nullsLast_of_compareRows position atMost

/-- The plan's one partition is a window of its rows by distance, in the batches of
its outermost strict batch size node. -/
theorem executes_applyResultWindow (documented : upstream.Documented) {plan result : Plan Node} {offset : Nat}
    {limit : Option Nat} (success : applyResultWindow upstream plan offset limit = .ok result)
    {streams : List (BatchStream Value)} (executes : upstream.Executes result streams) :
    ∃ batches rows, streams = [batches] ∧ upstream.Produces plan.unbatched rows ∧
      DistanceWindow (distanceOf (upstream.schema plan.unbatched)) offset limit rows batches.flatten ∧
      ∀ input batchSize, plan = .strictBatchSize input batchSize → FullButLast batchSize batches := by
  rw [applyResultWindow_eq documented] at success
  obtain ⟨below, built, rfl⟩ : ∃ below, sortAndLimit upstream plan.unbatched offset limit = .ok below ∧
      plan.rebatch below = result := by
    cases built : sortAndLimit upstream plan.unbatched offset limit with
    | error error => simp [built, Except.map] at success
    | ok below => exact ⟨below, rfl, by simpa [built, Except.map] using success⟩
  obtain ⟨windowed, started, same⟩ := executes_rebatch documented executes
  obtain ⟨given, limited, produced, rfl, distances⟩ := executes_sortAndLimit documented built started
  obtain ⟨batches, rfl, rows⟩ : ∃ batches, streams = [batches] ∧ batches.flatten = limited.flatten := by
    simpa using List.map_eq_singleton_iff.mp same
  refine ⟨batches, given.flatten.flatten, rfl, ⟨given, produced, rfl⟩, rows ▸ distances, ?_⟩
  rintro input batchSize rfl
  obtain ⟨between, _, regrouped⟩ := (documented.rechunks _ _ _).mp executes
  obtain ⟨stream, rest, rechunked, _, _⟩ := List.forall₂_cons_right_iff.mp regrouped
  exact rechunked.fullButLast

end Proofs

section Sources

variable {Value : Type} [LinearOrder Value]

/-- The operators as documented, over plans that read fixed streams. -/
def SourceExecutes : Plan (List (BatchStream Value)) → List (BatchStream Value) → Prop
  | .strictBatchSize input batchSize, streams => ∃ given, SourceExecutes input given ∧
      List.Forall₂ (fun stream batches => Rechunked batchSize stream.flatten batches) given streams
  | .coalescePartitions input, streams => ∃ given merged, SourceExecutes input given ∧ streams = [merged] ∧
      merged.Perm given.flatten
  | .sort exprs input, streams => ∃ given sorted, SourceExecutes input [given] ∧ streams = [sorted] ∧
      sorted.flatten.Perm given.flatten ∧
      sorted.flatten.Pairwise fun left right => compareRows exprs left right ≠ .gt
  | .globalLimit input skip fetch, streams => ∃ given limited, SourceExecutes input [given] ∧ streams = [limited] ∧
      limited.flatten = window skip fetch given.flatten
  | .other sources, streams => streams = sources

def sourcePlanner (schema : List String) : PlanUpstream (List (BatchStream Value)) Value where
  schema _ := schema
  col name schema :=
    match schema.idxOf? name with
    | some index => .ok ⟨name, index⟩
    | none => .error (.arrow s!"Unable to get field named {name}")
  withNewChildren
    | .strictBatchSize _ batchSize, [input] => .ok (.strictBatchSize input batchSize)
    | plan, _ => .ok plan
  Executes := SourceExecutes

theorem sourcePlanner_documented (schema : List String) :
    (sourcePlanner schema : PlanUpstream _ Value).Documented where
  col_ok name schema column := by
    obtain ⟨ownName, ownIndex⟩ := column
    cases position : schema.idxOf? name with
    | none => simp [sourcePlanner, position]
    | some index => simp [sourcePlanner, position, eq_comm]
  rebuilds _ _ _ := rfl
  rechunks _ _ _ := Iff.rfl
  merges executes := by
    obtain ⟨given, merged, started, single, interleaved⟩ := executes
    exact ⟨given, merged, started, single, interleaved.flatten⟩
  sorts _ executes := executes
  limits _ executes := executes

end Sources

end LanceC.Multivector.ResultWindow
