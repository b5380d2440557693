import LanceC.Error
import LanceC.Index.VectorParams
import LanceC.Logic.Except
import LanceC.Logic.RoseTree
import LanceC.Machine.Unwind
import LanceC.Snapshot

/-! The rewrite of a multi-vector plan (`rewrite` of multivector.rs): every node that
scores rows is replaced by one that scores them exactly, below everything that could
discard a row by its score. -/

namespace LanceC.Multivector.Rewrite

open Logic Index Machine

/-- The two ways a row is scored. -/
inductive Scoring (Query : Type) where
  | exact (query : Query) (column : String) (metric : DistanceType)
  | indexed
  deriving DecidableEq, Repr

/-- A node without its children. A score node keeps the node it replaces. -/
inductive PlanOp (Query : Type) where
  | knnVectorDistance (isBatch : Bool) (query : Query) (column : String) (metric : DistanceType) (schema : Schema)
  | multiVectorScore (mode : Scoring Query) (original : PlanOp Query)
  | strictBatchSize (batchSize : Nat) (schema : Schema)
  | other (name : String) (schema : Schema)
  deriving DecidableEq, Repr

abbrev Plan (Query : Type) := RoseTree (PlanOp Query)

variable {Query Batch : Type}

/-- A score node has the properties of the node it replaces. -/
def PlanOp.schema : PlanOp Query → Schema
  | knnVectorDistance _ _ _ _ schema | strictBatchSize _ schema | other _ schema => schema
  | multiVectorScore _ original => original.schema

/-- The batches of one partition, up to the first error. -/
abbrev BatchStream (Batch : Type) := List (Except DataFusionError Batch)

/-- What executing a plan yields for a partition. -/
abbrev Execution (Batch : Type) := Nat → Except (Stop DataFusionError) (BatchStream Batch)

/-- The query engine, as far as the nodes are its own: rebuilding a node over new
children, and executing it over the executions of its children. -/
structure PlanUpstream (Query Batch : Type) where
  withNewChildren : Plan Query → List (Plan Query) → Except DataFusionError (Plan Query)
  execute : PlanOp Query → List (Execution Batch) → Execution Batch

/-- `exact_batch` and `indexed_batch`. -/
structure Scorers (Query Batch : Type) where
  exactBatch : Query → String → DistanceType → Schema → Batch → Except DataFusionError Batch
  indexedBatch : List (BatchStream Batch) → Schema → Except DataFusionError Batch

def batchRefused : DataFusionError := .execution "expected one logical multi-vector query, not batch queries"

section Code

variable (upstream : PlanUpstream Query Batch)

/-- A score node has the children of the node it replaces. -/
def withNewChildren : PlanOp Query → List (Plan Query) → List (Plan Query) → Except DataFusionError (Plan Query)
  | .multiVectorScore mode original, children, newChildren => do
    let .node original children ← withNewChildren original children newChildren
    return .node (.multiVectorScore mode original) children
  | op, children, newChildren => upstream.withNewChildren (.node op children) newChildren

/-- The scoring a node is replaced by, if it is one that scores. -/
def scoringMode : PlanOp Query → Except DataFusionError (Option (Scoring Query))
  | .knnVectorDistance isBatch query column metric _ =>
    if isBatch then .error batchRefused else .ok (some (.exact query column metric))
  | .other name _ => .ok (if name = "MultivectorScoringExec" then some .indexed else none)
  | .multiVectorScore .. | .strictBatchSize .. => .ok none

/-- The node over its new children; a leaf is kept as it is. -/
def rebuild (op : PlanOp Query) (children newChildren : List (Plan Query)) : Except DataFusionError (Plan Query) :=
  if newChildren.isEmpty then .ok (.node op children) else withNewChildren upstream op children newChildren

/-- The part after the children are rebuilt. -/
def replaceScoring : Plan Query → Except DataFusionError (Plan Query)
  | .node op children => do
    match ← scoringMode op with
    | some mode => return .node (.multiVectorScore mode op) children
    | none => return .node op children

mutual

def rewrite : Plan Query → Except DataFusionError (Plan Query)
  | .node op children => do
    let newChildren ← rewriteChildren children
    let plan ← rebuild upstream op children newChildren
    replaceScoring plan

def rewriteChildren : List (Plan Query) → Except DataFusionError (List (Plan Query))
  | [] => .ok []
  | child :: rest => do return (← rewrite child) :: (← rewriteChildren rest)

end

variable (scorers : Scorers Query Batch)

/-- `MultiVectorScoreExec::execute`: each batch of the one child is scored on its own, in
order, or all children are reduced to one batch. -/
def executeScore (mode : Scoring Query) (schema : Schema) (inputs : List (Execution Batch)) : Execution Batch :=
  match mode with
  | .exact query column metric => fun partition =>
    match inputs with
    | input :: _ => do
      let batches ← input partition
      return batches.map fun batch => do scorers.exactBatch query column metric schema (← batch)
    | [] => .error (.panic (.text "index out of bounds: the len is 0 but the index is 0"))
  | .indexed => fun partition => do
    let inputs ← inputs.mapM fun input => input partition
    return [scorers.indexedBatch inputs schema]

def executeOp : PlanOp Query → List (Execution Batch) → Execution Batch
  | .multiVectorScore mode original, inputs => executeScore scorers mode original.schema inputs
  | op, inputs => upstream.execute op inputs

def execute (plan : Plan Query) : Execution Batch := plan.fold (executeOp upstream scorers)

end Code

section Spec

def PlanOp.scoring : PlanOp Query → Option (Scoring Query)
  | knnVectorDistance _ query column metric _ => some (.exact query column metric)
  | other name _ => if name = "MultivectorScoringExec" then some .indexed else none
  | multiVectorScore .. | strictBatchSize .. => none

def PlanOp.rescore (op : PlanOp Query) : PlanOp Query :=
  match op.scoring with
  | some mode => .multiVectorScore mode op
  | none => op

/-- The plan with every scoring node replaced and every other node as it was. -/
def rescored (plan : Plan Query) : Plan Query := plan.fold fun op children => .node op.rescore children

def PlanOp.isBatch : PlanOp Query → Bool
  | knnVectorDistance isBatch .. => isBatch
  | _ => false

def hasBatch (plan : Plan Query) : Bool := plan.fold fun op below => op.isBatch || below.any id

/-- Execution of a plan in which every scoring node scores exactly. -/
def executeRescored (upstream : PlanUpstream Query Batch) (scorers : Scorers Query Batch) (plan : Plan Query) :
    Execution Batch :=
  plan.fold fun op inputs =>
    match op.scoring with
    | some mode => executeScore scorers mode op.schema inputs
    | none => executeOp upstream scorers op inputs

/-- Rebuilding over as many children keeps the node. -/
def PlanUpstream.Faithful (upstream : PlanUpstream Query Batch) : Prop :=
  ∀ op children newChildren, newChildren.length = children.length →
    upstream.withNewChildren (.node op children) newChildren = .ok (.node op newChildren)

end Spec

section Nodes

variable {upstream : PlanUpstream Query Batch} {op : PlanOp Query} {children newChildren : List (Plan Query)}

theorem withNewChildren_eq (faithful : upstream.Faithful) (op : PlanOp Query)
    (same : newChildren.length = children.length) :
    withNewChildren upstream op children newChildren = .ok (.node op newChildren) := by
  induction op with
  | multiVectorScore mode original ih =>
    rw [withNewChildren, ih]
    rfl
  | knnVectorDistance | strictBatchSize | other => exact faithful _ children newChildren same

theorem scoringMode_eq (op : PlanOp Query) :
    scoringMode op = if op.isBatch then .error batchRefused else .ok op.scoring := by
  cases op with
  | knnVectorDistance isBatch => cases isBatch <;> rfl
  | multiVectorScore | strictBatchSize | other => rfl

theorem rescored_node : rescored (.node op children) = .node op.rescore (children.map rescored) := by
  rw [rescored, RoseTree.fold_node]
  rfl

theorem hasBatch_node : hasBatch (.node op children) = (op.isBatch || children.any hasBatch) := by
  rw [hasBatch, RoseTree.fold_node, List.any_map]
  rfl

/-- A replaced node is not one that scores: there is nothing to replace in it. -/
@[simp] theorem scoring_rescore (op : PlanOp Query) : op.rescore.scoring = none := by
  unfold PlanOp.rescore
  cases mode : op.scoring with
  | none => exact mode
  | some => rfl

@[simp] theorem isBatch_rescore (op : PlanOp Query) : op.rescore.isBatch = false := by
  unfold PlanOp.rescore
  cases mode : op.scoring with
  | some => rfl
  | none =>
    cases op with
    | knnVectorDistance => cases mode
    | multiVectorScore | strictBatchSize | other => rfl

@[simp] theorem rescore_rescore (op : PlanOp Query) : op.rescore.rescore = op.rescore := by
  rw [PlanOp.rescore, scoring_rescore]

theorem rewriteChildren_length
    (success : rewriteChildren upstream children = .ok newChildren) : newChildren.length = children.length := by
  induction children generalizing newChildren with
  | nil =>
    cases success
    rfl
  | cons child rest ih =>
    obtain ⟨newChild, _, success⟩ := bind_eq_ok.mp success
    obtain ⟨newRest, others, success⟩ := bind_eq_ok.mp success
    cases success
    rw [List.length_cons, List.length_cons, ih others]

/-- With rebuilding that keeps the node, a leaf is no special case. -/
theorem rewrite_node (faithful : upstream.Faithful)
    (below : rewriteChildren upstream children = .ok newChildren) :
    rewrite upstream (.node op children) =
      if op.isBatch then .error batchRefused else .ok (.node op.rescore newChildren) := by
  have rebuilt : rebuild upstream op children newChildren = .ok (.node op newChildren) := by
    have same := rewriteChildren_length below
    cases newChildren with
    | nil =>
      obtain rfl := List.length_eq_zero_iff.mp same.symm
      rfl
    | cons newChild newRest => exact withNewChildren_eq faithful op same
  rw [rewrite, below]
  simp only [bind, Except.bind, rebuilt, replaceScoring, scoringMode_eq, PlanOp.rescore]
  cases op.isBatch with
  | true => rfl
  | false => cases op.scoring <;> rfl

end Nodes

section Exactness

variable {upstream : PlanUpstream Query Batch} {plan : Plan Query}

/-- The outcome of the rewrite of one plan. -/
def Exact (upstream : PlanUpstream Query Batch) (plan : Plan Query) : Prop :=
  rewrite upstream plan = if hasBatch plan then .error batchRefused else .ok (rescored plan)

theorem rewriteChildren_eq {children : List (Plan Query)} (each : ∀ child ∈ children, Exact upstream child) :
    rewriteChildren upstream children =
      if children.any hasBatch then .error batchRefused else .ok (children.map rescored) := by
  induction children with
  | nil => rfl
  | cons child rest ih =>
    obtain ⟨first, others⟩ := List.forall_mem_cons.mp each
    rw [rewriteChildren, first, ih others, List.any_cons, List.map_cons]
    cases hasBatch child with
    | true => rfl
    | false => cases rest.any hasBatch <;> rfl

theorem rewrite_eq (faithful : upstream.Faithful) (plan : Plan Query) : Exact upstream plan := by
  induction plan using RoseTree.induction with
  | node op children each =>
    have below := rewriteChildren_eq each
    rw [Exact, hasBatch_node, rescored_node]
    cases refused : children.any hasBatch with
    | true =>
      rw [refused] at below
      rw [rewrite, below, Bool.or_true]
      rfl
    | false =>
      rw [refused] at below
      rw [rewrite_node faithful below, Bool.or_false]

theorem hasBatch_rescored (plan : Plan Query) : hasBatch (rescored plan) = false := by
  induction plan using RoseTree.induction with
  | node op children ih =>
    rw [rescored_node, hasBatch_node, isBatch_rescore, Bool.false_or, List.any_map]
    simpa using ih

theorem rescored_rescored (plan : Plan Query) : rescored (rescored plan) = rescored plan := by
  induction plan using RoseTree.induction with
  | node op children ih =>
    rw [rescored_node, rescored_node, rescore_rescore, List.map_map]
    exact congrArg _ (List.map_congr_left ih)

variable {scorers : Scorers Query Batch}

theorem executeOp_rescore (op : PlanOp Query) (inputs : List (Execution Batch)) :
    executeOp upstream scorers op.rescore inputs =
      match op.scoring with
      | some mode => executeScore scorers mode op.schema inputs
      | none => executeOp upstream scorers op inputs := by
  unfold PlanOp.rescore
  cases op.scoring with
  | some mode => rfl
  | none => rfl

theorem execute_rescored (plan : Plan Query) :
    execute upstream scorers (rescored plan) = executeRescored upstream scorers plan := by
  induction plan using RoseTree.induction with
  | node op children ih =>
    have below : (children.map rescored).map (execute upstream scorers) =
        children.map (executeRescored upstream scorers) := by
      rw [List.map_map]
      exact List.map_congr_left ih
    calc execute upstream scorers (rescored (.node op children))
        = executeOp upstream scorers op.rescore ((children.map rescored).map (execute upstream scorers)) := by
          rw [rescored_node, execute, RoseTree.fold_node]
          rfl
      _ = executeRescored upstream scorers (.node op children) := by
          rw [below, executeOp_rescore, executeRescored, RoseTree.fold_node]
          rfl

/-- Where the replaced nodes scored exactly in the first place, nothing changes. -/
theorem executeRescored_eq (plan : Plan Query)
    (exactly : ∀ op mode inputs, op.scoring = some mode →
      upstream.execute op inputs = executeScore scorers mode op.schema inputs) :
    executeRescored upstream scorers plan = execute upstream scorers plan := by
  induction plan using RoseTree.induction with
  | node op children ih =>
    have below : children.map (executeRescored upstream scorers) = children.map (execute upstream scorers) :=
      List.map_congr_left ih
    have replaced (inputs : List (Execution Batch)) :
        (match op.scoring with
          | some mode => executeScore scorers mode op.schema inputs
          | none => executeOp upstream scorers op inputs) = executeOp upstream scorers op inputs := by
      cases mode : op.scoring with
      | none => rfl
      | some mode' =>
        cases op with
        | multiVectorScore | strictBatchSize => cases mode
        | knnVectorDistance | other => exact (exactly _ _ inputs mode).symm
    calc executeRescored upstream scorers (.node op children)
        = executeOp upstream scorers op (children.map (executeRescored upstream scorers)) := by
          rw [executeRescored, RoseTree.fold_node]
          exact replaced _
      _ = execute upstream scorers (.node op children) := by
          rw [below, execute, RoseTree.fold_node]
          rfl

/-- The rewrite succeeds where no node searches a batch of queries, and then replaces
every scoring node and nothing else; it has nothing left to do on its own result. The
plan runs as before, with exact scores in place of Lance's. -/
theorem rewrite_rescores (faithful : upstream.Faithful) (scorers : Scorers Query Batch) (plan : Plan Query) :
    (hasBatch plan = true → rewrite upstream plan = .error batchRefused) ∧
      (hasBatch plan = false → rewrite upstream plan = .ok (rescored plan)) ∧
      rewrite upstream (rescored plan) = .ok (rescored plan) ∧
      execute upstream scorers (rescored plan) = executeRescored upstream scorers plan ∧
      ((∀ op mode inputs, op.scoring = some mode →
          upstream.execute op inputs = executeScore scorers mode op.schema inputs) →
        execute upstream scorers (rescored plan) = execute upstream scorers plan) := by
  have outcome := rewrite_eq faithful plan
  refine ⟨fun batch => ?_, fun single => ?_, ?_, execute_rescored plan, fun exactly => ?_⟩
  · rw [outcome, batch]
    rfl
  · rw [outcome, single]
    rfl
  · rw [rewrite_eq faithful, hasBatch_rescored, rescored_rescored]
    rfl
  · rw [execute_rescored, executeRescored_eq plan exactly]

/-- A node of the engine's own runs its first child, a leaf yields the partition. -/
def sampleEngine : PlanUpstream Nat Nat where
  withNewChildren
    | .node op children, newChildren =>
      if newChildren.length = children.length then .ok (.node op newChildren)
      else .error (.execution "Wrong number of children")
  execute _ inputs :=
    match inputs with
    | input :: _ => input
    | [] => fun partition => .ok [.ok partition]

def sampleScorers : Scorers Nat Nat where
  exactBatch query _ _ _ batch := .ok (query + batch)
  indexedBatch inputs _ := .ok inputs.length

/-- A refined query: exact scores over the indexed ones. -/
def samplePlan : Plan Nat :=
  .node (.strictBatchSize 2 ⟨[]⟩)
    [.node (.knnVectorDistance false 7 "vectors" .l2 ⟨[]⟩)
      [.node (.other "MultivectorScoringExec" ⟨[]⟩) [.node (.other "ANNSubIndex" ⟨[]⟩) []]]]

theorem rewrite_rescores_sample :
    rewrite sampleEngine samplePlan = .ok (rescored samplePlan) ∧
      rewrite sampleEngine (rescored samplePlan) = .ok (rescored samplePlan) ∧
      execute sampleEngine sampleScorers (rescored samplePlan) 3 = .ok [.ok 8] := by
  have faithful : sampleEngine.Faithful := fun _ _ _ same => if_pos same
  obtain ⟨_, replaced, again, runs, _⟩ := rewrite_rescores faithful sampleScorers samplePlan
  refine ⟨replaced rfl, again, ?_⟩
  rw [runs]
  rfl

end Exactness

end LanceC.Multivector.Rewrite
