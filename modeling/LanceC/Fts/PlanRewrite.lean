import LanceC.Fts.QueryContext
import LanceC.Logic.RoseTree
import Mathlib.Algebra.GroupWithZero.Nat

/-! The segment-restricted rewrite of a full-text execution plan
(`rewrite_prepared_fts_plan` of scanner.rs). -/

namespace LanceC.Fts

open Logic Machine

/-- The two indexed query executions; each attaches to its own prepared query. -/
inductive FtsKind where
  | matchQuery
  | phrase
  deriving DecidableEq, Repr

def FtsKind.execName : FtsKind → String
  | matchQuery => "MatchQueryExec"
  | phrase => "PhraseQueryExec"

def FtsKind.stateName : FtsKind → String
  | matchQuery => "Match"
  | phrase => "Phrase"

def PreparedFtsQuery.kind : PreparedFtsQuery → FtsKind
  | matchQuery _ => .matchQuery
  | phrase _ => .phrase

def PreparedFtsQuery.scorer : PreparedFtsQuery → SharedScorer
  | matchQuery scorer => scorer
  | phrase scorer => scorer

/-- How an indexed query is restricted by the filter plan that is its child, if it has one. -/
inductive PrefilterSource where
  | none
  | filteredRowIds
  | scalarIndexQuery
  deriving DecidableEq, Repr

/-- `MatchQueryExec` and `PhraseQueryExec` without their prefilter plan. `Query`
stands for the query with its parameters, `Mask` for a row address mask. -/
structure FtsExec (Query Mask : Type) where
  dataset : Arc Dataset
  query : Query
  prefilterSource : PrefilterSource
  segments : Option (List IndexMetadata)
  baseScorer : Option SharedScorer
  externalMask : Option Mask
  deriving DecidableEq, Repr

inductive PlanOp (Query Mask : Type) where
  | flatMatchQuery (schema : Schema)
  | indexedQuery (kind : FtsKind) (exec : FtsExec Query Mask)
  | empty (schema : Schema)
  | other (name : String) (schema : Schema)
  deriving DecidableEq, Repr

abbrev Plan (Query Mask : Type) := RoseTree (PlanOp Query Mask)

variable {Query Mask : Type}

/-- The fixed output schema of the indexed queries, rebuilding a node over new
children, and the constructors that restrict a query to some segments. -/
structure PlanUpstream (Query Mask : Type) where
  ftsSchema : Schema
  withNewChildren : Plan Query Mask → List (Plan Query Mask) → Except String (Plan Query Mask)
  newWithSegments : FtsKind → Arc Dataset → Query → PrefilterSource → List IndexMetadata →
    Except LanceError (FtsExec Query Mask)

structure PreparedFtsPlanRewriteCounts where
  indexedQueryExecs : Nat
  flatMatchQueryExecs : Nat
  deriving DecidableEq, Repr

def PreparedFtsPlanRewriteCounts.add (left right : PreparedFtsPlanRewriteCounts) :
    PreparedFtsPlanRewriteCounts :=
  ⟨left.indexedQueryExecs + right.indexedQueryExecs, left.flatMatchQueryExecs + right.flatMatchQueryExecs⟩

/-- The arguments that stay the same over the whole plan. -/
structure PlanRewrite (Mask : Type) where
  segments : List IndexMetadata
  prepared : PreparedFtsQuery
  selectedSegmentsHaveCurrentFragments : Bool
  rowAddrMask : Option Mask

section Code

variable (upstream : PlanUpstream Query Mask) (request : PlanRewrite Mask)

/-- The part after the children are rebuilt; the prefilter plan stays the child. -/
def attachPrepared (rebuilt : Plan Query Mask) (rewritten : PreparedFtsPlanRewriteCounts) :
    Except LanceError (Plan Query Mask × PreparedFtsPlanRewriteCounts) :=
  match rebuilt with
  | .node (.indexedQuery kind exec) children =>
    let rewritten := rewritten.add ⟨1, 0⟩
    if !request.selectedSegmentsHaveCurrentFragments then
      .ok (.node (.empty upstream.ftsSchema) [], rewritten)
    else if request.prepared.kind ≠ kind then
      .error (.internal
        s!"prepared {request.prepared.kind.stateName} state cannot be attached to {kind.execName}")
    else do
      let replacement ← upstream.newWithSegments kind exec.dataset exec.query exec.prefilterSource request.segments
      return (.node (.indexedQuery kind { replacement with
        baseScorer := some request.prepared.scorer, externalMask := request.rowAddrMask }) children, rewritten)
  | rebuilt => .ok (rebuilt, rewritten)

mutual

def rewritePreparedFtsPlan :
    Plan Query Mask → Except LanceError (Plan Query Mask × PreparedFtsPlanRewriteCounts)
  | .node (.flatMatchQuery schema) _ => .ok (.node (.empty schema) [], ⟨0, 1⟩)
  | .node op children =>
    if children.isEmpty then attachPrepared upstream request (.node op children) ⟨0, 0⟩
    else do
      let (newChildren, rewritten) ← rewriteChildren children
      match upstream.withNewChildren (.node op children) newChildren with
      | .error error => throw (.internal s!"failed to rebuild FTS execution plan children: {error}")
      | .ok rebuilt => attachPrepared upstream request rebuilt rewritten

def rewriteChildren :
    List (Plan Query Mask) → Except LanceError (List (Plan Query Mask) × PreparedFtsPlanRewriteCounts)
  | [] => .ok ([], ⟨0, 0⟩)
  | child :: rest => do
    let (newChild, childRewritten) ← rewritePreparedFtsPlan child
    let (newRest, restRewritten) ← rewriteChildren rest
    return (newChild :: newRest, childRewritten.add restRewritten)

end

end Code

section Spec

/-- The indexed queries outside of every flat search, children first. -/
def indexedNodes (plan : Plan Query Mask) : List (FtsKind × FtsExec Query Mask) :=
  plan.fold fun op nodes =>
    match op with
    | .flatMatchQuery _ => []
    | .indexedQuery kind exec => nodes.flatten ++ [(kind, exec)]
    | _ => nodes.flatten

def topmostFlats (plan : Plan Query Mask) : Nat :=
  plan.fold fun op flats =>
    match op with
    | .flatMatchQuery _ => 1
    | _ => flats.sum

def containsFlat (plan : Plan Query Mask) : Bool :=
  plan.fold fun op below =>
    match op with
    | .flatMatchQuery _ => true
    | _ => below.any id

/-- A query keeps what it asks and is held to the selected segments. -/
def PlanRewrite.restrict (request : PlanRewrite Mask) (exec : FtsExec Query Mask) : FtsExec Query Mask :=
  { exec with
    segments := some request.segments, baseScorer := some request.prepared.scorer
    externalMask := request.rowAddrMask }

/-- The plan with every topmost flat search emptied and every indexed query
outside of them restricted, or emptied where no fragment is current. -/
def PlanRewrite.restricted (request : PlanRewrite Mask) (ftsSchema : Schema) (plan : Plan Query Mask) :
    Plan Query Mask :=
  plan.fold fun op children =>
    match op with
    | .flatMatchQuery schema => .node (.empty schema) []
    | .indexedQuery kind exec =>
      if request.selectedSegmentsHaveCurrentFragments then
        .node (.indexedQuery kind (request.restrict exec)) children
      else .node (.empty ftsSchema) []
    | op => .node op children

/-- Some indexed query is not of the kind that was prepared. -/
def PlanRewrite.mismatched (request : PlanRewrite Mask) (plan : Plan Query Mask) : Bool :=
  request.selectedSegmentsHaveCurrentFragments &&
    (indexedNodes plan).any fun node => node.1 != request.prepared.kind

/-- Rebuilding over as many children keeps the node, and the constructors take what they are given. -/
structure PlanUpstream.Faithful (upstream : PlanUpstream Query Mask) : Prop where
  rebuilds : ∀ op children newChildren, newChildren.length = children.length →
    upstream.withNewChildren (.node op children) newChildren = .ok (.node op newChildren)
  constructs : ∀ kind dataset query prefilterSource segments,
    ∃ exec, upstream.newWithSegments kind dataset query prefilterSource segments = .ok exec ∧
      exec.dataset = dataset ∧ exec.query = query ∧ exec.prefilterSource = prefilterSource ∧
      exec.segments = some segments

end Spec

end LanceC.Fts
