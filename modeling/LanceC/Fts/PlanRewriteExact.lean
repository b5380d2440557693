import LanceC.Fts.PlanRewrite
import LanceC.Logic.Except

/-! The plan rewrite removes every flat search, restricts every other indexed
query and nothing else, and has nothing left to do on its own result. -/

namespace LanceC.Fts

open Logic Machine

variable {Query Mask : Type} {upstream : PlanUpstream Query Mask} {request : PlanRewrite Mask}

section Nodes

variable (ftsSchema : Schema) (children : List (Plan Query Mask))

theorem indexedNodes_indexed (kind : FtsKind) (exec : FtsExec Query Mask) :
    indexedNodes (.node (.indexedQuery kind exec) children) = children.flatMap indexedNodes ++ [(kind, exec)] := by
  rw [indexedNodes, RoseTree.fold_node]
  rfl

theorem restricted_indexed (kind : FtsKind) (exec : FtsExec Query Mask) :
    request.restricted ftsSchema (.node (.indexedQuery kind exec) children) =
      if request.selectedSegmentsHaveCurrentFragments then
        .node (.indexedQuery kind (request.restrict exec)) (children.map (request.restricted ftsSchema))
      else .node (.empty ftsSchema) [] := by
  rw [PlanRewrite.restricted, RoseTree.fold_node]
  rfl

/-- A node the rewrite keeps as it is. -/
def PlanOp.IsPlain (op : PlanOp Query Mask) : Prop :=
  (∃ schema, op = .empty schema) ∨ ∃ name schema, op = .other name schema

theorem indexedNodes_plain {op : PlanOp Query Mask} (plain : op.IsPlain) :
    indexedNodes (.node op children) = children.flatMap indexedNodes := by
  rcases plain with ⟨schema, rfl⟩ | ⟨name, schema, rfl⟩ <;> rw [indexedNodes, RoseTree.fold_node] <;> rfl

theorem restricted_plain {op : PlanOp Query Mask} (plain : op.IsPlain) :
    request.restricted ftsSchema (.node op children) = .node op (children.map (request.restricted ftsSchema)) := by
  rcases plain with ⟨schema, rfl⟩ | ⟨name, schema, rfl⟩ <;> rw [PlanRewrite.restricted, RoseTree.fold_node] <;> rfl

theorem topmostFlats_node {op : PlanOp Query Mask} (notFlat : ∀ schema, op ≠ .flatMatchQuery schema) :
    topmostFlats (.node op children) = (children.map topmostFlats).sum := by
  cases op with
  | flatMatchQuery schema => exact absurd rfl (notFlat schema)
  | _ => rw [topmostFlats, RoseTree.fold_node]; rfl

theorem containsFlat_node {op : PlanOp Query Mask} (notFlat : ∀ schema, op ≠ .flatMatchQuery schema) :
    containsFlat (.node op children) = children.any containsFlat := by
  cases op with
  | flatMatchQuery schema => exact absurd rfl (notFlat schema)
  | _ => rw [containsFlat, RoseTree.fold_node, List.any_map]; rfl

theorem PlanOp.IsPlain.notFlat {op : PlanOp Query Mask} (plain : op.IsPlain) (schema : Schema) :
    op ≠ .flatMatchQuery schema := by
  rcases plain with ⟨_, rfl⟩ | ⟨_, _, rfl⟩ <;> simp

/-- The three ways the rewrite treats a node. -/
theorem PlanOp.cases (op : PlanOp Query Mask) :
    (∃ schema, op = .flatMatchQuery schema) ∨ (∃ kind exec, op = .indexedQuery kind exec) ∨ op.IsPlain := by
  cases op with
  | flatMatchQuery schema => exact .inl ⟨schema, rfl⟩
  | indexedQuery kind exec => exact .inr (.inl ⟨kind, exec, rfl⟩)
  | empty schema => exact .inr (.inr (.inl ⟨schema, rfl⟩))
  | other name schema => exact .inr (.inr (.inr ⟨name, schema, rfl⟩))

end Nodes

section Exactness

/-- What the rewrite counts, and what it returns or fails with. -/
def planCounts (plan : Plan Query Mask) : PreparedFtsPlanRewriteCounts :=
  ⟨(indexedNodes plan).length, topmostFlats plan⟩

def listCounts (plans : List (Plan Query Mask)) : PreparedFtsPlanRewriteCounts :=
  ⟨(plans.flatMap indexedNodes).length, (plans.map topmostFlats).sum⟩

theorem listCounts_cons (plan : Plan Query Mask) (rest : List (Plan Query Mask)) :
    listCounts (plan :: rest) = (planCounts plan).add (listCounts rest) := by
  simp [listCounts, planCounts, PreparedFtsPlanRewriteCounts.add]

theorem rewriteChildren_length {children : List (Plan Query Mask)}
    {out : List (Plan Query Mask) × PreparedFtsPlanRewriteCounts}
    (success : rewriteChildren upstream request children = .ok out) : out.1.length = children.length := by
  induction children generalizing out with
  | nil =>
    cases success
    rfl
  | cons child rest ih =>
    obtain ⟨_, _, success⟩ := bind_eq_ok.mp success
    obtain ⟨_, others, success⟩ := bind_eq_ok.mp success
    cases success
    rw [List.length_cons, List.length_cons, ih others]

/-- With rebuilding that keeps the node, a leaf is no special case. -/
theorem rewrite_node (faithful : upstream.Faithful) {op : PlanOp Query Mask}
    (notFlat : ∀ schema, op ≠ .flatMatchQuery schema) (children : List (Plan Query Mask)) :
    rewritePreparedFtsPlan upstream request (.node op children) =
      (rewriteChildren upstream request children >>= fun out =>
        attachPrepared upstream request (.node op out.1) out.2) := by
  rw [rewritePreparedFtsPlan]
  · cases children with
    | nil => rfl
    | cons child rest =>
      rw [if_neg (by simp)]
      cases below : rewriteChildren upstream request (child :: rest) with
      | error => rfl
      | ok out =>
        have rebuilt := faithful.rebuilds op (child :: rest) out.1 (rewriteChildren_length below)
        simp only [bind, Except.bind, rebuilt]
  · exact fun schema same => notFlat schema same

theorem attach_plain {op : PlanOp Query Mask} (plain : op.IsPlain) (children : List (Plan Query Mask))
    (rewritten : PreparedFtsPlanRewriteCounts) :
    attachPrepared upstream request (.node op children) rewritten = .ok (.node op children, rewritten) := by
  rcases plain with ⟨_, rfl⟩ | ⟨_, _, rfl⟩ <;> rfl

theorem attach_indexed (faithful : upstream.Faithful) (kind : FtsKind) (exec : FtsExec Query Mask)
    (children : List (Plan Query Mask)) (rewritten : PreparedFtsPlanRewriteCounts)
    (same : request.selectedSegmentsHaveCurrentFragments = true → kind = request.prepared.kind) :
    attachPrepared upstream request (.node (.indexedQuery kind exec) children) rewritten =
      .ok (if request.selectedSegmentsHaveCurrentFragments then
          .node (.indexedQuery kind (request.restrict exec)) children
        else .node (.empty upstream.ftsSchema) [], rewritten.add ⟨1, 0⟩) := by
  unfold attachPrepared
  cases current : request.selectedSegmentsHaveCurrentFragments with
  | false => rfl
  | true =>
    obtain ⟨built, constructed, dataset, query, prefilter, segments⟩ :=
      faithful.constructs kind exec.dataset exec.query exec.prefilterSource request.segments
    have kinds : request.prepared.kind = kind := (same current).symm
    simp only [Bool.not_true, Bool.false_eq_true, ↓reduceIte, kinds, ne_eq, not_true_eq_false, constructed]
    have restricted : { built with
        baseScorer := some request.prepared.scorer, externalMask := request.rowAddrMask } =
          request.restrict exec := by
      simp [PlanRewrite.restrict, dataset, query, prefilter, segments]
    simp only [bind, Except.bind, pure, Except.pure, restricted]

theorem attach_mismatched {kind : FtsKind} (exec : FtsExec Query Mask) (children : List (Plan Query Mask))
    (rewritten : PreparedFtsPlanRewriteCounts) (current : request.selectedSegmentsHaveCurrentFragments = true)
    (different : kind ≠ request.prepared.kind) :
    ∃ error, attachPrepared upstream request (.node (.indexedQuery kind exec) children) rewritten =
      .error error := by
  simp [attachPrepared, current, different.symm]

theorem mismatched_eq_false {plan : Plan Query Mask} : request.mismatched plan = false ↔
    (request.selectedSegmentsHaveCurrentFragments = true →
      ∀ node ∈ indexedNodes plan, node.1 = request.prepared.kind) := by
  simp [PlanRewrite.mismatched]

/-- The outcome of the rewrite of one plan. -/
def Exact (upstream : PlanUpstream Query Mask) (request : PlanRewrite Mask) (plan : Plan Query Mask) : Prop :=
  (request.mismatched plan = false →
    rewritePreparedFtsPlan upstream request plan =
      .ok (request.restricted upstream.ftsSchema plan, planCounts plan)) ∧
  (request.mismatched plan = true → ∃ error, rewritePreparedFtsPlan upstream request plan = .error error)

theorem rewriteChildren_ok {children : List (Plan Query Mask)}
    (each : ∀ child ∈ children, Exact upstream request child)
    (matching : ∀ child ∈ children, request.mismatched child = false) :
    rewriteChildren upstream request children =
      .ok (children.map (request.restricted upstream.ftsSchema), listCounts children) := by
  induction children with
  | nil => rfl
  | cons child rest ih =>
    have first := (each child List.mem_cons_self).1 (matching child List.mem_cons_self)
    have others := ih (fun other member => each other (List.mem_cons_of_mem _ member))
      (fun other member => matching other (List.mem_cons_of_mem _ member))
    rw [rewriteChildren, first, others, listCounts_cons]
    rfl

theorem rewriteChildren_error {children : List (Plan Query Mask)}
    (each : ∀ child ∈ children, Exact upstream request child)
    (wrong : ∃ child ∈ children, request.mismatched child = true) :
    ∃ error, rewriteChildren upstream request children = .error error := by
  induction children with
  | nil => simp at wrong
  | cons child rest ih =>
    cases here : request.mismatched child with
    | true =>
      obtain ⟨error, failed⟩ := (each child List.mem_cons_self).2 here
      exact ⟨error, by rw [rewriteChildren, failed]; rfl⟩
    | false =>
      have first := (each child List.mem_cons_self).1 here
      have later : ∃ child ∈ rest, request.mismatched child = true := by
        obtain ⟨other, member, bad⟩ := wrong
        rcases List.mem_cons.mp member with same | member
        · rw [same, here] at bad
          cases bad
        · exact ⟨other, member, bad⟩
      obtain ⟨error, failed⟩ := ih (fun other member => each other (List.mem_cons_of_mem _ member)) later
      exact ⟨error, by rw [rewriteChildren, first, failed]; rfl⟩

theorem rewrite_exact (faithful : upstream.Faithful) (request : PlanRewrite Mask) (plan : Plan Query Mask) :
    Exact upstream request plan := by
  induction plan using RoseTree.induction with
  | node op children each =>
    rcases op.cases with ⟨schema, flat⟩ | ⟨kind, exec, indexed⟩ | plain
    · subst flat
      have matching : request.mismatched (.node (.flatMatchQuery schema) children) = false := by
        simp [PlanRewrite.mismatched, indexedNodes, RoseTree.fold_node]
      refine ⟨fun _ => ?_, fun wrong => absurd (matching.symm.trans wrong) (by simp)⟩
      rw [rewritePreparedFtsPlan]
      simp [PlanRewrite.restricted, planCounts, indexedNodes, topmostFlats, RoseTree.fold_node]
    · subst indexed
      have notFlat : ∀ schema, PlanOp.indexedQuery kind exec ≠ .flatMatchQuery schema := by simp
      have nodes := indexedNodes_indexed children kind exec
      rw [Exact, rewrite_node faithful notFlat]
      constructor
      · intro matching
        rw [mismatched_eq_false, nodes] at matching
        have below : ∀ child ∈ children, request.mismatched child = false := fun child member =>
          mismatched_eq_false.mpr fun current node inside => matching current node
            (List.mem_append_left _ (List.mem_flatMap.mpr ⟨child, member, inside⟩))
        rw [rewriteChildren_ok each below]
        simp only [bind, Except.bind]
        rw [attach_indexed faithful kind exec _ _ fun current => matching current (kind, exec) (by simp),
          restricted_indexed, planCounts, nodes, topmostFlats_node children notFlat]
        simp [PreparedFtsPlanRewriteCounts.add, listCounts]
      · intro wrong
        by_cases below : ∃ child ∈ children, request.mismatched child = true
        · obtain ⟨error, failed⟩ := rewriteChildren_error each below
          exact ⟨error, by rw [failed]; rfl⟩
        · have clean : ∀ child ∈ children, request.mismatched child = false := fun child member => by
            simpa using fun bad => below ⟨child, member, bad⟩
          rw [rewriteChildren_ok each clean]
          simp only [PlanRewrite.mismatched, nodes, List.any_append, List.any_flatMap, Bool.and_eq_true,
            Bool.or_eq_true] at wrong
          obtain ⟨current, inside | own⟩ := wrong
          · obtain ⟨child, member, bad⟩ := List.any_eq_true.mp inside
            have := clean child member
            simp [PlanRewrite.mismatched, current, bad] at this
          · exact attach_mismatched exec _ _ current (by simpa using own)
    · have notFlat := plain.notFlat
      have nodes := indexedNodes_plain children plain
      rw [Exact, rewrite_node faithful notFlat]
      constructor
      · intro matching
        rw [mismatched_eq_false, nodes] at matching
        have below : ∀ child ∈ children, request.mismatched child = false := fun child member =>
          mismatched_eq_false.mpr fun current node inside => matching current node
            (List.mem_flatMap.mpr ⟨child, member, inside⟩)
        rw [rewriteChildren_ok each below]
        simp only [bind, Except.bind]
        rw [attach_plain plain, restricted_plain _ _ plain, planCounts, nodes, topmostFlats_node children notFlat]
        rfl
      · intro wrong
        simp only [PlanRewrite.mismatched, nodes, List.any_flatMap, Bool.and_eq_true] at wrong
        obtain ⟨current, inside⟩ := wrong
        obtain ⟨child, member, bad⟩ := List.any_eq_true.mp inside
        obtain ⟨error, failed⟩ := rewriteChildren_error each
          ⟨child, member, by simp [PlanRewrite.mismatched, current, bad]⟩
        exact ⟨error, by rw [failed]; rfl⟩

end Exactness

section Result

theorem restrict_restrict (exec : FtsExec Query Mask) :
    request.restrict (request.restrict exec) = request.restrict exec := rfl

theorem indexedNodes_restricted (request : PlanRewrite Mask) (ftsSchema : Schema) (plan : Plan Query Mask) :
    indexedNodes (request.restricted ftsSchema plan) =
      if request.selectedSegmentsHaveCurrentFragments then
        (indexedNodes plan).map fun node => (node.1, request.restrict node.2)
      else [] := by
  induction plan using RoseTree.induction with
  | node op children ih =>
    have below : (children.map (request.restricted ftsSchema)).flatMap indexedNodes =
        if request.selectedSegmentsHaveCurrentFragments then
          (children.flatMap indexedNodes).map fun node => (node.1, request.restrict node.2)
        else [] := by
      rw [List.flatMap_map, List.flatMap_congr ih]
      split <;> simp [List.map_flatMap]
    rcases op.cases with ⟨schema, rfl⟩ | ⟨kind, exec, rfl⟩ | plain
    · simp [PlanRewrite.restricted, indexedNodes, RoseTree.fold_node]
    · rw [restricted_indexed, indexedNodes_indexed]
      cases current : request.selectedSegmentsHaveCurrentFragments with
      | false => simp [indexedNodes, RoseTree.fold_node]
      | true =>
        simp only [↓reduceIte, indexedNodes_indexed, below, current]
        simp
    · rw [restricted_plain _ _ plain, indexedNodes_plain _ plain, indexedNodes_plain _ plain, below]

theorem containsFlat_restricted (request : PlanRewrite Mask) (ftsSchema : Schema) (plan : Plan Query Mask) :
    containsFlat (request.restricted ftsSchema plan) = false := by
  induction plan using RoseTree.induction with
  | node op children ih =>
    have below : (children.map (request.restricted ftsSchema)).any containsFlat = false := by
      simpa using ih
    rcases op.cases with ⟨schema, rfl⟩ | ⟨kind, exec, rfl⟩ | plain
    · simp [PlanRewrite.restricted, containsFlat, RoseTree.fold_node]
    · rw [restricted_indexed]
      split
      · rw [containsFlat_node _ (by simp), below]
      · simp [containsFlat, RoseTree.fold_node]
    · rw [restricted_plain _ _ plain, containsFlat_node _ plain.notFlat, below]

theorem restricted_restricted (request : PlanRewrite Mask) (ftsSchema : Schema) (plan : Plan Query Mask) :
    request.restricted ftsSchema (request.restricted ftsSchema plan) = request.restricted ftsSchema plan := by
  induction plan using RoseTree.induction with
  | node op children ih =>
    have below : (children.map (request.restricted ftsSchema)).map (request.restricted ftsSchema) =
        children.map (request.restricted ftsSchema) := by
      simpa using ih
    rcases op.cases with ⟨schema, rfl⟩ | ⟨kind, exec, rfl⟩ | plain
    · simp [PlanRewrite.restricted, RoseTree.fold_node]
    · rw [restricted_indexed]
      cases current : request.selectedSegmentsHaveCurrentFragments with
      | false => simp [PlanRewrite.restricted, RoseTree.fold_node]
      | true => simp only [↓reduceIte, restricted_indexed, current, below, restrict_restrict]
    · rw [restricted_plain _ _ plain, restricted_plain _ _ plain, below]

/-- Without a flat search there is none topmost either. -/
theorem topmostFlats_of_no_flat {plan : Plan Query Mask} (clean : containsFlat plan = false) :
    topmostFlats plan = 0 := by
  induction plan using RoseTree.induction with
  | node op children ih =>
    by_cases flat : ∃ schema, op = .flatMatchQuery schema
    · obtain ⟨schema, rfl⟩ := flat
      simp [containsFlat, RoseTree.fold_node] at clean
    · have notFlat : ∀ schema, op ≠ .flatMatchQuery schema := fun schema same => flat ⟨schema, same⟩
      rw [containsFlat_node _ notFlat, List.any_eq_false] at clean
      rw [topmostFlats_node _ notFlat]
      refine List.sum_eq_zero_iff_forall_eq_nat.mpr fun count member => ?_
      obtain ⟨child, inside, same⟩ := List.mem_map.mp member
      rw [← same]
      exact ih child inside (by simpa using clean child inside)

/-- The rewrite fails exactly where a query to restrict is of the other kind
than the prepared one. Otherwise its plan has no flat search left and the
indexed queries of the original, restricted, and is rewritten to itself. -/
theorem rewritePreparedFtsPlan_exact (faithful : upstream.Faithful) (request : PlanRewrite Mask)
    (plan : Plan Query Mask) :
    ((∃ error, rewritePreparedFtsPlan upstream request plan = .error error) ↔
      request.selectedSegmentsHaveCurrentFragments = true ∧
        ∃ node ∈ indexedNodes plan, node.1 ≠ request.prepared.kind) ∧
    ∀ tree counts, rewritePreparedFtsPlan upstream request plan = .ok (tree, counts) →
      tree = request.restricted upstream.ftsSchema plan ∧
      counts = ⟨(indexedNodes plan).length, topmostFlats plan⟩ ∧
      containsFlat tree = false ∧
      indexedNodes tree = (if request.selectedSegmentsHaveCurrentFragments then
        (indexedNodes plan).map fun node => (node.1, request.restrict node.2) else []) ∧
      rewritePreparedFtsPlan upstream request tree = .ok (tree, ⟨(indexedNodes tree).length, 0⟩) := by
  obtain ⟨succeeds, fails⟩ := rewrite_exact faithful request plan
  have wrong : request.mismatched plan = true ↔ request.selectedSegmentsHaveCurrentFragments = true ∧
      ∃ node ∈ indexedNodes plan, node.1 ≠ request.prepared.kind := by
    simp [PlanRewrite.mismatched]
  rw [← wrong]
  cases matching : request.mismatched plan with
  | true =>
    obtain ⟨error, failed⟩ := fails matching
    rw [failed]
    simp
  | false =>
    rw [succeeds matching]
    refine ⟨by simp, fun tree counts same => ?_⟩
    cases same
    have nodes := indexedNodes_restricted request upstream.ftsSchema plan
    have noFlat := containsFlat_restricted request upstream.ftsSchema plan
    refine ⟨rfl, rfl, noFlat, nodes, ?_⟩
    have still : request.mismatched (request.restricted upstream.ftsSchema plan) = false := by
      rw [mismatched_eq_false] at matching ⊢
      intro current node member
      rw [nodes, if_pos current] at member
      obtain ⟨old, inside, same⟩ := List.mem_map.mp member
      rw [← same]
      exact matching current old inside
    rw [(rewrite_exact faithful request _).1 still, restricted_restricted, planCounts,
      topmostFlats_of_no_flat noFlat]

end Result

section Sample

def samplePlanUpstream : PlanUpstream String Nat where
  ftsSchema := ⟨[⟨⟨0, "_rowid", .uint64⟩, []⟩]⟩
  withNewChildren
    | .node op children, newChildren =>
      if newChildren.length = children.length then .ok (.node op newChildren)
      else .error "Wrong number of children"
  newWithSegments _ dataset query prefilterSource segments :=
    .ok ⟨dataset, query, prefilterSource, some segments, none, none⟩

theorem samplePlanUpstream_faithful : samplePlanUpstream.Faithful :=
  ⟨fun _ _ _ same => if_pos same, fun _ _ _ _ _ => ⟨_, rfl, rfl, rfl, rfl, rfl⟩⟩

def samplePlanDataset : Arc Dataset :=
  { address := 1
    value :=
      { uri := "memory://sample", version := 1, fragments := [], schema := ⟨[]⟩, storageFormat := .v2
        usesStableRowIds := false, fragReuseIndex := none } }

/-- A filtered match query beside a flat search over the uncovered fragments. -/
def samplePlan : Plan String Nat :=
  .node (.other "SortExec" ⟨[]⟩)
    [.node (.indexedQuery .matchQuery ⟨samplePlanDataset, "needle", .filteredRowIds, none, none, none⟩)
        [.node (.other "LanceScan" ⟨[]⟩) []],
      .node (.flatMatchQuery ⟨[]⟩) [.node (.other "LanceScan" ⟨[]⟩) []]]

theorem rewritePreparedFtsPlan_exact_sample :
    let request : PlanRewrite Nat := ⟨[], .matchQuery ⟨7⟩, true, some 0⟩
    ∃ tree counts, rewritePreparedFtsPlan samplePlanUpstream request samplePlan = .ok (tree, counts) ∧
      counts = ⟨1, 1⟩ ∧ containsFlat tree = false ∧
      rewritePreparedFtsPlan samplePlanUpstream request tree = .ok (tree, ⟨1, 0⟩) := by
  intro request
  obtain ⟨_, counted, clean, _, again⟩ :=
    (rewritePreparedFtsPlan_exact samplePlanUpstream_faithful request samplePlan).2 _ _ rfl
  exact ⟨_, _, rfl, counted, clean, again⟩

end Sample

end LanceC.Fts
