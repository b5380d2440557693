import LanceC.Scanner.Execution

/-! A prepared scan runs in the one mode its calls have asked for: no order of calls
configures two of them, and none loses the row mask, the batch size or the callback. -/

namespace LanceC.Scanner

open Fts Logic Machine Multivector Scalar

variable {Scan Query Vector Batch Cell Key : Type}

namespace ScannerHandle

section Runs

variable [Target] {fields : Upstream} {self next : ScannerHandle} {setter : OptionSetter}

omit [Target] in
theorem setBeforeScan_ensures {settingName : String} {stored : ScannerHandle} {post : ScannerHandle → Prop}
    (holds : post stored) : Ensures (self.setBeforeScan settingName stored) post :=
  .bind fun _ => .ok holds

/-- What a call may do to the options that depend on each other: nothing, or what one of
their own setters does. -/
def CoreStep (fields : Upstream) (self next : ScannerHandle) : Prop :=
  next.toLanceScanner = self.toLanceScanner ∨
    ∃ setter, self.toLanceScanner.set fields setter = .ok next.toLanceScanner

theorem set_core (setter : OptionSetter) : Ensures (self.set fields setter) (CoreStep fields self) := by
  have kept {next : ScannerHandle} (same : next.toLanceScanner = self.toLanceScanner) : CoreStep fields self next :=
    .inl same
  cases setter with
  | core setter =>
    intro next success
    obtain ⟨core, accepted, success⟩ := bind_eq_ok.mp success
    cases success
    exact .inr ⟨setter, accepted⟩
  | batchSize => exact .ok (kept rfl)
  | blobHandling =>
    refine .bind fun _ => ?_
    split
    iterate 3 exact .ok (kept rfl)
    exact .error _
  | ioBufferSize => exact .bind fun _ => .bind fun _ => setBeforeScan_ensures (kept rfl)
  | batchReadahead | fragmentReadahead | targetParallelism | queryParallelism =>
    exact .bind fun _ => setBeforeScan_ensures (kept rfl)
  | scanInOrder | useScalarIndex | useStats | withRowAddress | includeDeletedRows | scalarIndexSegment
  | scalarIndexAutoSelection => exact setBeforeScan_ensures (kept rfl)
  | withRowId | ef | useIndex | prefilter => exact .ok (kept rfl)
  | fragmentIds => exact .bind fun _ => .ok (kept rfl)
  | rowAddrList _ _ list =>
    refine .bind fun _ => .bind fun _ => ?_
    cases list with
    | allow | block => exact .ok (kept rfl)
  | substraitFilter bytes =>
    cases bytes with
    | none => exact .error _
    | some => exact .bind fun _ => .ok (kept rfl)
  | additionalSqlFilter =>
    refine .bind fun text => ?_
    cases text with
    | none => exact .error _
    | some => exact .bind fun _ => .bind fun _ => .ok (kept rfl)
  | statisticsCallback callback =>
    cases callback with
    | none => exact .error _
    | some => exact .bind fun _ => .ok (kept rfl)
  | approxMode => exact .bind fun _ => setBeforeScan_ensures (kept rfl)
  | metric =>
    simp only [set, setMetric]
    split
    iterate 4 exact .ok (kept rfl)
    exact .error _
  | indexSegments => exact .bind fun _ => .ite (.ok (kept rfl)) (.ok (kept rfl))
  | ftsIndexSegments => exact .bind fun _ => .ok (kept rfl)

theorem call_valid (valid : self.Valid) (setter : OptionSetter) : (self.call fields setter).Valid := by
  unfold call
  split
  · rename_i next success
    rcases set_core setter next success with same | ⟨core, accepted⟩
    · rw [same]
      exact valid
    · exact LanceScanner.set_valid valid accepted
  · exact valid

/-- The options that depend on each other agree after any calls on the whole handle. -/
theorem run_consistent (dataset : Arc Dataset) (columns : Option (List String)) (filter : Option String)
    (calls : List OptionSetter) : ((new dataset columns filter).run fields calls).Valid :=
  List.foldlRecOn (motive := fun (self : ScannerHandle) => self.Valid) calls _ (LanceScanner.new_valid dataset)
    fun _ valid setter _ => call_valid valid setter

end Runs

section Parts

variable [Target] {lance : ScannerUpstream Scan} {self : ScannerHandle} {prepared : PreparedScanner Scan} {scanner next : Scan}

theorem buildWindow_window {scans : ScanUpstream Scan} {window : Option (Nat × Option Nat)}
    (success : self.buildWindow scans scanner = .ok (next, window)) : window = self.multiVectorWindow := by
  unfold LanceScanner.buildWindow at success
  split at success
  · obtain ⟨checked, _, success⟩ := bind_eq_ok.mp success
    split at success
    · obtain ⟨cleared, _, success⟩ := bind_eq_ok.mp success
      cases success
      rfl
    · cases success
      rfl
  · cases success
    rfl

/-- What an accepted build has checked, and what each mode of the prepared scan is made of. -/
structure Prepared (lance : ScannerUpstream Scan) (handle : ScannerHandle) (prepared : PreparedScanner Scan) :
    Prop where
  restrictions : handle.checkRestrictions = .ok ()
  window : prepared.multiVectorWindow = handle.multiVectorWindow
  context : ∃ before after, handle.applyFtsContext lance before = .ok (after, prepared.distributedFts)
  segment : handle.prepareScalarSegment = .ok prepared.scalarSegment
  batchSize : prepared.batchSize = handle.batchSize
  callback : prepared.scanStatisticsCallback = handle.scanStatisticsCallback

theorem buildScanner_prepared (success : self.buildScanner lance = .ok prepared) : Prepared lance self prepared := by
  unfold buildScanner at success
  obtain ⟨columns, _, success⟩ := bind_eq_ok.mp success
  obtain ⟨_, _, success⟩ := bind_eq_ok.mp success
  obtain ⟨⟨windowed, window⟩, limited, success⟩ := bind_eq_ok.mp success
  obtain ⟨searched, nearest, success⟩ := bind_eq_ok.mp success
  obtain ⟨⟨asked, distributed⟩, context, success⟩ := bind_eq_ok.mp success
  obtain ⟨filtered, _, success⟩ := bind_eq_ok.mp success
  obtain ⟨segment, scoped', success⟩ := bind_eq_ok.mp success
  rw [settled_eq_ok] at limited nearest context scoped'
  cases success
  unfold applySearch at nearest
  obtain ⟨⟨⟩, checked, _⟩ := bind_eq_ok.mp nearest
  exact ⟨checked, buildWindow_window limited, ⟨_, _, context⟩, scoped', rfl, rfl⟩

omit [Target] in
theorem checkRestrictions_ok (success : self.checkRestrictions = .ok ()) :
    ¬(self.ftsContext.isSome ∧ self.fragmentIds.isSome) ∧
      ¬((self.rowAddrAllowlist.isSome ∨ self.rowAddrBlocklist.isSome) ∧ self.scalarIndexSegment.isSome) := by
  simp only [checkRestrictions, bind_eq_ok, refuseIf_ok] at success
  obtain ⟨_, _, _, _, _, scope, mask⟩ := success
  exact ⟨scope, mask⟩

omit [Target] in
theorem applyFtsContext_ok {distributed : Option PreparedFtsExecution}
    (success : self.applyFtsContext lance scanner = .ok (next, distributed)) :
    (self.ftsContext = none ∧ distributed = none) ∨
      ∃ context segments, self.ftsContext = some context ∧
        selectFtsSegments context self.ftsIndexSegments = .ok segments ∧
        distributed = some ⟨context, segments, self.prefilter && self.hasFilter, self.rowAddrMask lance, self.batchSize,
          self.scanStatisticsCallback⟩ := by
  unfold applyFtsContext at success
  split at success
  · rename_i absent
    cases success
    exact .inl ⟨absent, rfl⟩
  · rename_i context attached
    simp only [bind_eq_ok] at success
    obtain ⟨_, _, segments, selected, asked, _, success⟩ := success
    cases success
    exact .inr ⟨context, segments, attached, selected, rfl⟩

omit [Target] in
theorem prepareScalarSegment_ok {segment : Option PreparedSegmentScan}
    (success : self.prepareScalarSegment = .ok segment) :
    (self.scalarIndexSegment = none ∧ segment = none) ∨
      ∃ uuid ids, self.scalarIndexSegment = some uuid ∧ self.fragmentIds = some ids ∧
        (self.nearest = none ∧ self.ftsQuery = none ∧ self.ftsContext = none ∧ self.includeDeletedRows = false) ∧
        segment = some ⟨⟨uuid, self.scalarIndexAutoSelection, ids, self.useScalarIndex.getD true⟩, self.dataset,
          self.scanStatisticsCallback⟩ := by
  unfold prepareScalarSegment at success
  split at success
  · rename_i absent
    cases success
    exact .inl ⟨absent, rfl⟩
  · rename_i uuid chosen
    obtain ⟨_, ordinary, success⟩ := bind_eq_ok.mp success
    have ordinary : self.nearest = none ∧ self.ftsQuery = none ∧ self.ftsContext = none ∧
        self.indexSegments = none ∧ self.ftsIndexSegments = none ∧ self.includeDeletedRows = false := by
      simpa [not_or] using refuseIf_ok.mp ordinary
    split at success
    · rename_i ids listed
      cases success
      obtain ⟨given, _⟩ := Option.filter_eq_some_iff.mp listed
      exact .inr ⟨uuid, ids, chosen, given, ⟨ordinary.1, ordinary.2.1, ordinary.2.2.1, ordinary.2.2.2.2.2⟩, rfl⟩
    · cases success

end Parts

section Modes

variable [Target] [ScalarOrder Key] {upstream : EngineUpstream Scan Query Vector Batch Cell Key} {self : ScannerHandle}
  {prepared : PreparedScanner Scan} {work : CandidateWork Key} {execution : Execution Scan Query Vector}

/-- The execution is the one for the searches of the handle: a scalar segment has configured
Lance's scanner, and a plan of our own runs with the handle's batch size and callback. -/
def Runs (upstream : EngineUpstream Scan Query Vector Batch Cell Key) (self : ScannerHandle)
    (prepared : PreparedScanner Scan) (work : CandidateWork Key) : Execution Scan Query Vector → Prop
  | .reader scanner =>
    (self.isMultiVector = false ∧ self.ftsContext = none) ∧
      match self.scalarIndexSegment with
      | none => scanner = prepared.scanner
      | some uuid => ∃ ids, self.fragmentIds = some ids ∧
        PreparedSegmentScan.configure upstream work
          ⟨⟨uuid, self.scalarIndexAutoSelection, ids, self.useScalarIndex.getD true⟩, self.dataset,
            self.scanStatisticsCallback⟩ prepared.scanner = .ok scanner
  | .vector _ options =>
    (self.isMultiVector = true ∧ self.ftsQuery = none ∧ self.ftsContext = none ∧ self.scalarIndexSegment = none) ∧
      options = ⟨self.batchSize, self.scanStatisticsCallback⟩
  | .fts _ options =>
    (self.ftsContext.isSome ∧ self.nearest = none ∧ self.ftsQuery = none ∧ self.scalarIndexSegment = none) ∧
      options = ⟨self.batchSize, self.scanStatisticsCallback⟩

omit [Target] in
theorem nearest_of_multiVector (multi : self.isMultiVector = true) : self.nearest.isSome := by
  unfold LanceScanner.isMultiVector at multi
  cases nearest : self.nearest with
  | none => simp [nearest] at multi
  | some => rfl

theorem multiVectorWindow_none : self.multiVectorWindow = none ↔ self.isMultiVector = false := by
  unfold LanceScanner.multiVectorWindow
  cases self.isMultiVector <;> simp

omit [Target] [ScalarOrder Key] in
theorem executeVector_plan {offset : Nat} {limit : Option Nat}
    (success : executeVector upstream prepared offset limit = .ok execution) :
    ∃ plan, execution = .vector plan ⟨prepared.batchSize, prepared.scanStatisticsCallback⟩ := by
  unfold executeVector at success
  simp only [bind_eq_ok] at success
  obtain ⟨_, _, _, _, plan, _, success⟩ := success
  cases success
  exact ⟨plan, rfl⟩

omit [Target] [ScalarOrder Key] in
theorem executeFts_plan {fts : PreparedFtsExecution} (success : executeFts upstream prepared fts = .ok execution) :
    ∃ plan, execution = .fts plan ⟨fts.batchSize, fts.scanStatisticsCallback⟩ := by
  unfold executeFts at success
  simp only [bind_eq_ok] at success
  obtain ⟨_, _, _, _, ⟨plan, _⟩, _, _, _, success⟩ := success
  cases success
  exact ⟨plan, rfl⟩

/-- The four ways to start: a segment comes before the window of a multivector search, and
that before a context of full text search. -/
theorem tryIntoStream_cases (started : prepared.tryIntoStream upstream work = .ok execution) :
    (∃ segment scanner, prepared.scalarSegment = some segment ∧
      segment.configure upstream work prepared.scanner = .ok scanner ∧ execution = .reader scanner) ∨
    prepared.scalarSegment = none ∧
      ((∃ bounds plan, prepared.multiVectorWindow = some bounds ∧
        execution = .vector plan ⟨prepared.batchSize, prepared.scanStatisticsCallback⟩) ∨
      prepared.multiVectorWindow = none ∧
        ((∃ fts plan, prepared.distributedFts = some fts ∧
          execution = .fts plan ⟨fts.batchSize, fts.scanStatisticsCallback⟩) ∨
        prepared.distributedFts = none ∧ execution = .reader prepared.scanner)) := by
  unfold PreparedScanner.tryIntoStream at started
  split at started
  · next segment present =>
    obtain ⟨scanner, configures, started⟩ := bind_eq_ok.mp started
    cases started
    exact .inl ⟨segment, scanner, present, configures, rfl⟩
  · next absent =>
    refine .inr ⟨absent, ?_⟩
    split at started
    · next offset limit window =>
      obtain ⟨plan, same⟩ := executeVector_plan (settled_eq_ok.mp started)
      exact .inl ⟨_, plan, window, same⟩
    · next single =>
      refine .inr ⟨single, ?_⟩
      split at started
      · next fts distributed =>
        obtain ⟨plan, same⟩ := executeFts_plan (settled_eq_ok.mp started)
        exact .inl ⟨fts, plan, distributed, same⟩
      · next none =>
        cases started
        exact .inr ⟨none, rfl⟩

theorem tryIntoStream_runs (valid : self.Valid) (built : Prepared upstream.scans self prepared)
    (started : prepared.tryIntoStream upstream work = .ok execution) : self.Runs upstream prepared work execution := by
  obtain ⟨before, after, context⟩ := built.context
  have attached := applyFtsContext_ok context
  have segment := prepareScalarSegment_ok built.segment
  rcases tryIntoStream_cases started with ⟨_, scanner, present, configures, rfl⟩ | ⟨absent, modes⟩
  · rcases segment with ⟨-, absent⟩ | ⟨uuid, ids, chosen, listed, exclusive, segments⟩
    · rw [present] at absent
      cases absent
    · obtain rfl := Option.some.inj (present.symm.trans segments)
      have single : self.isMultiVector = false := by
        by_contra multi
        have searching := nearest_of_multiVector (Bool.not_eq_false _ ▸ multi)
        rw [exclusive.1] at searching
        cases searching
      refine ⟨⟨single, exclusive.2.2.1⟩, ?_⟩
      rw [chosen]
      exact ⟨ids, listed, configures⟩
  · have ordinary : self.scalarIndexSegment = none := by
      rcases segment with ⟨ordinary, -⟩ | ⟨_, _, _, _, _, present⟩
      · exact ordinary
      · rw [absent] at present
        cases present
    rcases modes with ⟨bounds, plan, window, rfl⟩ | ⟨window, modes⟩
    · have multi : self.isMultiVector = true := by
        by_contra single
        have none := multiVectorWindow_none.mpr (Bool.not_eq_true _ ▸ single)
        rw [← built.window, window] at none
        cases none
      obtain ⟨noQuery, noContext⟩ := valid.exclusive (nearest_of_multiVector multi)
      exact ⟨⟨multi, noQuery, noContext, ordinary⟩, by rw [built.batchSize, built.callback]⟩
    · have single : self.isMultiVector = false := multiVectorWindow_none.mp (built.window ▸ window)
      rcases attached with ⟨noContext, noFts⟩ | ⟨query, segments, given, _, asked⟩
      · rcases modes with ⟨_, _, distributed, -⟩ | ⟨-, rfl⟩
        · rw [noFts] at distributed
          cases distributed
        · refine ⟨⟨single, noContext⟩, ?_⟩
          rw [ordinary]
      · rcases modes with ⟨fts, plan, distributed, rfl⟩ | ⟨noFts, -⟩
        · obtain rfl := Option.some.inj (asked.symm.trans distributed)
          have noNearest : self.nearest = none := by
            by_contra some
            have excluded := (valid.exclusive (Option.ne_none_iff_isSome.mp some)).2
            rw [given] at excluded
            cases excluded
          have noQuery : self.ftsQuery = none := by
            by_contra some
            have excluded := valid.oneQuery (Option.ne_none_iff_isSome.mp some)
            rw [given] at excluded
            cases excluded
          exact ⟨⟨by rw [given]; rfl, noNearest, noQuery, ordinary⟩, rfl⟩
        · rw [noFts] at asked
          cases asked

/-- Whatever calls were made, in whatever order, and whichever of them were refused: a scan
that starts runs in the mode of the one search that was configured. -/
theorem run_modes (fields : Upstream) (upstream : EngineUpstream Scan Query Vector Batch Cell Key)
    (dataset : Arc Dataset) (columns : Option (List String)) (filter : Option String) (calls : List OptionSetter)
    (prepared : PreparedScanner Scan) (work : CandidateWork Key) (execution : Execution Scan Query Vector)
    (built : ((new dataset columns filter).run fields calls).buildScanner upstream.scans = .ok prepared)
    (started : prepared.tryIntoStream upstream work = .ok execution) :
    ((new dataset columns filter).run fields calls).Runs upstream prepared work execution :=
  tryIntoStream_runs (run_consistent dataset columns filter calls) (buildScanner_prepared built) started

/-- A plan that searches the given segments only, with their shared scorer and under the
mask: by one query where they cover a current fragment, by none where they do not. -/
structure SearchesSegments (fts : PreparedFtsExecution) (fragments : List Fragment) (plan : Fts.Plan Query RowMask) :
    Prop where
  noFlat : containsFlat plan = false
  covered : fragments ≠ [] → ∃ exec, indexedNodes plan = [(fts.context.prepared.kind, exec)] ∧
    exec.segments = some fts.segments ∧ exec.baseScorer = some fts.context.prepared.scorer ∧
    exec.externalMask = fts.rowAddrMask
  uncovered : fragments = [] → indexedNodes plan = []

omit [Target] [ScalarOrder Key] in
theorem executeFts_ok (faithful : upstream.fts.Faithful) {fts : PreparedFtsExecution}
    (success : executeFts upstream prepared fts = .ok execution) :
    ∃ fragments given plan, selectedCurrentFtsFragments fts.context.dataset.value fts.segments = .ok fragments ∧
      upstream.createFtsPlan (ftsScanner upstream prepared.scanner fts fragments) = .ok given ∧
      execution = .fts plan ⟨fts.batchSize, fts.scanStatisticsCallback⟩ ∧ SearchesSegments fts fragments plan := by
  unfold executeFts at success
  obtain ⟨fragments, selected, success⟩ := bind_eq_ok.mp success
  obtain ⟨given, created, success⟩ := bind_eq_ok.mp success
  obtain ⟨⟨plan, rewritten⟩, restricted, success⟩ := bind_eq_ok.mp success
  obtain ⟨_, expected, success⟩ := bind_eq_ok.mp success
  cases success
  refine ⟨fragments, given, plan, selected, created, rfl, ?_⟩
  -- The rewrite that succeeded met no query of another kind, and counted what it met.
  obtain ⟨exactly, refused⟩ := rewrite_exact faithful (fts.request (!fragments.isEmpty)) given
  have matching := Bool.eq_false_of_not_eq_true fun mismatched => by
    obtain ⟨error, failed⟩ := refused mismatched
    rw [restricted] at failed
    cases failed
  rw [exactly matching] at restricted
  obtain ⟨rfl, rfl⟩ := Prod.mk.inj (Except.ok.inj restricted)
  have expected : ¬unexpectedPlan (!fragments.isEmpty) (planCounts given) := refuseIf_ok.mp expected
  refine ⟨containsFlat_restricted _ _ _, fun covered => ?_, fun uncovered => ?_⟩
  · have current : (!fragments.isEmpty) = true := by simpa using covered
    have single : (indexedNodes given).length = 1 := by
      by_contra several
      exact expected (.inr (.inr (.inr ⟨current, several⟩)))
    obtain ⟨⟨kind, exec⟩, only⟩ := List.length_eq_one_iff.mp single
    have sameKind : kind = fts.context.prepared.kind :=
      mismatched_eq_false.mp matching current (kind, exec) (by rw [only]; exact List.mem_singleton_self _)
    have currently : (fts.request (!fragments.isEmpty)).selectedSegmentsHaveCurrentFragments = true := current
    refine ⟨(fts.request (!fragments.isEmpty)).restrict exec, ?_, rfl, rfl, rfl⟩
    rw [indexedNodes_restricted, if_pos currently, only, sameKind]
    rfl
  · rw [indexedNodes_restricted, uncovered]
    rfl

/-- A context-backed scan of any handle that starts: its plan searches the segments the
handle selects, under the row mask of the handle, and the scanner it was planned from is
the prepared one, or that one held to the segments' own fragments. -/
theorem run_fts_plan (fields : Upstream) (upstream : EngineUpstream Scan Query Vector Batch Cell Key)
    (faithful : upstream.fts.Faithful) (dataset : Arc Dataset) (columns : Option (List String))
    (filter : Option String) (calls : List OptionSetter) (prepared : PreparedScanner Scan) (work : CandidateWork Key)
    (execution : Execution Scan Query Vector) (context : FtsQueryContextInner) :
    let self := (new dataset columns filter).run fields calls
    self.ftsContext = some context → self.buildScanner upstream.scans = .ok prepared →
      prepared.tryIntoStream upstream work = .ok execution →
      ∃ fts fragments scanner given plan,
        (fts.context = context ∧ selectFtsSegments context self.ftsIndexSegments = .ok fts.segments ∧
          fts.rowAddrMask = self.rowAddrMask upstream.scans) ∧
        selectedCurrentFtsFragments context.dataset.value fts.segments = .ok fragments ∧
        (scanner = prepared.scanner ∨ scanner = upstream.scans.set prepared.scanner (.withFragments fragments)) ∧
        upstream.createFtsPlan scanner = .ok given ∧
        execution = .fts plan ⟨self.batchSize, self.scanStatisticsCallback⟩ ∧
        SearchesSegments fts fragments plan := by
  intro self attached built started
  have parts := buildScanner_prepared built
  have valid : self.Valid := run_consistent dataset columns filter calls
  have ordinary : prepared.scalarSegment = none := by
    rcases prepareScalarSegment_ok parts.segment with ⟨_, absent⟩ | ⟨_, _, _, _, exclusive, _⟩
    · exact absent
    · rw [exclusive.2.2.1] at attached
      cases attached
  have single : prepared.multiVectorWindow = none := by
    rw [parts.window, multiVectorWindow_none]
    by_contra multi
    have excluded := (valid.exclusive (nearest_of_multiVector (Bool.not_eq_false _ ▸ multi))).2
    rw [attached] at excluded
    cases excluded
  obtain ⟨before, after, prepares⟩ := parts.context
  rcases applyFtsContext_ok prepares with ⟨absent, _⟩ | ⟨query, segments, given, chosen, distributed⟩
  · rw [attached] at absent
    cases absent
  · obtain rfl : context = query := Option.some.inj (attached.symm.trans given)
    unfold PreparedScanner.tryIntoStream at started
    rw [ordinary, single, distributed] at started
    obtain ⟨fragments, given, plan, selected, created, same, searches⟩ :=
      executeFts_ok faithful (settled_eq_ok.mp started)
    refine ⟨_, fragments, _, given, plan, ⟨rfl, chosen, rfl⟩, selected, ?_, created, same, searches⟩
    unfold ftsScanner
    split
    · exact .inr rfl
    · exact .inl rfl

end Modes

section Sample

/-- Every plan is one phrase query, or one exact search over a scan. -/
def sampleEngine : EngineUpstream SampleScan String Nat Nat Nat Nat where
  scans := sampleScans
  segments _ := Scalar.sampleLance
  createVectorPlan _ := .ok (.node (.knnVectorDistance false 7 "vectors" .l2 ⟨[]⟩) [.node (.other "LanceScan" ⟨[]⟩) []])
  createFtsPlan _ := .ok (.node (.indexedQuery .phrase ⟨sampleSnapshot, "needle", .none, none, none, none⟩) [])
  nodes := Rewrite.sampleEngine
  window :=
    { schema := fun _ => ["_distance"], col := fun name _ => .ok ⟨name, 0⟩
      withNewChildren := fun plan _ => .ok plan, Executes := fun _ _ => False }
  fts :=
    { ftsSchema := ⟨[]⟩
      withNewChildren := fun plan children => .ok (.node plan.label children)
      newWithSegments := fun _ dataset query prefilterSource segments =>
        .ok ⟨dataset, query, prefilterSource, some segments, none, none⟩ }
  ofDataFusion _ := .internal "execution"

theorem sampleEngine_faithful : sampleEngine.fts.Faithful :=
  ⟨fun _ _ _ _ => rfl, fun _ _ _ _ _ => ⟨_, rfl, rfl, rfl, rfl, rfl⟩⟩

def sampleWork : CandidateWork Nat := ⟨[], 0, fun _ => none⟩

/-- A vector search that cannot follow the query context, and a mask that can. -/
def sampleSearch : List OptionSetter :=
  [.core (.ftsQueryContext (some sampleFtsContext)), .core (.nearest (.text "vectors") ⟨64, fun _ _ => 0⟩ 1 0 4),
    .rowAddrList (some [4]) 1 .block]

def sampleSearcher [Target] : ScannerHandle :=
  (new sampleSnapshot none none).run LanceScanner.sampleFields sampleSearch

/-- The phrase query on the segments of the context, with its scorer and without row 4. -/
def sampleExecution : Execution SampleScan String Nat :=
  .fts (.node (.indexedQuery .phrase ⟨sampleSnapshot, "needle", .none, some sampleFtsContext.segments,
    some sampleFtsContext.prepared.scorer, some (sampleScans.fromBlock [4])⟩) []) ⟨none, none⟩

theorem sampleSearch_starts :
    letI := target64
    letI := natOrder
    ∃ prepared, sampleSearcher.buildScanner sampleScans = .ok prepared ∧
      prepared.tryIntoStream sampleEngine sampleWork = .ok sampleExecution :=
  ⟨_, rfl, rfl⟩

theorem run_modes_sample :
    letI := target64
    letI := natOrder
    ∃ prepared, sampleSearcher.buildScanner sampleScans = .ok prepared ∧
      sampleSearcher.Runs sampleEngine prepared sampleWork sampleExecution := by
  let _ := target64
  let _ := natOrder
  obtain ⟨prepared, built, started⟩ := sampleSearch_starts
  exact ⟨prepared, built, run_modes LanceScanner.sampleFields sampleEngine sampleSnapshot none none sampleSearch prepared
    sampleWork sampleExecution built started⟩

theorem run_fts_plan_sample :
    letI := target64
    letI := natOrder
    ∃ fts fragments, ∃ plan : Fts.Plan String RowMask,
      selectedCurrentFtsFragments sampleSnapshot.value fts.segments = .ok fragments ∧
        SearchesSegments fts fragments plan := by
  let _ := target64
  let _ := natOrder
  obtain ⟨prepared, built, started⟩ := sampleSearch_starts
  obtain ⟨fts, fragments, _, _, plan, _, selected, _, _, _, searches⟩ :=
    run_fts_plan LanceScanner.sampleFields sampleEngine sampleEngine_faithful sampleSnapshot none none sampleSearch
      prepared sampleWork sampleExecution sampleFtsContext rfl built started
  exact ⟨fts, fragments, plan, selected, searches⟩

end Sample

end ScannerHandle

end LanceC.Scanner
