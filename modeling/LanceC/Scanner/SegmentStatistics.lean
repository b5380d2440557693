import LanceC.Scanner.ExecutionRows

/-! What C receives as the statistics of a scan over a segment's candidates
(`PreparedScalarSegment::configure` of scalar_segment.rs). -/

namespace LanceC.Scanner

open Logic Machine Scalar

section Statistics

variable {Scan Query Vector Batch Cell Key : Type} [Target] [ScalarOrder Key]
  {upstream : EngineUpstream Scan Query Vector Batch Cell Key} {segment : PreparedSegmentScan}
  {work : CandidateWork Key} {scanner configured : Scan} {callback : SendScanStatisticsCallback}

/-- The times of candidate generation: of all of it, and of a search that has been counted. -/
def candidateTimes (lance : Scalar.Lance Key) (counts : AllCounts) (elapsed : Nat) : AllCounts := fun name =>
  if name = "scalar_segment_prepare_time" then some (min elapsed usizeMax)
  else if name = "scalar_segment_search_time" ∧ (counts "scalar_segments_searched").isSome then
    some (min lance.searchNanos usizeMax)
  else none

omit [ScalarOrder Key] in
theorem counted_times {lance : Scalar.Lance Key} {after : ExecutionSummaryCounts}
    (counted : Counted lance .requested after) (elapsed : Nat) :
    (after.recordTime "scalar_segment_prepare_time" elapsed).allTimes =
      candidateTimes lance after.allCounts elapsed := by
  funext name
  cases counted with
  | skipped same =>
    simp [ExecutionSummaryCounts.recordTime, AllCounts.insert, candidateTimes, same,
      ExecutionSummaryCounts.requested, ExecutionSummaryCounts.default]
  | searched counted =>
    simp [ExecutionSummaryCounts.recordTime, AllCounts.insert, candidateTimes, counted,
      ExecutionSummaryCounts.requested, ExecutionSummaryCounts.default]

omit [ScalarOrder Key] in
theorem counted_plain {lance : Scalar.Lance Key} {after : ExecutionSummaryCounts}
    (counted : Counted lance .requested after) :
    after = { ExecutionSummaryCounts.default with allCounts := after.allCounts, allTimes := after.allTimes } := by
  cases counted <;> rfl

/-- The caller's callback is the last thing set on the configured scanner. Whatever the reader
then counts, C receives its totals with those of candidate generation, the search timed where
one has been made. -/
theorem segment_statistics_total (success : segment.configure upstream work scanner = .ok configured)
    (given : segment.callback = some callback) :
    let lance := upstream.segments segment.dataset.value
    let reader := upstream.scans.reader (upstream.scans.set scanner (.useScalarIndex false))
    ∃ reason out after left before,
      configureCandidates lance segment.toPreparedScalarSegment reader .requested work.cache =
        .ok (reason, out, after, left) ∧
      let invoked := ExecutionStatsCallback.combined callback (.ofCandidates after reason work.metrics work.elapsed)
      configured = upstream.scans.set before (.scanStatsCallback invoked) ∧
      ∀ read reserved (countOrder : Enumeration (invoked.counts read).allCounts)
        (timeOrder : Enumeration (invoked.counts read).allTimes),
        ReceivesTotals read (recordedCounts after.allCounts reason)
          (candidateTimes lance after.allCounts work.elapsed) work.metrics reserved
          (scanStatistics (invoked.counts read) reserved countOrder timeOrder) := by
  intro lance reader
  obtain ⟨⟨reason, out, after, left⟩, candidates, success⟩ := bind_eq_ok.mp success
  obtain ⟨counted, _⟩ := configureCandidates_ok candidates
  have called (stats : ExecutionSummaryCounts) (before : Scan) : segment.addStatistics upstream stats before =
      upstream.scans.set before (.scanStatsCallback (.combined callback stats)) := by
    rw [PreparedSegmentScan.addStatistics, given]
  refine ⟨reason, out, after, left, _, candidates, (Except.ok.inj success).symm.trans (called _ _), ?_⟩
  intro read reserved countOrder timeOrder
  rw [← counted_times counted]
  exact receivesTotals_ofCandidates read (counted_plain counted) reason work.metrics work.elapsed reserved countOrder
    timeOrder

end Statistics

section Sample

open ScannerHandle

/-- The first segment of the sample, without a runtime selection. -/
def sampleCounting : PreparedSegmentScan where
  segmentUuid := 1
  autoSelection := false
  fragmentIds := [0]
  useScalarIndex := true
  dataset := ⟨1, sampleSelector.dataset⟩
  callback := some ⟨1, 2⟩

/-- Seven operations in two parts, and a counter without a field. -/
def measuredWork : CandidateWork Nat := ⟨[("iops", 3), ("cache_hits", 2), ("iops", 4)], 9, fun _ => none⟩

def sampleScan : SampleScan := ⟨⟨[0], .ok (some Scalar.sampleFilter), none⟩, none, none⟩

def sampleRead : ExecutionSummaryCounts := { ExecutionSummaryCounts.default with iops := 5 }

/-- What a search over the segment leaves. -/
def sampleSearched : ExecutionSummaryCounts :=
  { ExecutionSummaryCounts.default with
    allCounts := ((AllCounts.insert (fun _ => none) "scalar_segments_requested" 1).insert
      "scalar_segments_searched" 1).insert "scalar_segment_candidate_rows_unknown" 1
    allTimes := AllCounts.insert (fun _ => none) "scalar_segment_search_time" 7 }

def sampleStatistics [Target] : ExecutionSummaryCounts := .ofCandidates sampleSearched none measuredWork.metrics 9

theorem sampleCounting_searches :
    letI := target64
    letI := natOrder
    ∃ out left, configureCandidates Scalar.sampleLance sampleCounting.toPreparedScalarSegment sampleScan.reader
      .requested (fun _ => none) = .ok (none, out, sampleSearched, left) :=
  ⟨_, _, rfl⟩

/-- A search of the segment, whose reader counts five operations more. -/
theorem segment_statistics_total_sample :
    letI := target64
    letI := natOrder
    ∃ (countOrder : Enumeration (sampleStatistics.combine sampleRead).allCounts)
      (timeOrder : Enumeration (sampleStatistics.combine sampleRead).allTimes),
      let received := scanStatistics (sampleStatistics.combine sampleRead) true countOrder timeOrder
      (sampleCounting.configure sampleEngine measuredWork sampleScan).isOk ∧ received.iops = 12 ∧
        ⟨"cache_hits", .count, 2⟩ ∈ received.metrics ∧
        ⟨"scalar_segment_search_time", .timeNanoseconds, 7⟩ ∈ received.metrics := by
  let _ := target64
  let _ := natOrder
  have counts : (sampleStatistics.combine sampleRead).allCounts =
      sampleSearched.allCounts.insert "cache_hits" 2 := by
    show AllCounts.combine (fun _ => none) (sampleSearched.allCounts.insert "cache_hits" 2) = _
    simp only [sampleSearched, AllCounts.combine_insert]
    rfl
  have times : (sampleStatistics.combine sampleRead).allTimes =
      sampleSearched.allTimes.insert "scalar_segment_prepare_time" 9 := by
    show AllCounts.combine (fun _ => none) (sampleSearched.allTimes.insert "scalar_segment_prepare_time" 9) = _
    simp only [sampleSearched, AllCounts.combine_insert]
    rfl
  have countOrder : Enumeration (sampleStatistics.combine sampleRead).allCounts :=
    counts ▸ (((Enumeration.empty.insert 1 rfl).insert 1 rfl).insert 1 rfl).insert 2 rfl
  have timeOrder : Enumeration (sampleStatistics.combine sampleRead).allTimes :=
    times ▸ (Enumeration.empty.insert 7 rfl).insert 9 rfl
  obtain ⟨out, left, run⟩ := sampleCounting_searches
  have configured : sampleCounting.configure sampleEngine measuredWork sampleScan = .ok _ := rfl
  obtain ⟨_, _, _, _, before, candidates, _, totals⟩ :=
    segment_statistics_total configured (show sampleCounting.callback = some ⟨1, 2⟩ from rfl)
  obtain ⟨rfl, rest⟩ := Prod.mk.inj (Except.ok.inj (run.symm.trans candidates))
  obtain ⟨rfl, _⟩ := Prod.mk.inj (Prod.mk.inj rest).2
  have received := totals sampleRead true countOrder timeOrder
  exact ⟨countOrder, timeOrder, rfl, received.iops, (received.counted rfl "cache_hits" 2).mpr rfl,
    (received.timed rfl "scalar_segment_search_time" 7).mpr rfl⟩

end Sample

end LanceC.Scanner
