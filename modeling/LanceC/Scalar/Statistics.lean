import LanceC.Scalar.Selection

/-! Execution statistics of a scan: what candidate generation adds to the reader's own
counts (`PreparedScalarSegment::configure` of scalar_segment.rs) and what C receives
(`SendScanStatisticsCallback::invoke` of scanner.rs). -/

namespace LanceC.Scalar

open Machine

structure ExecutionSummaryCounts where
  iops : Nat
  requests : Nat
  bytesRead : Nat
  indicesLoaded : Nat
  partsLoaded : Nat
  indexComparisons : Nat
  allCounts : AllCounts
  allTimes : AllCounts

def ExecutionSummaryCounts.default : ExecutionSummaryCounts := ⟨0, 0, 0, 0, 0, 0, fun _ => none, fun _ => none⟩

/-- `*counts.entry(name).or_default() += value`. -/
def AllCounts.add [Target] (counts : AllCounts) (name : String) (value : Nat) : AllCounts :=
  counts.insert name (addUsize ((counts name).getD 0) value)

/-- Every entry of `stats` added to `read`. -/
def AllCounts.combine [Target] (read stats : AllCounts) : AllCounts := fun name =>
  match stats name with
  | some value => some (addUsize ((read name).getD 0) value)
  | none => read name

namespace ExecutionSummaryCounts

/-- The statistics that candidate generation starts from. -/
def requested : ExecutionSummaryCounts :=
  { ExecutionSummaryCounts.default with
    allCounts := AllCounts.insert (fun _ => none) "scalar_segments_requested" 1 }

/-- One counter of the candidate plan. -/
def addMetric [Target] (stats : ExecutionSummaryCounts) : String × Nat → ExecutionSummaryCounts
  | ("iops", value) => { stats with iops := addUsize stats.iops value }
  | ("requests", value) => { stats with requests := addUsize stats.requests value }
  | ("bytes_read", value) => { stats with bytesRead := addUsize stats.bytesRead value }
  | ("indices_loaded", value) => { stats with indicesLoaded := addUsize stats.indicesLoaded value }
  | ("parts_loaded", value) => { stats with partsLoaded := addUsize stats.partsLoaded value }
  | ("index_comparisons", value) => { stats with indexComparisons := addUsize stats.indexComparisons value }
  | (name, value) => { stats with allCounts := stats.allCounts.add name value }

def recordFallback (stats : ExecutionSummaryCounts) : Option FallbackReason → ExecutionSummaryCounts
  | some reason =>
    { stats with
      allCounts := (stats.allCounts.insert "scalar_segment_fallbacks" 1).insert
        s!"scalar_segment_fallback_{reason.text}" 1 }
  | none => stats

/-- A time, as far as `usize` holds it. -/
def recordTime [Target] (stats : ExecutionSummaryCounts) (name : String) (nanoseconds : Nat) : ExecutionSummaryCounts :=
  { stats with allTimes := stats.allTimes.insert name (min nanoseconds usizeMax) }

/-- What the reader counted, with the candidates' part. -/
def combine [Target] (stats read : ExecutionSummaryCounts) : ExecutionSummaryCounts where
  iops := addUsize read.iops stats.iops
  requests := addUsize read.requests stats.requests
  bytesRead := addUsize read.bytesRead stats.bytesRead
  indicesLoaded := addUsize read.indicesLoaded stats.indicesLoaded
  partsLoaded := addUsize read.partsLoaded stats.partsLoaded
  indexComparisons := addUsize read.indexComparisons stats.indexComparisons
  allCounts := read.allCounts.combine stats.allCounts
  allTimes := read.allTimes.combine stats.allTimes

/-- The statistics of the candidates: `stats` are what `configure_candidates` left,
`metrics` the counters of its plan, `elapsed` its nanoseconds. -/
def ofCandidates [Target] (stats : ExecutionSummaryCounts) (reason : Option FallbackReason)
    (metrics : List (String × Nat)) (elapsed : Nat) : ExecutionSummaryCounts :=
  metrics.foldl addMetric ((stats.recordTime "scalar_segment_prepare_time" elapsed).recordFallback reason)

end ExecutionSummaryCounts

inductive LanceScanMetricKind where
  | count
  | timeNanoseconds
  deriving DecidableEq, Repr

structure LanceScanMetric where
  name : String
  kind : LanceScanMetricKind
  value : Nat
  deriving DecidableEq, Repr

structure LanceScanStatistics where
  iops : Nat
  requests : Nat
  bytesRead : Nat
  indicesLoaded : Nat
  indexPartitionsLoaded : Nat
  indexComparisons : Nat
  metrics : List LanceScanMetric
  deriving DecidableEq, Repr

/-- The entries of a map, each once, in the order in which it is iterated. -/
structure Enumeration (counts : AllCounts) where
  entries : List (String × Nat)
  distinct : (entries.map Prod.fst).Nodup
  complete : ∀ name value, (name, value) ∈ entries ↔ counts name = some value

def Enumeration.empty : Enumeration fun _ => none := ⟨[], List.nodup_nil, by simp⟩

/-- The entries with a further one. -/
def Enumeration.insert {counts : AllCounts} (order : Enumeration counts) {name : String} (value : Nat)
    (fresh : counts name = none) : Enumeration (counts.insert name value) where
  entries := (name, value) :: order.entries
  distinct := by
    rw [List.map_cons, List.nodup_cons]
    refine ⟨fun member => ?_, order.distinct⟩
    obtain ⟨⟨_, old⟩, listed, rfl⟩ := List.mem_map.mp member
    rw [(order.complete _ old).mp listed] at fresh
    cases fresh
  complete other found := by
    unfold AllCounts.insert
    rw [List.mem_cons, order.complete]
    by_cases same : other = name
    · simp [same, fresh, eq_comm]
    · simp [same]

/-- Where the reservation fails the dynamic metrics are left out. -/
def scanStatistics (counts : ExecutionSummaryCounts) (reserved : Bool) (countOrder : Enumeration counts.allCounts)
    (timeOrder : Enumeration counts.allTimes) : LanceScanStatistics where
  iops := counts.iops
  requests := counts.requests
  bytesRead := counts.bytesRead
  indicesLoaded := counts.indicesLoaded
  indexPartitionsLoaded := counts.partsLoaded
  indexComparisons := counts.indexComparisons
  metrics :=
    if reserved then
      (countOrder.entries.map fun (name, value) => ⟨name, .count, value⟩) ++
        timeOrder.entries.map fun (name, value) => ⟨name, .timeNanoseconds, value⟩
    else []

section Metrics

variable {counts : ExecutionSummaryCounts} {countOrder : Enumeration counts.allCounts}
  {timeOrder : Enumeration counts.allTimes} {name : String} {value : Nat}

theorem mem_metrics_count :
    ⟨name, .count, value⟩ ∈ (scanStatistics counts true countOrder timeOrder).metrics ↔
      counts.allCounts name = some value := by
  rw [← countOrder.complete]
  simp [scanStatistics]

theorem mem_metrics_time :
    ⟨name, .timeNanoseconds, value⟩ ∈ (scanStatistics counts true countOrder timeOrder).metrics ↔
      counts.allTimes name = some value := by
  rw [← timeOrder.complete]
  simp [scanStatistics]

theorem Enumeration.once_of_kind {all : AllCounts} (order : Enumeration all) (kind : LanceScanMetricKind) :
    (order.entries.map fun entry => (entry.1, kind)).Nodup := by
  have split : (order.entries.map fun entry => (entry.1, kind)) =
      (order.entries.map Prod.fst).map fun name => (name, kind) := by
    simp [Function.comp_def]
  rw [split]
  apply order.distinct.map
  intro first second same
  exact congrArg Prod.fst same

/-- The kind keeps a counter and a time of one name apart. -/
theorem metrics_once : ((scanStatistics counts true countOrder timeOrder).metrics.map fun metric =>
    (metric.name, metric.kind)).Nodup := by
  have named : (scanStatistics counts true countOrder timeOrder).metrics.map (fun metric => (metric.name, metric.kind)) =
      (countOrder.entries.map fun entry => (entry.1, .count)) ++
        timeOrder.entries.map fun entry => (entry.1, .timeNanoseconds) := by
    simp [scanStatistics, Function.comp_def]
  rw [named, List.nodup_append]
  refine ⟨countOrder.once_of_kind .count, timeOrder.once_of_kind .timeNanoseconds, ?_⟩
  intro counted isCount timed isTime same
  obtain ⟨_, _, rfl⟩ := List.mem_map.mp isCount
  obtain ⟨_, _, rfl⟩ := List.mem_map.mp isTime
  cases congrArg Prod.snd same

end Metrics

section Totals

/-- The counters that have a field of their own. -/
def fixedMetrics : List String :=
  ["iops", "requests", "bytes_read", "indices_loaded", "parts_loaded", "index_comparisons"]

/-- The sum of the counters of one name. -/
def metricTotal : List (String × Nat) → String → Nat
  | [], _ => 0
  | metric :: rest, name => (if metric.1 == name then metric.2 else 0) + metricTotal rest name

@[simp] theorem metricTotal_nil (name : String) : metricTotal [] name = 0 := rfl

theorem metricTotal_cons (metric : String × Nat) (rest : List (String × Nat)) (name : String) :
    metricTotal (metric :: rest) name = (if metric.1 = name then metric.2 else 0) + metricTotal rest name := by
  by_cases same : metric.1 = name
  · simp [metricTotal, same]
  · simp [metricTotal, same]

theorem metricTotal_absent {metrics : List (String × Nat)} {name : String} (absent : name ∉ metrics.map Prod.fst) :
    metricTotal metrics name = 0 := by
  induction metrics with
  | nil => rfl
  | cons metric rest ih =>
    obtain ⟨different, later⟩ : name ≠ metric.1 ∧ name ∉ rest.map Prod.fst := by simpa using absent
    rw [metricTotal_cons, if_neg different.symm, ih later]

variable [Target]

/-- The counters without a field of their own. -/
def dynamicMetrics (metrics : List (String × Nat)) : AllCounts := fun name =>
  if name ∉ fixedMetrics ∧ name ∈ metrics.map Prod.fst then some (truncUsize (metricTotal metrics name)) else none

namespace AllCounts

variable {left right : AllCounts} {name : String}

theorem combine_eq_some {value : Nat} : left.combine right name = some value ↔
    if (right name).isSome then value = addUsize ((left name).getD 0) ((right name).getD 0)
    else left name = some value := by
  unfold combine
  cases right name <;> simp [eq_comm]

theorem combine_assoc (first second third : AllCounts) :
    (first.combine second).combine third = first.combine (second.combine third) := by
  funext name
  unfold combine
  cases second name <;> cases third name <;> simp [addUsize, Nat.add_assoc]

theorem combine_none (counts : AllCounts) : counts.combine (fun _ => none) = counts := rfl

theorem combine_insert (read stats : AllCounts) (name : String) (value : Nat) :
    read.combine (stats.insert name value) =
      (read.combine stats).insert name (addUsize ((read name).getD 0) value) := by
  funext other
  unfold combine insert
  by_cases same : other = name
  · simp [same]
  · simp [same]

end AllCounts

theorem dynamicMetrics_cons (metric : String × Nat) (rest : List (String × Nat)) :
    dynamicMetrics (metric :: rest) = (dynamicMetrics [metric]).combine (dynamicMetrics rest) := by
  funext name
  simp only [dynamicMetrics, AllCounts.combine, metricTotal_cons]
  by_cases fixed : name ∈ fixedMetrics
  · simp [fixed]
  · by_cases same : metric.1 = name
    · subst same
      by_cases again : metric.1 ∈ rest.map Prod.fst
      · simp [fixed, again, addUsize]
      · simp [fixed, again, metricTotal_absent again]
    · have different : name ≠ metric.1 := Ne.symm same
      by_cases later : name ∈ rest.map Prod.fst
      · simp [fixed, same, different, later, addUsize]
      · simp [fixed, different, later]

theorem dynamicMetrics_fixed {metric : String × Nat} (fixed : metric.1 ∈ fixedMetrics) :
    dynamicMetrics [metric] = fun _ => none := by
  funext name
  by_cases same : name = metric.1
  · simp [dynamicMetrics, same, fixed]
  · simp [dynamicMetrics, same]

/-- A counter after those of its name have been added to it. -/
def tally (value : Nat) (metrics : List (String × Nat)) (name : String) : Nat :=
  if name ∈ metrics.map Prod.fst then truncUsize (value + metricTotal metrics name) else value

theorem tally_cons (value : Nat) (metric : String × Nat) (rest : List (String × Nat)) (name : String) :
    tally (tally value [metric] name) rest name = tally value (metric :: rest) name := by
  unfold tally
  simp only [metricTotal_cons]
  by_cases same : metric.1 = name
  · subst same
    by_cases again : metric.1 ∈ rest.map Prod.fst
    · simp [again, Nat.add_assoc]
    · simp [again, metricTotal_absent again]
  · have different : name ≠ metric.1 := Ne.symm same
    by_cases later : name ∈ rest.map Prod.fst
    · simp [same, different, later]
    · simp [different, later]

theorem addUsize_tally (read : Nat) (metrics : List (String × Nat)) (name : String) :
    addUsize read (tally 0 metrics name) = truncUsize (read + metricTotal metrics name) := by
  unfold tally addUsize
  split
  · simp
  · rename_i absent
    rw [metricTotal_absent absent]

namespace ExecutionSummaryCounts

/-- The statistics with the totals of some counters, each in its place. -/
def withMetrics (stats : ExecutionSummaryCounts) (metrics : List (String × Nat)) : ExecutionSummaryCounts where
  iops := tally stats.iops metrics "iops"
  requests := tally stats.requests metrics "requests"
  bytesRead := tally stats.bytesRead metrics "bytes_read"
  indicesLoaded := tally stats.indicesLoaded metrics "indices_loaded"
  partsLoaded := tally stats.partsLoaded metrics "parts_loaded"
  indexComparisons := tally stats.indexComparisons metrics "index_comparisons"
  allCounts := stats.allCounts.combine (dynamicMetrics metrics)
  allTimes := stats.allTimes

variable {stats : ExecutionSummaryCounts}

/-- A counter goes to the field of its name, or to the map of all others. -/
theorem addMetric_eq (metric : String × Nat) : stats.addMetric metric = stats.withMetrics [metric] := by
  obtain ⟨name, value⟩ := metric
  unfold addMetric
  split
  iterate 6
    rename_i same
    cases same
    rw [withMetrics, dynamicMetrics_fixed (by simp [fixedMetrics]), AllCounts.combine_none]
    simp [tally, addUsize, metricTotal_cons]
  rename_i other amount noIops noRequests noBytes noIndices noParts noComparisons same
  cases same
  have unnamed : name ∉ fixedMetrics := by
    simpa [fixedMetrics] using ⟨noIops, noRequests, noBytes, noIndices, noParts, noComparisons⟩
  have apart : ∀ field ∈ fixedMetrics, ∀ count, tally count [(name, value)] field = count := by
    intro field fixed count
    apply if_neg
    intro member
    obtain rfl : field = name := by simpa using member
    exact unnamed fixed
  have dynamic : stats.allCounts.add name value = stats.allCounts.combine (dynamicMetrics [(name, value)]) := by
    funext other
    unfold AllCounts.add AllCounts.insert AllCounts.combine dynamicMetrics
    by_cases same : other = name
    · subst same
      simp [unnamed, metricTotal_cons, addUsize]
    · simp [same]
  simp only [fixedMetrics, List.forall_mem_cons] at apart
  simp [withMetrics, dynamic, apart]

theorem withMetrics_cons (metric : String × Nat) (rest : List (String × Nat)) :
    (stats.withMetrics [metric]).withMetrics rest = stats.withMetrics (metric :: rest) := by
  unfold withMetrics
  rw [dynamicMetrics_cons metric rest, AllCounts.combine_assoc]
  simp only [tally_cons]

theorem foldl_addMetric (metrics : List (String × Nat)) :
    metrics.foldl addMetric stats = stats.withMetrics metrics := by
  induction metrics generalizing stats with
  | nil =>
    have none : dynamicMetrics [] = fun _ => none := by
      funext name
      simp [dynamicMetrics]
    simp [withMetrics, tally, none, AllCounts.combine_none]
  | cons metric rest ih => rw [List.foldl_cons, ih, addMetric_eq, withMetrics_cons]

end ExecutionSummaryCounts

/-- What `configure_candidates` counted, with the reason of a fallback. -/
def recordedCounts (counts : AllCounts) (reason : Option FallbackReason) : AllCounts :=
  ({ ExecutionSummaryCounts.default with allCounts := counts }.recordFallback reason).allCounts

/-- What C receives where the reader has counted `read`, candidate generation `counts` and
`times`, and its plan `metrics`: each fixed field, and where there is room each further counter
and time once, with the sum of all that was counted under its name, as `usize` adds it up. -/
structure ReceivesTotals (read : ExecutionSummaryCounts) (counts times : AllCounts) (metrics : List (String × Nat))
    (reserved : Bool) (received : LanceScanStatistics) : Prop where
  iops : received.iops = truncUsize (read.iops + metricTotal metrics "iops")
  requests : received.requests = truncUsize (read.requests + metricTotal metrics "requests")
  bytesRead : received.bytesRead = truncUsize (read.bytesRead + metricTotal metrics "bytes_read")
  indicesLoaded : received.indicesLoaded = truncUsize (read.indicesLoaded + metricTotal metrics "indices_loaded")
  partsLoaded : received.indexPartitionsLoaded = truncUsize (read.partsLoaded + metricTotal metrics "parts_loaded")
  comparisons : received.indexComparisons =
    truncUsize (read.indexComparisons + metricTotal metrics "index_comparisons")
  omitted : reserved = false → received.metrics = []
  once : (received.metrics.map fun metric => (metric.name, metric.kind)).Nodup
  counted : reserved = true → ∀ name value, ⟨name, .count, value⟩ ∈ received.metrics ↔
    if (counts name).isSome ∨ (dynamicMetrics metrics name).isSome then
      value = truncUsize ((read.allCounts name).getD 0 + (counts name).getD 0 + (dynamicMetrics metrics name).getD 0)
    else read.allCounts name = some value
  timed : reserved = true → ∀ name value, ⟨name, .timeNanoseconds, value⟩ ∈ received.metrics ↔
    if (times name).isSome then value = truncUsize ((read.allTimes name).getD 0 + (times name).getD 0)
    else read.allTimes name = some value

theorem AllCounts.combine_combine_eq_some {read counts dynamic : AllCounts} {name : String} {value : Nat} :
    read.combine (counts.combine dynamic) name = some value ↔
      if (counts name).isSome ∨ (dynamic name).isSome then
        value = truncUsize ((read name).getD 0 + (counts name).getD 0 + (dynamic name).getD 0)
      else read name = some value := by
  rw [← combine_assoc]
  unfold combine
  cases counts name <;> cases dynamic name <;> simp [addUsize, eq_comm]

/-- Where candidate generation has left the fixed fields alone, C receives all totals. -/
theorem receivesTotals_ofCandidates (read : ExecutionSummaryCounts) {stats : ExecutionSummaryCounts}
    (plain : stats = { ExecutionSummaryCounts.default with allCounts := stats.allCounts, allTimes := stats.allTimes })
    (reason : Option FallbackReason) (metrics : List (String × Nat)) (elapsed : Nat) (reserved : Bool) :
    let combined := (ExecutionSummaryCounts.ofCandidates stats reason metrics elapsed).combine read
    ∀ (countOrder : Enumeration combined.allCounts) (timeOrder : Enumeration combined.allTimes),
      ReceivesTotals read (recordedCounts stats.allCounts reason)
        (stats.recordTime "scalar_segment_prepare_time" elapsed).allTimes metrics reserved
        (scanStatistics combined reserved countOrder timeOrder) := by
  intro combined countOrder timeOrder
  have folded : ExecutionSummaryCounts.ofCandidates stats reason metrics elapsed =
      ((stats.recordTime "scalar_segment_prepare_time" elapsed).recordFallback reason).withMetrics metrics :=
    ExecutionSummaryCounts.foldl_addMetric metrics
  have counts : combined.allCounts =
      read.allCounts.combine ((recordedCounts stats.allCounts reason).combine (dynamicMetrics metrics)) := by
    simp only [combined, ExecutionSummaryCounts.combine, folded]
    cases reason <;> rfl
  have times : combined.allTimes =
      read.allTimes.combine (stats.recordTime "scalar_segment_prepare_time" elapsed).allTimes := by
    simp only [combined, ExecutionSummaryCounts.combine, folded]
    cases reason <;> rfl
  have fields : combined.iops = addUsize read.iops (tally 0 metrics "iops") ∧
      combined.requests = addUsize read.requests (tally 0 metrics "requests") ∧
      combined.bytesRead = addUsize read.bytesRead (tally 0 metrics "bytes_read") ∧
      combined.indicesLoaded = addUsize read.indicesLoaded (tally 0 metrics "indices_loaded") ∧
      combined.partsLoaded = addUsize read.partsLoaded (tally 0 metrics "parts_loaded") ∧
      combined.indexComparisons = addUsize read.indexComparisons (tally 0 metrics "index_comparisons") := by
    simp only [combined, ExecutionSummaryCounts.combine, folded]
    rw [plain]
    cases reason <;> exact ⟨rfl, rfl, rfl, rfl, rfl, rfl⟩
  simp only [addUsize_tally] at fields
  obtain ⟨iops, requests, bytesRead, indicesLoaded, partsLoaded, comparisons⟩ := fields
  refine ⟨iops, requests, bytesRead, indicesLoaded, partsLoaded, comparisons, ?_, ?_, ?_, ?_⟩
  · rintro rfl
    rfl
  · cases reserved with
    | false => exact List.nodup_nil
    | true => exact metrics_once
  · rintro rfl name value
    rw [mem_metrics_count, counts, AllCounts.combine_combine_eq_some]
  · rintro rfl name value
    rw [mem_metrics_time, times, AllCounts.combine_eq_some]
    rfl

end Totals

end LanceC.Scalar
