import LanceC.Scanner.ExecutionModes

/-! A scan reads the rows its caller asked for, whether or not a scalar index segment
proposes them. -/

namespace LanceC.Scanner

open Logic Machine Scalar

variable {Scan Query Vector Batch Cell Key Row : Type}

section Configure

variable [Target] [ScalarOrder Key] {upstream : EngineUpstream Scan Query Vector Batch Cell Key} {contents : Contents Key Row}
  {segment : PreparedSegmentScan} {scanner configured : Scan} {work : CandidateWork Key}

omit [Target] [ScalarOrder Key] in
theorem reader_addStatistics (documented : upstream.scans.Documented) (stats : ExecutionSummaryCounts) :
    upstream.scans.reader (segment.addStatistics upstream stats scanner) = upstream.scans.reader scanner := by
  unfold PreparedSegmentScan.addStatistics
  cases segment.callback with
  | none => rfl
  | some callback => exact documented.callback scanner _

omit [Target] [ScalarOrder Key] in
/-- With the mask installed the scanner reads what candidate generation left. -/
theorem reader_installMask (documented : upstream.scans.Documented) {out : Scalar.Scanner}
    (unmasked : upstream.scans.rowAddrPrefilter scanner = none)
    (shape : out = upstream.scans.reader scanner ∨ ∃ mask, out = (upstream.scans.reader scanner).withRowAddrPrefilter mask) :
    upstream.scans.reader (installMask upstream out scanner) = out := by
  unfold installMask
  rcases shape with rfl | ⟨mask, rfl⟩
  · rw [show (upstream.scans.reader scanner).rowAddrPrefilter = none from unmasked]
  · exact documented.withRowAddrPrefilter scanner mask

theorem configure_rowsRead (documented : upstream.scans.Documented)
    (contract : LanceContract (upstream.segments segment.dataset.value) contents)
    (unmasked : upstream.scans.rowAddrPrefilter scanner = none)
    (sameDomain : contents.domain (upstream.scans.fragmentIds scanner) = contents.domain segment.fragmentIds)
    (success : segment.configure upstream work scanner = .ok configured) :
    upstream.scans.getExprFilter configured = upstream.scans.getExprFilter scanner ∧
      contents.rowsRead (upstream.scans.reader configured) = contents.rowsRead (upstream.scans.reader scanner) := by
  unfold PreparedSegmentScan.configure at success
  obtain ⟨⟨reason, out, stats, left⟩, candidates, success⟩ := bind_eq_ok.mp success
  cases success
  have plain := documented.useScalarIndex scanner false
  obtain ⟨shape, rows⟩ := (configureCandidates_ok candidates).2 contents contract (by rw [plain]; exact unmasked)
    (by rw [plain]; exact sameDomain)
  have same : upstream.scans.reader (segment.addStatistics upstream
      (.ofCandidates stats reason work.metrics work.elapsed)
      (installMask upstream out (upstream.scans.set scanner (.useScalarIndex false)))) = out := by
    rw [reader_addStatistics documented]
    exact reader_installMask documented ((congrArg Scalar.Scanner.rowAddrPrefilter plain).trans unmasked) shape
  refine ⟨?_, by rw [same, rows, plain]⟩
  calc upstream.scans.getExprFilter _ = out.filter := congrArg Scalar.Scanner.filter same
    _ = (upstream.scans.reader (upstream.scans.set scanner (.useScalarIndex false))).filter := by
      rcases shape with rfl | ⟨mask, rfl⟩
      · rfl
      · rfl
    _ = upstream.scans.getExprFilter scanner := congrArg Scalar.Scanner.filter plain

end Configure

namespace ScannerHandle

section Rows

variable [Target] [ScalarOrder Key] {upstream : EngineUpstream Scan Query Vector Batch Cell Key}
  {contents : Contents Key Row} {sqlTruth : String → Row → Truth} {substraitTruth : List Byte → Row → Truth}
  {self : ScannerHandle} {prepared : PreparedScanner Scan} {work : CandidateWork Key} {scanner : Scan}

/-- The scanner that is executed reads the rows that were asked for, also where a segment
has been searched for candidates first. -/
theorem execution_rowsRead (documented : upstream.scans.Documented)
    (resolves : upstream.scans.Resolves contents sqlTruth substraitTruth)
    (contract : LanceContract (upstream.segments self.dataset.value) contents)
    (stored : ∀ row, contents.fragment row ∈ self.dataset.value.fragments.map Fragment.id)
    (built : self.buildScanner upstream.scans = .ok prepared)
    (started : prepared.tryIntoStream upstream work = .ok (.reader scanner)) (given : Option Expr)
    (resolved : upstream.scans.getExprFilter scanner = .ok given) :
    contents.rowsRead (upstream.scans.reader scanner) =
      {row | self.Requested contents sqlTruth substraitTruth row} := by
  obtain ⟨sameIds, sameMask, _⟩ := buildScanner_reader documented resolves built
  have parts := buildScanner_prepared built
  rcases tryIntoStream_cases started with ⟨segment, _, present, configures, ⟨⟩⟩ | ⟨-, modes⟩
  · rcases prepareScalarSegment_ok parts.segment with ⟨_, absent⟩ | ⟨uuid, ids, chosen, listed, _, segments⟩
    · rw [present] at absent
      cases absent
    obtain rfl := Option.some.inj (present.symm.trans segments)
    have unmasked : self.rowAddrMask upstream.scans = none := by
      have excluded := (checkRestrictions_ok parts.restrictions).2
      rw [chosen] at excluded
      have lists : self.rowAddrAllowlist = none ∧ self.rowAddrBlocklist = none := by simpa using excluded
      rw [rowAddrMask, lists.1, lists.2]
    have sameDomain : contents.domain (upstream.scans.fragmentIds prepared.scanner) = contents.domain ids := by
      ext row
      show contents.fragment row ∈ upstream.scans.fragmentIds prepared.scanner ↔ contents.fragment row ∈ ids
      rw [sameIds, mem_readFragments (stored row), listed]
      simp
    obtain ⟨sameFilter, sameRows⟩ :=
      configure_rowsRead documented contract (sameMask.trans unmasked) sameDomain configures
    rw [sameRows]
    exact prepared_rowsRead documented resolves stored built (sameFilter.symm.trans resolved)
  · -- Without a segment the prepared scanner itself is executed, or a plan.
    rcases modes with ⟨_, _, -, ⟨⟩⟩ | ⟨-, ⟨_, _, -, ⟨⟩⟩ | ⟨-, ⟨⟩⟩⟩
    exact prepared_rowsRead documented resolves stored built resolved

end Rows

section Sample

/-- The one fragment of the segments' sample, under the filters of the scanner's. -/
def keyedRows : Contents Nat Nat := { sampleContents with filterTruth := sampleExprTruth }

theorem keyedRows_resolves : sampleScans.Resolves keyedRows sampleTruth fun _ _ => .unknown where
  sql accepted given := by
    cases accepted
    cases given
    exact ⟨_, rfl, funext fun row => by simp [keyedRows, sampleExprTruth]⟩
  substrait accepted given := by
    cases accepted
    cases given
    exact ⟨_, rfl, funext fun row => by simp [keyedRows, sampleExprTruth]⟩
  conjunction existing additional row := by simp [keyedRows, conjunction, sampleExprTruth]

theorem keyedRows_contract : LanceContract Scalar.sampleLance keyedRows where
  planned filter query _ _ plan row holds := by
    simp only [Scalar.sampleLance] at plan
    split at plan
    · cases plan
      have same : row = 15 := by simpa [keyedRows, sampleExprTruth, sampleTruth] using holds
      subst same
      decide
    · cases plan
  loaded := sampleLance_contract.loaded
  covered := sampleLance_contract.covered
  rowIds := sampleLance_contract.rowIds

/-- One key, through a segment whose runtime selection prefers another one. -/
def sampleSegmentScan : List OptionSetter :=
  [.fragmentIds (some [0]) 1, .scalarIndexSegment (some (Uuid.toBytes 1)), .scalarIndexAutoSelection true]

/-- Lance's scanner is executed, with a filter that resolves. -/
def readsFiltered : Except (Stop LanceError) (Execution SampleScan String Nat) → Bool
  | .ok (.reader scan) => scan.reader.filter.isOk
  | _ => false

theorem exists_of_readsFiltered {outcome : Except (Stop LanceError) (Execution SampleScan String Nat)}
    (reads : readsFiltered outcome = true) :
    ∃ scan given, outcome = .ok (.reader scan) ∧ sampleScans.getExprFilter scan = .ok given := by
  unfold readsFiltered at reads
  split at reads
  · rename_i scan
    cases resolved : scan.reader.filter with
    | ok given => exact ⟨scan, given, rfl, resolved⟩
    | error => simp [resolved, Except.isOk, Except.toBool] at reads
  · cases reads

def sampleHandle [Target] : ScannerHandle :=
  (new ⟨1, sampleSelector.dataset⟩ none (some "key = 15")).run LanceScanner.sampleFields sampleSegmentScan

theorem execution_rowsRead_sample :
    letI := target64
    letI := natOrder
    ∃ prepared scanner, sampleHandle.buildScanner sampleScans = .ok prepared ∧
      prepared.tryIntoStream sampleEngine sampleWork = .ok (.reader scanner) ∧
      keyedRows.rowsRead (sampleScans.reader scanner) =
        {row | sampleHandle.Requested keyedRows sampleTruth (fun _ _ => .unknown) row} := by
  let _ := target64
  let _ := natOrder
  have stored (row : Nat) : keyedRows.fragment row ∈ sampleHandle.dataset.value.fragments.map Fragment.id := by
    show 0 ∈ [0]
    simp
  obtain ⟨prepared, built, reads⟩ : ∃ prepared, sampleHandle.buildScanner sampleScans = .ok prepared ∧
      readsFiltered (prepared.tryIntoStream sampleEngine sampleWork) = true := ⟨_, rfl, by decide +kernel⟩
  obtain ⟨scanner, given, started, resolved⟩ := exists_of_readsFiltered reads
  exact ⟨prepared, scanner, built, started, execution_rowsRead
    (show sampleEngine.scans.Documented from sampleScans_documented) keyedRows_resolves keyedRows_contract stored built
    started given resolved⟩

end Sample

end ScannerHandle

end LanceC.Scanner
