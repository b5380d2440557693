import LanceC.Scalar.SegmentScan
import LanceC.Scanner.Prepare

/-! The scanner that `build_scanner` hands to Lance reads the rows that the calls on the
handle ask for: whatever else is set on it, and wherever the fragments are put. -/

namespace LanceC.Scanner

open Logic Machine Scalar

def ScanOption.changesRows : ScanOption → Bool
  | withFragments _ | withRowAddrPrefilter _ | filterExpr _ => true
  | _ => false

def ScanRequest.isFilter : ScanRequest → Bool
  | filterSubstrait _ | filter _ => true
  | _ => false

namespace ScannerUpstream

variable {Scan : Type} (lance : ScannerUpstream Scan)

/-- What Lance reads for a scanner. -/
def reader (scanner : Scan) : Scalar.Scanner :=
  { fragmentIds := lance.fragmentIds scanner, filter := lance.getExprFilter scanner
    rowAddrPrefilter := lance.rowAddrPrefilter scanner }

/-- A scanner with these fragments and this mask, and no filter so far. -/
structure Scoped (scanner : Scan) (ids : List Nat) (mask : Option RowMask) : Prop where
  fragmentIds : lance.fragmentIds scanner = ids
  prefilter : lance.rowAddrPrefilter scanner = mask
  unfiltered : lance.getExprFilter scanner = .ok none

/-- The documented effect of the builder calls on the rows that are read. -/
structure Documented : Prop where
  window : lance.toScanUpstream.Documented
  fresh (dataset : Arc Dataset) :
    lance.Scoped (lance.scan dataset) (dataset.value.fragments.map Fragment.id) none
  plain {scanner : Scan} {ids : List Nat} {mask : Option RowMask} (within : lance.Scoped scanner ids mask)
    {option : ScanOption} (rowsKept : option.changesRows = false) : lance.Scoped (lance.set scanner option) ids mask
  withFragments (scanner : Scan) (fragments : List Fragment) :
    lance.reader (lance.set scanner (.withFragments fragments)) =
      { lance.reader scanner with fragmentIds := fragments.map Fragment.id }
  withRowAddrPrefilter (scanner : Scan) (mask : RowMask) :
    lance.reader (lance.set scanner (.withRowAddrPrefilter mask)) = (lance.reader scanner).withRowAddrPrefilter mask
  limit {scanner next : Scan} {ids : List Nat} {mask : Option RowMask} (within : lance.Scoped scanner ids mask)
    {limit offset : Option Int} (accepted : lance.limit scanner limit offset = .ok next) : lance.Scoped next ids mask
  request {scanner next : Scan} {ids : List Nat} {mask : Option RowMask} (within : lance.Scoped scanner ids mask)
    {request : ScanRequest} (noFilter : request.isFilter = false) (accepted : lance.request scanner request = .ok next) :
    lance.Scoped next ids mask
  filtered {scanner next : Scan} {request : ScanRequest} (isFilter : request.isFilter = true)
    (accepted : lance.request scanner request = .ok next) :
    lance.fragmentIds next = lance.fragmentIds scanner ∧ lance.rowAddrPrefilter next = lance.rowAddrPrefilter scanner
  filterExpr (scanner : Scan) (filter : Expr) :
    lance.reader (lance.set scanner (.filterExpr filter)) = { lance.reader scanner with filter := .ok (some filter) }
  useScalarIndex (scanner : Scan) (enabled : Bool) :
    lance.reader (lance.set scanner (.useScalarIndex enabled)) = lance.reader scanner
  callback (scanner : Scan) (callback : ExecutionStatsCallback) :
    lance.reader (lance.set scanner (.scanStatsCallback callback)) = lance.reader scanner
  fromAllowed (ids : List Nat) (id : Nat) : (lance.fromAllowed ids).selected id = true ↔ id ∈ ids
  fromBlock (ids : List Nat) (id : Nat) : (lance.fromBlock ids).selected id = true ↔ id ∉ ids
  alsoBlock (mask : RowMask) (ids : List Nat) (id : Nat) :
    (lance.alsoBlock mask ids).selected id = true ↔ mask.selected id = true ∧ id ∉ ids

variable {lance}

theorem Scoped.of_reader {scanner : Scan} {ids : List Nat} {mask : Option RowMask}
    (reads : lance.reader scanner = ⟨ids, .ok none, mask⟩) : lance.Scoped scanner ids mask :=
  ⟨congrArg Scalar.Scanner.fragmentIds reads, congrArg Scalar.Scanner.rowAddrPrefilter reads,
    congrArg Scalar.Scanner.filter reads⟩

theorem Scoped.reader_eq {scanner : Scan} {ids : List Nat} {mask : Option RowMask}
    (within : lance.Scoped scanner ids mask) : lance.reader scanner = ⟨ids, .ok none, mask⟩ := by
  rw [reader, within.fragmentIds, within.unfiltered, within.prefilter]

variable (lance)

/-- What the filters of the caller say of the rows, and that the expressions Lance
resolves them to say the same. -/
structure Resolves {Value Row : Type} (contents : Contents Value Row) (sqlTruth : String → Row → Truth)
    (substraitTruth : List Byte → Row → Truth) : Prop where
  sql {scanner next : Scan} {text : String} {resolved : Option Expr}
    (accepted : lance.request scanner (.filter text) = .ok next) (given : lance.getExprFilter next = .ok resolved) :
    ∃ filter, resolved = some filter ∧ contents.filterTruth filter = sqlTruth text
  substrait {scanner next : Scan} {bytes : List Byte} {resolved : Option Expr}
    (accepted : lance.request scanner (.filterSubstrait bytes) = .ok next)
    (given : lance.getExprFilter next = .ok resolved) :
    ∃ filter, resolved = some filter ∧ contents.filterTruth filter = substraitTruth bytes
  conjunction (existing additional : Expr) (row : Row) :
    contents.filterTruth (conjunction existing additional) row =
      (contents.filterTruth existing row).and (contents.filterTruth additional row)

end ScannerUpstream

namespace ScannerHandle

variable {Scan Value Row : Type} {lance : ScannerUpstream Scan} {self : ScannerHandle}

section Spec

variable (handle : ScannerHandle) (contents : Contents Value Row) (sqlTruth : String → Row → Truth)
  (substraitTruth : List Byte → Row → Truth)

def readFragments : List Nat :=
  match handle.fragmentIds with
  | some chosen => (handle.selectedFragments chosen).map Fragment.id
  | none => handle.dataset.value.fragments.map Fragment.id

/-- The row passes every filter of the caller; the Substrait one stands in for the SQL one. -/
structure Passes (row : Row) : Prop where
  substrait : ∀ bytes ∈ handle.substraitFilter, substraitTruth bytes row = .yes
  sql : handle.substraitFilter = none → ∀ text ∈ handle.filter, sqlTruth text row = .yes
  additional : ∀ text ∈ handle.additionalSqlFilters, sqlTruth text row = .yes

/-- The rows a caller asks for: of the listed fragments, allowed, not blocked, and
passing every filter. -/
structure Requested (row : Row) : Prop where
  fragments : ∀ ids ∈ handle.fragmentIds, contents.fragment row ∈ ids
  allowed : ∀ ids ∈ handle.rowAddrAllowlist, contents.rowId row ∈ ids
  blocked : ∀ ids ∈ handle.rowAddrBlocklist, contents.rowId row ∉ ids
  passes : handle.Passes sqlTruth substraitTruth row

end Spec

section Scope

variable {scanner next : Scan} {ids : List Nat} {mask : Option RowMask}

theorem setAll_scoped (documented : lance.Documented) (within : lance.Scoped scanner ids mask)
    {options : List ScanOption} (plain : ∀ option ∈ options, option.changesRows = false) :
    lance.Scoped (setAll lance scanner options) ids mask := by
  induction options generalizing scanner with
  | nil => exact within
  | cons option rest ih =>
    obtain ⟨first, others⟩ := List.forall_mem_cons.mp plain
    exact ih (documented.plain within first) others

theorem applyFragmentFilter_scoped (documented : lance.Documented)
    (within : lance.Scoped scanner (self.dataset.value.fragments.map Fragment.id) mask) :
    lance.Scoped (self.applyFragmentFilter lance scanner) self.readFragments mask := by
  unfold applyFragmentFilter readFragments
  cases self.fragmentIds with
  | none => exact within
  | some chosen => exact .of_reader (by rw [documented.withFragments, within.reader_eq])

theorem maskOptions_scoped (documented : lance.Documented) (within : lance.Scoped scanner ids none) :
    lance.Scoped (setAll lance scanner (self.maskOptions lance)) ids (self.rowAddrMask lance) := by
  have prefiltered {scanner : Scan} (within : lance.Scoped scanner ids (self.rowAddrMask lance)) :
      lance.Scoped (setAll lance scanner (if self.prefilter then [.prefilter true] else [])) ids
        (self.rowAddrMask lance) := by
    apply setAll_scoped documented within
    intro option member
    split at member
    · obtain rfl := List.mem_singleton.mp member
      rfl
    · cases member
  rw [maskOptions, setAll, List.foldl_append]
  cases masked : self.rowAddrMask lance with
  | none =>
    rw [masked] at prefiltered
    exact prefiltered within
  | some mask =>
    rw [masked] at prefiltered
    have restricted : lance.Scoped (lance.set scanner (.withRowAddrPrefilter mask)) ids (some mask) :=
      .of_reader (by rw [documented.withRowAddrPrefilter, within.reader_eq]; rfl)
    exact prefiltered restricted

/-- An option that is passed on where it is set. -/
theorem plain_of_map {α : Type} {setting : Option α} {wrap : α → ScanOption}
    (plain : ∀ value, (wrap value).changesRows = false) :
    ∀ option ∈ (setting.map wrap).toList, option.changesRows = false := by
  intro option member
  obtain ⟨value, _, rfl⟩ := Option.map_eq_some_iff.mp (Option.mem_toList.mp member)
  exact plain value

theorem plain_of_flag {flag : Bool} {chosen : ScanOption} (plain : chosen.changesRows = false) :
    ∀ option ∈ (if flag then [chosen] else []), option.changesRows = false := by
  cases flag with
  | false => simp
  | true => simpa using plain

theorem tuningOptions_plain (self : ScannerHandle) (option : ScanOption) (member : option ∈ self.tuningOptions) :
    option.changesRows = false := by
  simp only [tuningOptions, List.mem_append] at member
  rcases member with (((((((((((member | member) | member) | member) | member) | member) | member) | member) |
    member) | member) | member) | member) | member
  iterate 10 exact plain_of_map (fun _ => rfl) option member
  iterate 3 exact plain_of_flag rfl option member

theorem probeOptions_plain (self : ScannerHandle) (query : NearestQuery) (option : ScanOption) (member : option ∈ self.probeOptions query) :
    option.changesRows = false := by
  simp only [probeOptions, List.mem_append, List.mem_singleton] at member
  rcases member with (((rfl | member) | member) | member) | member
  · rfl
  iterate 4 exact plain_of_map (fun _ => rfl) option member

variable [Target]

theorem refineOptions_plain {query : NearestQuery} {options : List ScanOption}
    (success : self.refineOptions query = .ok options) (option : ScanOption) (member : option ∈ options) :
    option.changesRows = false := by
  unfold refineOptions at success
  split at success
  · simp only [bind_eq_ok, refuseIf_ok] at success
    obtain ⟨_, _, _, _, success⟩ := success
    cases success
    obtain rfl := List.mem_singleton.mp member
    rfl
  · cases success
    exact plain_of_map (fun _ => rfl) option member

omit [Target] in
theorem metricOptions_plain (option : ScanOption) (member : option ∈ self.metricOptions) :
    option.changesRows = false := by
  unfold metricOptions at member
  split at member
  · obtain rfl := List.mem_singleton.mp member
    rfl
  · exact plain_of_flag rfl option member

theorem applyNearest_scoped (documented : lance.Documented) (within : lance.Scoped scanner ids mask)
    (success : self.applyNearest lance scanner = .ok next) : lance.Scoped next ids mask := by
  unfold applyNearest at success
  split at success
  · cases success
    exact within
  · rename_i query _
    obtain ⟨asked, accepted, success⟩ := bind_eq_ok.mp success
    obtain ⟨refine, refined, success⟩ := bind_eq_ok.mp success
    have tuned := documented.request within rfl accepted
    have probed := setAll_scoped documented tuned (probeOptions_plain self query)
    have rescored := setAll_scoped documented probed (refineOptions_plain refined)
    have last : ∀ option ∈ (self.ef.map .ef).toList ++ self.metricOptions ++ (self.useIndex.map .useIndex).toList,
        option.changesRows = false := by
      intro option member
      simp only [List.mem_append] at member
      rcases member with (member | member) | member
      · exact plain_of_map (fun _ => rfl) option member
      · exact metricOptions_plain option member
      · exact plain_of_map (fun _ => rfl) option member
    have searched := setAll_scoped documented rescored last
    split at success
    · exact documented.request searched rfl success
    · cases success
      exact searched

omit [Target] in
theorem applyFtsQuery_scoped (documented : lance.Documented) (within : lance.Scoped scanner ids mask)
    (success : self.applyFtsQuery lance scanner = .ok next) : lance.Scoped next ids mask := by
  unfold applyFtsQuery at success
  split at success
  · exact documented.request within rfl success
  · cases success
    exact within

theorem applySearch_scoped (documented : lance.Documented)
    (within : lance.Scoped scanner (self.dataset.value.fragments.map Fragment.id) none)
    (success : self.applySearch lance scanner = .ok next) :
    lance.Scoped next self.readFragments (self.rowAddrMask lance) := by
  unfold applySearch at success
  obtain ⟨_, _, success⟩ := bind_eq_ok.mp success
  obtain ⟨searched, nearest, success⟩ := bind_eq_ok.mp success
  have fragmented : lance.Scoped
      (if self.fragmentFilterAfterNearest then self.applyFragmentFilter lance searched else searched)
      self.readFragments (self.rowAddrMask lance) := by
    -- The fragments are put either before the query or behind it, and stay.
    cases after : self.fragmentFilterAfterNearest with
    | true =>
      rw [after] at nearest
      exact applyFragmentFilter_scoped documented
        (applyNearest_scoped documented (maskOptions_scoped documented within) nearest)
    | false =>
      rw [after] at nearest
      exact applyNearest_scoped documented
        (maskOptions_scoped documented (applyFragmentFilter_scoped documented within)) nearest
  exact applyFtsQuery_scoped documented fragmented success

omit [Target] in
theorem applyColumns_scoped (documented : lance.Documented) (within : lance.Scoped scanner ids mask)
    (success : self.applyColumns lance scanner = .ok next) : lance.Scoped next ids mask := by
  unfold applyColumns at success
  obtain ⟨projected, accepted, success⟩ := bind_eq_ok.mp success
  cases success
  refine setAll_scoped documented ?_ (plain_of_map fun _ => rfl)
  unfold applyProjection at accepted
  split at accepted
  · exact documented.request within rfl accepted
  · cases accepted
    exact within

theorem buildWindow_scoped (documented : lance.Documented) (within : lance.Scoped scanner ids mask)
    {window : Option (Nat × Option Nat)}
    (success : self.buildWindow lance.toScanUpstream scanner = .ok (next, window)) : lance.Scoped next ids mask := by
  unfold LanceScanner.buildWindow at success
  split at success
  · obtain ⟨checked, accepted, success⟩ := bind_eq_ok.mp success
    have limited := documented.limit within accepted
    split at success
    · obtain ⟨cleared, reset, success⟩ := bind_eq_ok.mp success
      cases success
      exact documented.limit limited reset
    · cases success
      exact limited
  · cases success
    exact within

omit [Target] in
theorem applyFtsContext_scoped (documented : lance.Documented) (within : lance.Scoped scanner ids mask)
    {distributed : Option PreparedFtsExecution}
    (success : self.applyFtsContext lance scanner = .ok (next, distributed)) : lance.Scoped next ids mask := by
  unfold applyFtsContext at success
  split at success
  · cases success
    exact within
  · simp only [bind_eq_ok] at success
    obtain ⟨_, _, _, _, asked, accepted, success⟩ := success
    cases success
    exact documented.request within rfl accepted

end Scope

section Filters

variable {contents : Contents Value Row} {sqlTruth : String → Row → Truth} {substraitTruth : List Byte → Row → Truth}
  {scanner next : Scan}

/-- No filter lets every row pass. -/
def Admits (contents : Contents Value Row) (filter : Option Expr) (row : Row) : Prop :=
  ∀ expr ∈ filter, contents.filterTruth expr row = .yes

theorem mem_passing {filter : Option Expr} {row : Row} :
    row ∈ contents.passing (.ok filter) ↔ Admits contents filter row := by
  cases filter <;> simp [Contents.passing, Admits]

theorem additionalFilter_ok (resolves : lance.Resolves contents sqlTruth substraitTruth) {text : String} {filter : Expr}
    (success : additionalFilter lance scanner text = .ok filter) : contents.filterTruth filter = sqlTruth text := by
  unfold additionalFilter at success
  obtain ⟨asked, accepted, success⟩ := bind_eq_ok.mp success
  obtain ⟨resolved, given, success⟩ := bind_eq_ok.mp success
  obtain ⟨expr, rfl, means⟩ := resolves.sql (settled_eq_ok.mp accepted) (settled_eq_ok.mp given)
  cases success
  exact means

/-- The combined filter is TRUE where the one before it is and every further text. -/
theorem combineFilters_ok (resolves : lance.Resolves contents sqlTruth substraitTruth) {texts : List String}
    {combined result : Option Expr} (success : combineFilters lance scanner combined texts = .ok result) :
    (texts ≠ [] → result.isSome) ∧ ∀ row, Admits contents result row ↔
      Admits contents combined row ∧ ∀ text ∈ texts, sqlTruth text row = .yes := by
  induction texts generalizing combined with
  | nil =>
    cases success
    simp
  | cons text rest ih =>
    unfold combineFilters at success
    obtain ⟨additional, resolved, success⟩ := bind_eq_ok.mp success
    have means := additionalFilter_ok resolves resolved
    have continued (joined : Expr) (success : combineFilters lance scanner (some joined) rest = .ok result) :
        result.isSome := by
      cases rest with
      | nil =>
        cases success
        rfl
      | cons => exact (ih success).1 (by simp)
    split at success
    · rename_i existing
      refine ⟨fun _ => continued _ success, fun row => ?_⟩
      rw [(ih success).2, Admits, Admits]
      simp [resolves.conjunction, means, and_assoc]
    · refine ⟨fun _ => continued _ success, fun row => ?_⟩
      rw [(ih success).2, Admits, Admits]
      simp [means]

/-- The primary filter, where one is set, is the only one the scanner has. -/
theorem applyPrimaryFilter_ok (documented : lance.Documented)
    (resolves : lance.Resolves contents sqlTruth substraitTruth) {ids : List Nat} {mask : Option RowMask}
    (within : lance.Scoped scanner ids mask) (success : self.applyPrimaryFilter lance scanner = .ok next) :
    lance.fragmentIds next = ids ∧ lance.rowAddrPrefilter next = mask ∧
      ∀ given, lance.getExprFilter next = .ok given → ∀ row, Admits contents given row ↔
        (∀ bytes ∈ self.substraitFilter, substraitTruth bytes row = .yes) ∧
          (self.substraitFilter = none → ∀ text ∈ self.filter, sqlTruth text row = .yes) := by
  unfold applyPrimaryFilter at success
  split at success
  · rename_i substrait
    obtain ⟨sameIds, sameMask⟩ := documented.filtered rfl success
    refine ⟨sameIds.trans within.fragmentIds, sameMask.trans within.prefilter, fun given resolved row => ?_⟩
    obtain ⟨expr, rfl, means⟩ := resolves.substrait success resolved
    simp [Admits, substrait, means]
  · rename_i text substrait sql
    obtain ⟨sameIds, sameMask⟩ := documented.filtered rfl success
    refine ⟨sameIds.trans within.fragmentIds, sameMask.trans within.prefilter, fun given resolved row => ?_⟩
    obtain ⟨expr, rfl, means⟩ := resolves.sql success resolved
    simp [Admits, substrait, sql, means]
  · rename_i substrait sql
    cases success
    refine ⟨within.fragmentIds, within.prefilter, fun given resolved row => ?_⟩
    obtain rfl : none = given := Except.ok.inj (within.unfiltered.symm.trans resolved)
    simp [Admits, substrait, sql]

theorem applyFilter_ok (documented : lance.Documented) (resolves : lance.Resolves contents sqlTruth substraitTruth)
    {ids : List Nat} {mask : Option RowMask} (within : lance.Scoped scanner ids mask)
    (success : self.applyFilter lance scanner = .ok next) :
    lance.fragmentIds next = ids ∧ lance.rowAddrPrefilter next = mask ∧
      (self.additionalSqlFilters ≠ [] → ∃ given, lance.getExprFilter next = .ok given) ∧
      ∀ given, lance.getExprFilter next = .ok given → ∀ row, Admits contents given row ↔
        self.Passes sqlTruth substraitTruth row := by
  unfold applyFilter at success
  obtain ⟨primary, first, success⟩ := bind_eq_ok.mp success
  obtain ⟨sameIds, sameMask, means⟩ := applyPrimaryFilter_ok documented resolves within (settled_eq_ok.mp first)
  split at success
  · rename_i empty
    cases success
    refine ⟨sameIds, sameMask, fun further => absurd empty further, fun given resolved row => ?_⟩
    rw [means given resolved row]
    constructor
    · rintro ⟨substrait, sql⟩
      exact ⟨substrait, sql, by simp [empty]⟩
    · intro passes
      exact ⟨passes.substrait, passes.sql⟩
  · obtain ⟨base, resolved, success⟩ := bind_eq_ok.mp success
    rw [settled_eq_ok] at resolved
    obtain ⟨combined, joined, success⟩ := bind_eq_ok.mp success
    have conjoined := (combineFilters_ok resolves joined).2
    split at success
    · rename_i filter
      cases success
      have read := documented.filterExpr primary filter
      have sameFilter : lance.getExprFilter (lance.set primary (.filterExpr filter)) = .ok (some filter) :=
        congrArg Scalar.Scanner.filter read
      refine ⟨?_, ?_, fun _ => ⟨_, sameFilter⟩, fun given again row => ?_⟩
      · exact (congrArg Scalar.Scanner.fragmentIds read).trans sameIds
      · exact (congrArg Scalar.Scanner.rowAddrPrefilter read).trans sameMask
      · obtain rfl : some filter = given := Except.ok.inj (sameFilter.symm.trans again)
        rw [conjoined row, means base resolved row]
        constructor
        · rintro ⟨⟨substrait, sql⟩, additional⟩
          exact ⟨substrait, sql, additional⟩
        · intro passes
          exact ⟨⟨passes.substrait, passes.sql⟩, passes.additional⟩
    · cases success

end Filters

section Rows

variable [Target] {contents : Contents Value Row} {sqlTruth : String → Row → Truth}
  {substraitTruth : List Byte → Row → Truth} {prepared : PreparedScanner Scan}

omit [Target] in
theorem mem_readFragments {id : Nat} (stored : id ∈ self.dataset.value.fragments.map Fragment.id) :
    id ∈ self.readFragments ↔ ∀ ids ∈ self.fragmentIds, id ∈ ids := by
  unfold readFragments selectedFragments
  cases self.fragmentIds with
  | none => simpa using stored
  | some chosen =>
    obtain ⟨fragment, present, rfl⟩ := List.mem_map.mp stored
    simp only [Option.mem_def, Option.some.injEq, forall_eq', List.mem_map, List.mem_filter]
    constructor
    · rintro ⟨other, ⟨_, listed⟩, same⟩
      exact same ▸ List.contains_iff_mem.mp listed
    · intro listed
      exact ⟨fragment, ⟨present, List.contains_iff_mem.mpr listed⟩, rfl⟩

omit [Target] in
theorem mem_candidates_rowAddrMask (documented : lance.Documented) {row : Row} :
    row ∈ contents.candidates (self.rowAddrMask lance) ↔
      (∀ ids ∈ self.rowAddrAllowlist, contents.rowId row ∈ ids) ∧
        ∀ ids ∈ self.rowAddrBlocklist, contents.rowId row ∉ ids := by
  unfold rowAddrMask
  cases allow : self.rowAddrAllowlist <;> cases block : self.rowAddrBlocklist <;>
    simp [Contents.candidates, documented.fromAllowed, documented.fromBlock, documented.alsoBlock]

/-- What an accepted build has set of the rows. -/
theorem buildScanner_reader (documented : lance.Documented)
    (resolves : lance.Resolves contents sqlTruth substraitTruth) (success : self.buildScanner lance = .ok prepared) :
    lance.fragmentIds prepared.scanner = self.readFragments ∧
      lance.rowAddrPrefilter prepared.scanner = self.rowAddrMask lance ∧
      (self.additionalSqlFilters ≠ [] → ∃ given, lance.getExprFilter prepared.scanner = .ok given) ∧
      ∀ given, lance.getExprFilter prepared.scanner = .ok given → ∀ row, Admits contents given row ↔
        self.Passes sqlTruth substraitTruth row := by
  unfold buildScanner at success
  obtain ⟨columns, projected, success⟩ := bind_eq_ok.mp success
  obtain ⟨_, _, success⟩ := bind_eq_ok.mp success
  obtain ⟨⟨windowed, window⟩, limited, success⟩ := bind_eq_ok.mp success
  obtain ⟨searched, nearest, success⟩ := bind_eq_ok.mp success
  obtain ⟨⟨asked, distributed⟩, context, success⟩ := bind_eq_ok.mp success
  obtain ⟨filtered, filter, success⟩ := bind_eq_ok.mp success
  obtain ⟨segment, _, success⟩ := bind_eq_ok.mp success
  rw [settled_eq_ok] at projected limited nearest context
  cases success
  have opened := applyColumns_scoped documented (documented.fresh self.dataset) projected
  have tuned := setAll_scoped documented (buildWindow_scoped documented opened limited)
    (tuningOptions_plain self)
  have scanned := applyFtsContext_scoped documented (applySearch_scoped documented tuned nearest) context
  obtain ⟨sameIds, sameMask, settled, means⟩ := applyFilter_ok documented resolves scanned filter
  have read : lance.reader (setAll lance filtered
      (self.scanStatisticsCallback.map fun callback => .scanStatsCallback (.send callback)).toList) =
      lance.reader filtered := by
    cases self.scanStatisticsCallback with
    | none => rfl
    | some callback => exact documented.callback filtered (.send callback)
  have sameFilter := congrArg Scalar.Scanner.filter read
  refine ⟨(congrArg Scalar.Scanner.fragmentIds read).trans sameIds,
    (congrArg Scalar.Scanner.rowAddrPrefilter read).trans sameMask, fun further => ?_, fun given resolved => ?_⟩
  · obtain ⟨given, resolved⟩ := settled further
    exact ⟨given, sameFilter.trans resolved⟩
  · exact means given (sameFilter.symm.trans resolved)

theorem prepared_rowsRead (documented : lance.Documented)
    (resolves : lance.Resolves contents sqlTruth substraitTruth)
    (stored : ∀ row, contents.fragment row ∈ self.dataset.value.fragments.map Fragment.id)
    (success : self.buildScanner lance = .ok prepared) {given : Option Expr}
    (resolved : lance.getExprFilter prepared.scanner = .ok given) :
    contents.rowsRead (lance.reader prepared.scanner) =
      {row | self.Requested contents sqlTruth substraitTruth row} := by
  obtain ⟨sameIds, sameMask, _, means⟩ := buildScanner_reader documented resolves success
  ext row
  rw [Contents.rowsRead, Set.mem_inter_iff, Set.mem_inter_iff]
  show (contents.fragment row ∈ lance.fragmentIds prepared.scanner ∧
    row ∈ contents.passing (lance.getExprFilter prepared.scanner)) ∧
      row ∈ contents.candidates (lance.rowAddrPrefilter prepared.scanner) ↔ _
  rw [sameIds, sameMask, resolved, mem_passing, means given resolved, mem_candidates_rowAddrMask documented,
    mem_readFragments (stored row)]
  constructor
  · rintro ⟨⟨fragments, passes⟩, allowed, blocked⟩
    exact ⟨fragments, allowed, blocked, passes⟩
  · intro requested
    exact ⟨⟨requested.fragments, requested.passes⟩, requested.allowed, requested.blocked⟩

/-- The scanner an accepted build hands over reads the rows that were asked for, once its
filter resolves; with an additional filter that has been settled by the build. -/
theorem buildScanner_rowsRead (documented : lance.Documented)
    (resolves : lance.Resolves contents sqlTruth substraitTruth)
    (stored : ∀ row, contents.fragment row ∈ self.dataset.value.fragments.map Fragment.id)
    (success : self.buildScanner lance = .ok prepared) :
    (self.additionalSqlFilters ≠ [] → ∃ given, lance.getExprFilter prepared.scanner = .ok given) ∧
      ∀ given, lance.getExprFilter prepared.scanner = .ok given →
        contents.rowsRead (lance.reader prepared.scanner) =
          {row | self.Requested contents sqlTruth substraitTruth row} := by
  obtain ⟨_, _, settled, _⟩ := buildScanner_reader documented resolves success
  refine ⟨settled, ?_⟩
  intro given resolved
  exact prepared_rowsRead documented resolves stored success resolved

end Rows

section Sample

/-- A scanner of Lance as the record of what it reads, with its window. -/
structure SampleScan where
  reader : Scalar.Scanner
  window : Option Int × Option Int

def samplePlainLimit (scan : SampleScan) (limit offset : Option Int) : Except LanceError SampleScan :=
  match LanceScanner.sampleLance.limit scan.window limit offset with
  | .ok window => .ok { scan with window }
  | .error error => .error error

def SampleScan.set (scan : SampleScan) : ScanOption → SampleScan
  | .withFragments fragments => { scan with reader.fragmentIds := fragments.map Fragment.id }
  | .withRowAddrPrefilter mask => { scan with reader.rowAddrPrefilter := some mask }
  | .filterExpr filter => { scan with reader.filter := .ok (some filter) }
  | _ => scan

def SampleScan.request (scan : SampleScan) : ScanRequest → Except LanceError SampleScan
  | .filter sql => .ok { scan with reader.filter := .ok (some (.other sql [.column "key"])) }
  | .filterSubstrait _ => .ok { scan with reader.filter := .ok (some (.column "substrait")) }
  | _ => .ok scan

def sampleScans : ScannerUpstream SampleScan where
  limit := samplePlainLimit
  window := SampleScan.window
  scan dataset := ⟨⟨dataset.value.fragments.map Fragment.id, .ok none, none⟩, none, none⟩
  set := SampleScan.set
  request := SampleScan.request
  getExprFilter scan := scan.reader.filter
  fromAllowed ids := ⟨ids.contains, some ids.length⟩
  fromBlock ids := ⟨(!ids.contains ·), none⟩
  alsoBlock mask ids := ⟨fun id => mask.selected id && !ids.contains id, mask.maxLen⟩
  fragmentIds scan := scan.reader.fragmentIds
  rowAddrPrefilter scan := scan.reader.rowAddrPrefilter

theorem sampleScans_documented : sampleScans.Documented where
  window := by
    constructor
    · intro scanner next limit offset accepted
      simp only [sampleScans, samplePlainLimit] at accepted
      split at accepted
      · rename_i checked
        exact LanceScanner.sampleLance_documented.nonneg checked
      · cases accepted
    · intro scanner next limit offset accepted
      simp only [sampleScans, samplePlainLimit] at accepted
      split at accepted
      · rename_i checked
        cases accepted
        exact LanceScanner.sampleLance_documented.stored checked
      · cases accepted
  fresh _ := ⟨rfl, rfl, rfl⟩
  plain within option rowsKept := by
    cases option with
    | withFragments | withRowAddrPrefilter | filterExpr => cases rowsKept
    | _ => exact ⟨within.fragmentIds, within.prefilter, within.unfiltered⟩
  withFragments _ _ := rfl
  withRowAddrPrefilter _ _ := rfl
  limit within _ _ accepted := by
    simp only [sampleScans, samplePlainLimit] at accepted
    split at accepted
    · cases accepted
      exact ⟨within.fragmentIds, within.prefilter, within.unfiltered⟩
    · cases accepted
  request within request noFilter accepted := by
    cases request with
    | filter | filterSubstrait => cases noFilter
    | _ =>
      cases accepted
      exact within
  filtered {_ _ request} isFilter accepted := by
    cases request with
    | filter | filterSubstrait =>
      cases accepted
      exact ⟨rfl, rfl⟩
    | _ => cases isFilter
  filterExpr _ _ := rfl
  useScalarIndex _ _ := rfl
  callback _ _ := rfl
  fromAllowed ids id := List.contains_iff_mem
  fromBlock ids id := by simp [sampleScans]
  alsoBlock mask ids id := by simp [sampleScans]

/-- Texts over a number; every other text is of no known truth. -/
def sampleTruth : String → Nat → Truth
  | "key > 3", row => if 3 < row then .yes else .no
  | "key < 8", row => if row < 8 then .yes else .no
  | "key = 15", row => if row = 15 then .yes else .no
  | _, _ => .unknown

def sampleExprTruth : Expr → Nat → Truth
  | .other "AND" [left, right], row => (sampleExprTruth left row).and (sampleExprTruth right row)
  | .other text _, row => sampleTruth text row
  | _, _ => .unknown

/-- Row `n` has id `n`, and the first ten are in fragment 0. -/
def sampleRows : Contents Nat Nat where
  fragment row := if row < 10 then 0 else 1
  rowId row := row
  rowAddr row := row
  filterTruth := sampleExprTruth
  leafTruth _ _ := .unknown

theorem sampleScans_resolves : sampleScans.Resolves sampleRows sampleTruth fun _ _ => .unknown where
  sql accepted given := by
    cases accepted
    cases given
    exact ⟨_, rfl, funext fun row => by simp [sampleRows, sampleExprTruth]⟩
  substrait accepted given := by
    cases accepted
    cases given
    exact ⟨_, rfl, funext fun row => by simp [sampleRows, sampleExprTruth]⟩
  conjunction existing additional row := by simp [sampleRows, conjunction, sampleExprTruth]

def sampleTable : Arc Dataset :=
  ⟨1, "memory://numbers", 1, [⟨0, some 10, []⟩, ⟨1, some 10, []⟩], ⟨[]⟩, .v2, false, none⟩

/-- The first fragment without row 5, between the two bounds. -/
def sampleOptions : List OptionSetter :=
  [.fragmentIds (some [0, 7]) 2, .rowAddrList (some [5]) 1 .block, .additionalSqlFilter (.text "key < 8")]

theorem buildScanner_rowsRead_sample :
    letI := target64
    let self := (new sampleTable none (some "key > 3")).run LanceScanner.sampleFields sampleOptions
    ∃ prepared given, self.buildScanner sampleScans = .ok prepared ∧
      sampleScans.getExprFilter prepared.scanner = .ok given ∧
      sampleRows.rowsRead (sampleScans.reader prepared.scanner) =
        {row | self.Requested sampleRows sampleTruth (fun _ _ => .unknown) row} := by
  let _ := target64
  intro self
  have stored (row : Nat) : sampleRows.fragment row ∈ self.dataset.value.fragments.map Fragment.id := by
    show (if row < 10 then 0 else 1) ∈ [0, 1]
    split <;> simp
  have built : ∃ prepared, self.buildScanner sampleScans = .ok prepared := ⟨_, rfl⟩
  obtain ⟨prepared, success⟩ := built
  obtain ⟨settled, rows⟩ := buildScanner_rowsRead sampleScans_documented sampleScans_resolves stored success
  have further : self.additionalSqlFilters ≠ [] := by
    show ["key < 8"] ≠ []
    simp
  obtain ⟨given, resolved⟩ := settled further
  exact ⟨prepared, given, success, resolved, rows given resolved⟩

end Sample

end ScannerHandle

end LanceC.Scanner
