import LanceC.Logic.Except
import LanceC.Scanner.Builder

/-! However the builder's calls are ordered, the options it ends up with agree
with each other. -/

namespace LanceC.Scanner

open Ffi Fts Logic Machine

/-- What a nearest query keeps, also against the options set after it. -/
structure NearestQuery.Valid (query : NearestQuery) (limit offset : Option Int)
    (refineFactor : Option Nat) : Prop where
  positive : 1 ≤ query.k
  bounded : ∀ bound, query.lowerBound = some bound ∨ query.upperBound = some bound →
    query.mode = .single ∧ bound.isFinite = true
  ordered : ∀ lower upper, query.lowerBound = some lower → query.upperBound = some upper →
    ∃ low high, lower.number = some low ∧ upper.number = some high ∧ low < high
  batch : ∀ numQueries, query.mode = .batch numQueries →
    limit = none ∧ offset = none ∧ 1 ≤ numQueries ∧ numQueries ≤ 128 ∧ query.query.numVectors = numQueries ∧
      refineFactor ≠ some 0 ∧ numQueries * query.k * refineFactor.getD 1 ≤ 100000 ∧
      query.query.values.byteSize ≤ 64 * 1024 * 1024
  multiVector : query.mode = .multiVector →
    1 ≤ query.query.numVectors ∧ query.query.numVectors ≤ 128 ∧ query.query.numVectors * query.k ≤ 100000

structure NprobesRange.Valid (range : NprobesRange) : Prop where
  minimum : ∀ minimum, range.minimum = some minimum → 1 ≤ minimum
  maximum : ∀ maximum, range.maximum = some maximum → 1 ≤ maximum
  ordered : ∀ minimum maximum, range.minimum = some minimum → range.maximum = some maximum → minimum ≤ maximum

structure LanceScanner.Valid (scanner : LanceScanner) : Prop where
  /-- Vector search and either form of full-text search exclude each other. -/
  exclusive : scanner.nearest.isSome → scanner.ftsQuery = none ∧ scanner.ftsContext = none
  oneQuery : scanner.ftsQuery.isSome → scanner.ftsContext = none
  nearest : ∀ query, scanner.nearest = some query →
    query.Valid scanner.limit scanner.offset scanner.refineFactor
  nprobes : scanner.nprobes.Valid
  batchBytes : ∀ bytes, scanner.batchSizeBytes = some bytes → 1 ≤ bytes ∧ scanner.strictBatchSize ≠ some true

section Nprobes

variable {range next : NprobesRange} {nprobes : Nat}

theorem NprobesRange.exact_valid (success : NprobesRange.exact nprobes = .ok next) : next.Valid := by
  unfold NprobesRange.exact at success
  split at success
  · cases success
  · cases success
    constructor <;> simp <;> omega

theorem NprobesRange.withMinimum_valid (valid : range.Valid) (success : range.withMinimum nprobes = .ok next) :
    next.Valid := by
  unfold NprobesRange.withMinimum at success
  split at success
  · cases success
  · rename_i positive
    split at success
    · rename_i maximum known
      split at success
      · cases success
      · rename_i within
        cases success
        refine ⟨by simp; omega, valid.maximum, ?_⟩
        intro minimum other low high
        have sameLow : nprobes = minimum := Option.some.inj low
        have sameHigh : maximum = other := Option.some.inj (known.symm.trans high)
        omega
    · rename_i unset
      cases success
      exact ⟨by simp; omega, valid.maximum, by simp [unset]⟩

theorem NprobesRange.withMaximum_valid (valid : range.Valid) (success : range.withMaximum nprobes = .ok next) :
    next.Valid := by
  unfold NprobesRange.withMaximum at success
  split at success
  · cases success
  · rename_i positive
    split at success
    · rename_i minimum known
      split at success
      · cases success
      · rename_i within
        cases success
        refine ⟨valid.minimum, by simp; omega, ?_⟩
        intro other maximum low high
        have sameLow : minimum = other := Option.some.inj (known.symm.trans low)
        have sameHigh : nprobes = maximum := Option.some.inj high
        omega
    · rename_i unset
      cases success
      exact ⟨valid.minimum, by simp; omega, by simp [unset]⟩

end Nprobes

namespace LanceScanner

variable {self next : LanceScanner}

theorem new_valid (dataset : Arc Dataset) : (new dataset).Valid := by
  constructor <;> simp [new]
  constructor <;> simp [NprobesRange.default]

theorem startScan_valid (valid : self.Valid) : self.startScan.Valid :=
  ⟨valid.exclusive, valid.oneQuery, valid.nearest, valid.nprobes, valid.batchBytes⟩

/-- Replacing the search by a nearest query that fits the options already set. -/
theorem Valid.withNearest (valid : self.Valid) {query : NearestQuery}
    (noText : ¬(self.ftsQuery.isSome = true ∨ self.ftsContext.isSome = true))
    (fits : query.Valid self.limit self.offset self.refineFactor) :
    { self with nearest := some query }.Valid := by
  have absent : self.ftsQuery = none ∧ self.ftsContext = none := by simpa [not_or] using noText
  refine ⟨fun _ => absent, valid.oneQuery, ?_, valid.nprobes, valid.batchBytes⟩
  intro other same
  cases same
  exact fits

theorem mode_of_not_batch (plain : ¬self.isBatchNearest = true) {query : NearestQuery}
    (current : self.nearest = some query) (numQueries : Nat) : query.mode ≠ .batch numQueries := by
  intro batch
  apply plain
  obtain ⟨mode, column, values, k, lower, upper⟩ := query
  cases batch
  simp [isBatchNearest, current]

/-- A global window is only ever set outside of batch mode. -/
theorem Valid.withWindow (valid : self.Valid) (plain : ¬self.isBatchNearest = true) (limit offset : Option Int) :
    { self with limit, offset }.Valid := by
  refine ⟨valid.exclusive, valid.oneQuery, fun query current => ?_, valid.nprobes, valid.batchBytes⟩
  have old := valid.nearest query current
  exact ⟨old.positive, old.bounded, old.ordered,
    fun numQueries batch => absurd batch (mode_of_not_batch plain current numQueries), old.multiVector⟩

theorem setLimit_valid (valid : self.Valid) {limit : Int} (success : self.setLimit limit = .ok next) :
    next.Valid := by
  unfold setLimit at success
  split at success
  · cases success
  · rename_i plain
    cases success
    exact valid.withWindow plain (some limit) self.offset

theorem setOffset_valid (valid : self.Valid) {offset : Int} (success : self.setOffset offset = .ok next) :
    next.Valid := by
  unfold setOffset at success
  split at success
  · cases success
  · rename_i plain
    cases success
    exact valid.withWindow plain self.limit (some offset)

theorem setBatchSizeBytes_valid (valid : self.Valid) {batchSizeBytes : Nat}
    (success : self.setBatchSizeBytes batchSizeBytes = .ok next) : next.Valid := by
  unfold setBatchSizeBytes at success
  simp only [bind_eq_ok, refuseIf_ok] at success
  obtain ⟨_, positive, _, _, _, loose, success⟩ := success
  cases success
  refine ⟨valid.exclusive, valid.oneQuery, valid.nearest, valid.nprobes, ?_⟩
  intro bytes same
  cases same
  exact ⟨by omega, loose⟩

theorem setStrictBatchSize_valid (valid : self.Valid) {strict : Bool}
    (success : self.setStrictBatchSize strict = .ok next) : next.Valid := by
  unfold setStrictBatchSize at success
  obtain ⟨_, _, success⟩ := bind_eq_ok.mp success
  split at success
  · cases success
  · rename_i allowed
    cases success
    refine ⟨valid.exclusive, valid.oneQuery, valid.nearest, valid.nprobes, ?_⟩
    intro bytes same
    refine ⟨(valid.batchBytes bytes same).1, fun forced => ?_⟩
    exact allowed bytes (Option.some.inj forced) same

theorem setNprobes_valid (valid : self.Valid) {nprobes : Nat} (success : self.setNprobes nprobes = .ok next) :
    next.Valid := by
  simp only [setNprobes, bind_eq_ok] at success
  obtain ⟨_, _, range, exact_range, success⟩ := success
  cases success
  exact ⟨valid.exclusive, valid.oneQuery, valid.nearest, NprobesRange.exact_valid exact_range, valid.batchBytes⟩

theorem setMinimumNprobes_valid (valid : self.Valid) {nprobes : Nat}
    (success : self.setMinimumNprobes nprobes = .ok next) : next.Valid := by
  simp only [setMinimumNprobes, bind_eq_ok] at success
  obtain ⟨_, _, range, raised, success⟩ := success
  cases success
  exact ⟨valid.exclusive, valid.oneQuery, valid.nearest,
    NprobesRange.withMinimum_valid valid.nprobes raised, valid.batchBytes⟩

theorem setMaximumNprobes_valid (valid : self.Valid) {nprobes : Nat}
    (success : self.setMaximumNprobes nprobes = .ok next) : next.Valid := by
  simp only [setMaximumNprobes, bind_eq_ok] at success
  obtain ⟨_, _, range, lowered, success⟩ := success
  cases success
  exact ⟨valid.exclusive, valid.oneQuery, valid.nearest,
    NprobesRange.withMaximum_valid valid.nprobes lowered, valid.batchBytes⟩

/-- The refine factor is checked against a batch query, and free otherwise. -/
theorem setRefineFactor_valid [Target] (valid : self.Valid) {value : Nat}
    (success : self.setRefineFactor value = .ok next) : next.Valid := by
  unfold setRefineFactor at success
  split at success
  · rename_i numQueries column query k lower upper current
    simp only [bind_eq_ok] at success
    obtain ⟨_, _, _, accepted, success⟩ := success
    cases success
    obtain ⟨positive, bounded⟩ := validateBatchCandidates_ok accepted
    refine ⟨valid.exclusive, valid.oneQuery, fun other same => ?_, valid.nprobes, valid.batchBytes⟩
    have old := valid.nearest other same
    refine ⟨old.positive, old.bounded, old.ordered, fun n batch => ?_, old.multiVector⟩
    obtain ⟨noLimit, noOffset, low, high, shape, _, _, size⟩ := old.batch n batch
    cases Option.some.inj (current.symm.trans same)
    cases batch
    exact ⟨noLimit, noOffset, low, high, shape, positive, bounded, size⟩
  · rename_i plain
    cases success
    refine ⟨valid.exclusive, valid.oneQuery, fun query current => ?_, valid.nprobes, valid.batchBytes⟩
    have old := valid.nearest query current
    refine ⟨old.positive, old.bounded, old.ordered, fun n batch => ?_, old.multiVector⟩
    obtain ⟨mode, column, values, k, lower, upper⟩ := query
    cases batch
    exact absurd current (plain n column values k lower upper)

theorem checkFinite_ok {name : String} {bound : Option Float32Value} {done : Unit}
    (success : checkFinite name bound = .ok done) : ∀ value, bound = some value → value.isFinite = true := by
  intro value same
  subst same
  simp only [checkFinite] at success
  split at success
  · cases success
  · rename_i finite
    simpa using finite

/-- For finite bounds, `lower >= upper` failing is `lower < upper`. -/
theorem Float32Value.lt_of_not_ge {lower upper : Float32Value} (low : lower.isFinite = true)
    (high : upper.isFinite = true) (ordered : ¬lower.ge upper = true) :
    ∃ least most, lower.number = some least ∧ upper.number = some most ∧ least < most := by
  obtain ⟨least, known⟩ := Option.isSome_iff_exists.mp low
  obtain ⟨most, known'⟩ := Option.isSome_iff_exists.mp high
  refine ⟨least, most, known, known', ?_⟩
  simpa [Float32Value.ge, known, known'] using ordered

theorem setDistanceRange_valid (valid : self.Valid) {lower upper : Option Float32Value}
    (success : self.setDistanceRange lower upper = .ok next) : next.Valid := by
  unfold setDistanceRange at success
  obtain ⟨_, _, success⟩ := bind_eq_ok.mp success
  split at success
  · cases success
  · rename_i query current
    simp only [bind_eq_ok, refuseIf_ok, ne_eq, Classical.not_not] at success
    obtain ⟨_, single, _, lowFinite, _, highFinite, success⟩ := success
    have bounded : ∀ bound, lower = some bound ∨ upper = some bound →
        query.mode = .single ∧ bound.isFinite = true := by
      intro bound given
      refine ⟨single, ?_⟩
      rcases given with low | high
      · exact checkFinite_ok lowFinite bound low
      · exact checkFinite_ok highFinite bound high
    have fits (ordered : ∀ low high, lower = some low → upper = some high →
        ∃ least most, low.number = some least ∧ high.number = some most ∧ least < most) :
        { self with nearest := some { query with lowerBound := lower, upperBound := upper } }.Valid := by
      have old := valid.nearest query current
      refine ⟨fun _ => valid.exclusive (by simp [current]), valid.oneQuery, ?_, valid.nprobes, valid.batchBytes⟩
      intro other same
      cases same
      exact ⟨old.positive, bounded, ordered, old.batch, old.multiVector⟩
    split at success
    · rename_i low high _
      simp only [bind_eq_ok, refuseIf_ok] at success
      obtain ⟨_, ordered, success⟩ := success
      cases success
      refine fits fun one two same same' => ?_
      cases same
      cases same'
      exact Float32Value.lt_of_not_ge (bounded low (.inl rfl)).2 (bounded high (.inr rfl)).2 ordered
    · rename_i unpaired
      cases success
      exact fits fun one two same same' => absurd same' (unpaired one two same)

theorem nearestInner_valid (valid : self.Valid) {column : CString} {queryData : QueryData} {queryLen k : Nat}
    {elementType : Int} (success : self.nearestInner column queryData queryLen elementType k = .ok next) :
    next.Valid := by
  simp only [nearestInner, bind_eq_ok, refuseIf_ok] at success
  obtain ⟨_, _, _, positive, _, noText, name, _, values, _, success⟩ := success
  cases success
  refine valid.withNearest noText ⟨by simp; omega, ?_, ?_, ?_, ?_⟩ <;> simp

theorem nearestBatchInner_valid [Target] {upstream : Upstream} (valid : self.Valid) {column : CString}
    {queryData : QueryData} {dimension numQueries k : Nat} {elementType : Int}
    (success : self.nearestBatchInner upstream column queryData dimension numQueries elementType k = .ok next) :
    next.Valid := by
  simp only [nearestBatchInner, bind_eq_ok, refuseIf_ok] at success
  obtain ⟨_, _, _, _, _, sizes, _, count, _, noText, _, noWindow, _, candidates, success⟩ := success
  split at success
  · rename_i dataType known
    simp only [bind_eq_ok, refuseIf_ok] at success
    obtain ⟨total, sized, name, _, _, _, values, decoded, _, _, success⟩ := success
    cases success
    obtain ⟨sameType, length⟩ := decodeQueryValues_ok decoded
    obtain ⟨same, bytes⟩ := batchQueryValueCount_ok sized
    obtain ⟨refine_pos, bounded⟩ := validateBatchCandidates_ok candidates
    have sameType : dataType = values.elementType := Option.some.inj (known.symm.trans sameType)
    have window : self.limit = none ∧ self.offset = none := by simpa [not_or] using noWindow
    have positive : 0 < dimension ∧ 0 < k := by omega
    have inside : 1 ≤ numQueries ∧ numQueries ≤ 128 := by
      simp only [maxBatchQueries] at count
      omega
    refine valid.withNearest noText ⟨positive.2, by simp, by simp, ?_, by simp⟩
    intro n batch
    cases batch
    refine ⟨window.1, window.2, inside.1, inside.2, ?_, refine_pos, bounded, ?_⟩
    · simp only [QueryArray.numVectors, length, same]
      exact Nat.mul_div_cancel_left numQueries positive.1
    · simpa [QueryArray.values, PrimitiveArray.byteSize, length, ← sameType, maxBatchQueryBytes] using bytes
  · cases success

theorem nearestMultivectorInner_valid [Target] {upstream : Upstream} (valid : self.Valid) {column : CString}
    {queryData : QueryData} {dimension numVectors k : Nat} {elementType : Int}
    (success : self.nearestMultivectorInner upstream column queryData dimension numVectors elementType k = .ok next) :
    next.Valid := by
  simp only [nearestMultivectorInner, bind_eq_ok, refuseIf_ok] at success
  obtain ⟨_, _, _, sizes, _, count, success⟩ := success
  split at success
  · rename_i dataType known
    split at success
    · rename_i total counted
      simp only [bind_eq_ok, refuseIf_ok] at success
      obtain ⟨_, noText, name, _, _, _, values, decoded, _, _, success⟩ := success
      cases success
      obtain ⟨product, _⟩ := checkedMul_eq_some.mp (Option.filter_eq_some_iff.mp counted).1
      have positive : 0 < dimension ∧ 0 < k := by omega
      have vectors : (QueryArray.fixedSizeList dimension values).numVectors = numVectors := by
        simp only [QueryArray.numVectors, (decodeQueryValues_ok decoded).2, product]
        exact Nat.mul_div_cancel_left numVectors positive.1
      have within : numVectors ≤ maxQueryVectors ∧ numVectors ≤ maxQueryVectorCandidates / k := by omega
      refine valid.withNearest noText ⟨positive.2, by simp, by simp, by simp, fun _ => ?_⟩
      simp only [vectors]
      refine ⟨by omega, within.1, ?_⟩
      -- The division bounds the product, which the code never forms.
      calc numVectors * k ≤ maxQueryVectorCandidates / k * k := Nat.mul_le_mul_right k within.2
        _ ≤ maxQueryVectorCandidates := Nat.div_mul_le_self ..
    · cases success
  · cases success

theorem ftsInner_valid {upstream : Upstream} (valid : self.Valid) {query : CString}
    {columns : Option (List CString)} {maxFuzzyDistance : Nat}
    (success : self.ftsInner upstream query columns maxFuzzyDistance = .ok next) : next.Valid := by
  simp only [ftsInner, bind_eq_ok, refuseIf_ok] at success
  obtain ⟨_, _, _, noNearest, _, noContext, terms, _, columns, _, success⟩ := success
  have stored (fts : FullTextSearchQuery) : { self with ftsQuery := some fts }.Valid :=
    ⟨fun searching => absurd searching noNearest, fun _ => by simpa using noContext, valid.nearest,
      valid.nprobes, valid.batchBytes⟩
  split at success
  · obtain ⟨fts, _, success⟩ := bind_eq_ok.mp success
    cases success
    exact stored fts
  · cases success
    exact stored _

theorem setFtsQueryContext_valid (valid : self.Valid) {context : Option FtsQueryContextInner}
    (success : self.setFtsQueryContext context = .ok next) : next.Valid := by
  simp only [setFtsQueryContext, bind_eq_ok, refuseIf_ok] at success
  obtain ⟨inner, _, _, noNearest, _, noQuery, _, _, success⟩ := success
  cases success
  exact ⟨fun searching => absurd searching noNearest, fun querying => absurd querying noQuery, valid.nearest,
    valid.nprobes, valid.batchBytes⟩

variable [Target] {upstream : Upstream}

theorem set_valid (valid : self.Valid) {setter : Setter} (success : self.set upstream setter = .ok next) :
    next.Valid := by
  cases setter with
  | limit => exact setLimit_valid valid success
  | offset => exact setOffset_valid valid success
  | batchSizeBytes => exact setBatchSizeBytes_valid valid success
  | strictBatchSize => exact setStrictBatchSize_valid valid success
  | nprobes => exact setNprobes_valid valid success
  | minimumNprobes => exact setMinimumNprobes_valid valid success
  | maximumNprobes => exact setMaximumNprobes_valid valid success
  | refineFactor => exact setRefineFactor_valid valid success
  | distanceRange => exact setDistanceRange_valid valid success
  | nearest => exact nearestInner_valid valid success
  | nearestBatch => exact nearestBatchInner_valid valid success
  | nearestMultivector => exact nearestMultivectorInner_valid valid success
  | fullTextSearch => exact ftsInner_valid valid success
  | ftsQueryContext => exact setFtsQueryContext_valid valid success
  | startScan =>
    cases success
    exact startScan_valid valid

theorem call_valid (valid : self.Valid) (setter : Setter) : (self.call upstream setter).Valid := by
  unfold call
  split
  · rename_i success
    exact set_valid valid success
  · exact valid

/-- Every sequence of calls, failing ones among them, leaves the options consistent. -/
theorem run_valid (dataset : Arc Dataset) (calls : List Setter) :
    ((new dataset).run upstream calls).Valid :=
  List.foldlRecOn calls _ (new_valid dataset) fun _ valid setter _ => call_valid valid setter

end LanceScanner

end LanceC.Scanner
