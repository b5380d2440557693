import LanceC.Logic.Except
import LanceC.Logic.Extremum
import LanceC.Multivector.IndexedBatch
import Mathlib.Algebra.BigOperators.Group.List.Basic
import Mathlib.Algebra.Ring.Rat

/-! The incremental merge of indexed candidates is the sum, over the queries,
of each row's least distance or of the query's charge for rows it lacks. -/

namespace LanceC.Multivector

open Logic

section Score

/-- The candidates of one query in any order: row ids with their distances. -/
abbrev Pairs := List (Nat × ℚ)

def least (pairs : Pairs) (id : Nat) : Option ℚ :=
  ((pairs.filter (·.1 = id)).map Prod.snd).min?

/-- The charge for a row absent from the query. -/
def penalty (pairs : Pairs) : ℚ := ((pairs.map Prod.snd).max?).getD 1

def share (pairs : Pairs) (id : Nat) : ℚ := (least pairs id).getD (penalty pairs)

def maxSim (queries : List Pairs) (id : Nat) : ℚ := (queries.map (share · id)).sum

theorem least_isSome {pairs : Pairs} {id : Nat} : (least pairs id).isSome ↔ id ∈ pairs.map Prod.fst := by
  rw [Option.isSome_iff_ne_none, least, ne_eq, List.min?_eq_none_iff]
  simp [List.filter_eq_nil_iff]

theorem share_perm {pairs other : Pairs} (perm : pairs.Perm other) (id : Nat) :
    share pairs id = share other id := by
  unfold share least penalty
  rw [min?_perm ((perm.filter _).map _), max?_perm (perm.map _)]

theorem maxSim_perm {queries other : List Pairs} (perm : queries.Perm other) (id : Nat) :
    maxSim queries id = maxSim other id :=
  (perm.map _).sum_eq

theorem maxSim_congr {queries other : List Pairs} (same : List.Forall₂ List.Perm queries other) (id : Nat) :
    maxSim queries id = maxSim other id := by
  induction same with
  | nil => rfl
  | cons perm _ ih =>
    simp only [maxSim, List.map_cons, List.sum_cons] at ih ⊢
    rw [share_perm perm, ih]

end Score

section Rows

/-- A row with an id and a finite distance. -/
def validRow : Option Nat × Option Distance → Option (Nat × ℚ)
  | (some id, some (.finite distance)) => some (id, distance)
  | _ => none

def RecordBatch.rows (batch : RecordBatch) : List (Option Nat × Option Distance) :=
  match batch.rowIds, batch.distances with
  | some ids, some distances => (List.finRange batch.numRows).map fun i => (ids i, distances i)
  | _, _ => []

/-- All rows of a stream, in the order they arrive. -/
def streamRows (input : RecordBatchStream) : List (Option Nat × Option Distance) :=
  input.flatMap fun
    | .ok batch => batch.rows
    | .error _ => []

def candidates (input : RecordBatchStream) : Pairs := (streamRows input).filterMap validRow

/-- The stream yields no error, and both columns are there in every batch. -/
def Carried (input : RecordBatchStream) : Prop :=
  ∀ next ∈ input, ∃ batch, next = .ok batch ∧ batch.rowIds.isSome ∧ batch.distances.isSome

/-- The loop variables after the given candidates. -/
structure Candidates.Reduces (query : Candidates) (pairs : Pairs) : Prop where
  rows : ∀ id, query.rows.lookup id = least pairs id
  maximum : query.maximum = (pairs.map Prod.snd).max?

theorem Candidates.reduces_nil : Candidates.Reduces ⟨∅, none⟩ [] :=
  ⟨fun _ => rfl, rfl⟩

theorem Candidates.accept_reduces {query next : Candidates} {pairs : Pairs} (current : query.Reduces pairs)
    {id : Option Nat} {distance : Option Distance} (accepted : query.accept id distance = .ok next) :
    ∃ pair, validRow (id, distance) = some pair ∧ next.Reduces (pairs ++ [pair]) := by
  unfold Candidates.accept at accepted
  split at accepted
  · rename_i id distance
    cases accepted
    refine ⟨(id, distance), rfl, ?_, ?_⟩
    · intro other
      rw [HashMap.lookup_upsert, current.rows]
      by_cases same : other = id
      · subst same
        simp [least, List.filter_append, min?_concat]
      · simp [least, List.filter_append, same, Ne.symm same, current.rows]
    · simp [max?_concat, current.maximum]
  · cases accepted

theorem Candidates.accept_isOk (query : Candidates) (id : Option Nat) (distance : Option Distance) :
    (∃ next, query.accept id distance = .ok next) ↔ (validRow (id, distance)).isSome := by
  rcases id with _ | id <;> rcases distance with _ | _ | _ <;> simp [Candidates.accept, validRow]

theorem acceptRows_reduces {rows : List (Option Nat × Option Distance)} {query next : Candidates}
    {pairs : Pairs} (current : query.Reduces pairs)
    (accepted : rows.foldlM (fun query row => query.accept row.1 row.2) query = .ok next) :
    (∀ row ∈ rows, (validRow row).isSome) ∧ next.Reduces (pairs ++ rows.filterMap validRow) := by
  induction rows generalizing query pairs with
  | nil =>
    cases accepted
    simpa using current
  | cons row rest ih =>
    rw [List.foldlM_cons] at accepted
    obtain ⟨middle, first, accepted⟩ := bind_eq_ok.mp accepted
    obtain ⟨pair, valid, reduced⟩ := Candidates.accept_reduces current first
    obtain ⟨others, done⟩ := ih reduced accepted
    refine ⟨List.forall_mem_cons.mpr ⟨by simp [valid], others⟩, ?_⟩
    simpa [List.filterMap_cons, valid] using done

/-- A batch that has both columns contributes its rows one by one. -/
theorem Candidates.acceptBatch_eq (query : Candidates) {batch : RecordBatch}
    (ids : batch.rowIds.isSome) (distances : batch.distances.isSome) :
    query.acceptBatch batch = batch.rows.foldlM (fun query row => query.accept row.1 row.2) query := by
  obtain ⟨numRows, _ | ids, _ | distances⟩ := batch
  · cases ids
  · cases ids
  · cases distances
  · simp only [Candidates.acceptBatch, RecordBatch.rows, List.foldlM_map]

theorem Candidates.acceptBatch_columns {query next : Candidates} {batch : RecordBatch}
    (accepted : query.acceptBatch batch = .ok next) : batch.rowIds.isSome ∧ batch.distances.isSome := by
  obtain ⟨numRows, _ | ids, _ | distances⟩ := batch
  · cases accepted
  · cases accepted
  · cases accepted
  · exact ⟨rfl, rfl⟩

/-- Batch boundaries leave no trace: the loop variables depend on the rows alone. -/
theorem acceptStream_reduces {input : RecordBatchStream} {query next : Candidates} {pairs : Pairs}
    (current : query.Reduces pairs)
    (accepted : input.foldlM (fun (query : Candidates) next => do query.acceptBatch (← next)) query = .ok next) :
    Carried input ∧ (∀ row ∈ streamRows input, (validRow row).isSome) ∧
      next.Reduces (pairs ++ candidates input) := by
  induction input generalizing query pairs with
  | nil =>
    cases accepted
    exact ⟨by simp [Carried], by simp [streamRows], by simpa [candidates, streamRows] using current⟩
  | cons head rest ih =>
    rw [List.foldlM_cons] at accepted
    obtain ⟨middle, pulled, remaining⟩ := bind_eq_ok.mp accepted
    obtain ⟨batch, arrived, scanned⟩ := bind_eq_ok.mp pulled
    obtain ⟨ids, distances⟩ := Candidates.acceptBatch_columns scanned
    rw [Candidates.acceptBatch_eq _ ids distances] at scanned
    obtain ⟨valid, reduced⟩ := acceptRows_reduces current scanned
    obtain ⟨carried, others, done⟩ := ih reduced remaining
    clear accepted pulled
    subst arrived
    refine ⟨List.forall_mem_cons.mpr ⟨⟨batch, rfl, ids, distances⟩, carried⟩, ?_, ?_⟩
    · intro row member
      rcases List.mem_append.mp member with early | late
      · exact valid row early
      · exact others row late
    · simpa [candidates, streamRows, List.filterMap_append] using done

theorem acceptStream_isOk {input : RecordBatchStream} (query : Candidates) (carried : Carried input)
    (valid : ∀ row ∈ streamRows input, (validRow row).isSome) :
    ∃ next, input.foldlM (fun (query : Candidates) next => do query.acceptBatch (← next)) query = .ok next := by
  refine foldlM_isOk (fun item member query => ?_) query
  obtain ⟨batch, same, ids, distances⟩ := carried item member
  subst same
  have inside : ∀ row ∈ batch.rows, (validRow row).isSome := fun row row_mem =>
    valid row (List.mem_flatMap.mpr ⟨_, member, row_mem⟩)
  simp only [bind, Except.bind]
  rw [Candidates.acceptBatch_eq query ids distances]
  exact foldlM_isOk (fun row row_mem query => (query.accept_isOk row.1 row.2).mpr (inside row row_mem)) query

/-- What a query child is reduced to. -/
structure Query.Of (query : Query) (pairs : Pairs) : Prop where
  rows : ∀ id, query.rows.lookup id = least pairs id
  maximum : query.maximum = penalty pairs

theorem reduceStream_ok {input : RecordBatchStream} {query : Query} (success : reduceStream input = .ok query) :
    Carried input ∧ (∀ row ∈ streamRows input, (validRow row).isSome) ∧ query.Of (candidates input) := by
  obtain ⟨last, accepted, success⟩ := bind_eq_ok.mp success
  cases success
  obtain ⟨carried, valid, reduced⟩ := acceptStream_reduces Candidates.reduces_nil accepted
  rw [List.nil_append] at reduced
  exact ⟨carried, valid, reduced.rows, by rw [penalty, ← reduced.maximum]⟩

theorem reduceStream_isOk {input : RecordBatchStream} (carried : Carried input) :
    (∃ query, reduceStream input = .ok query) ↔ ∀ row ∈ streamRows input, (validRow row).isSome := by
  constructor
  · intro ⟨query, success⟩
    exact (reduceStream_ok success).2.1
  · intro valid
    obtain ⟨last, accepted⟩ := acceptStream_isOk ⟨∅, none⟩ carried valid
    exact ⟨⟨last.rows, last.maximum.getD 1⟩, bind_eq_ok.mpr ⟨last, accepted, rfl⟩⟩

end Rows

section Merging

theorem share_of_absent {pairs : Pairs} {id : Nat} (absent : id ∉ pairs.map Prod.fst) :
    share pairs id = penalty pairs := by
  have none_found : least pairs id = none := by
    rw [← Option.not_isSome_iff_eq_none, least_isSome]
    exact absent
  rw [share, none_found, Option.getD_none]

theorem maxSim_of_absent {queries : List Pairs} {id : Nat}
    (absent : ∀ pairs ∈ queries, id ∉ pairs.map Prod.fst) :
    maxSim queries id = (queries.map penalty).sum := by
  rw [maxSim, List.map_congr_left fun pairs member => share_of_absent (absent pairs member)]

theorem maxSim_concat (queries : List Pairs) (pairs : Pairs) (id : Nat) :
    maxSim (queries ++ [pairs]) id = maxSim queries id + share pairs id := by
  simp [maxSim]

/-- After the queries seen so far: every id met holds its sum over all of them,
and `missed` is what an id met only later still owes. -/
structure Merge.Sums (merge : Merge) (seen : List Pairs) : Prop where
  missed : merge.missed = (seen.map penalty).sum
  results : ∀ id, merge.results.lookup id =
    if ∃ pairs ∈ seen, id ∈ pairs.map Prod.fst then some (maxSim seen id) else none

theorem Merge.add_sums {merge : Merge} {seen : List Pairs} (current : merge.Sums seen)
    (order : IterationOrder Nat ℚ) {query : Query} {pairs : Pairs} (reduced : query.Of pairs) :
    (merge.add order query).Sums (seen ++ [pairs]) := by
  constructor
  · simp [Merge.add, current.missed, reduced.maximum]
  intro id
  have looked : (merge.add order query).results.lookup id =
      ((merge.results.lookup id).map (· + share pairs id)).or ((least pairs id).map (· + merge.missed)) := by
    simp only [Merge.add]
    rw [HashMap.lookup_foldl_orInsert _ _ (· + merge.missed), HashMap.dlookup_visit, HashMap.lookup_mapValues, reduced.rows,
      reduced.maximum]
    rfl
  rw [looked, current.results, maxSim_concat]
  by_cases met : ∃ pairs ∈ seen, id ∈ pairs.map Prod.fst
  · have still : ∃ query ∈ seen ++ [pairs], id ∈ query.map Prod.fst := by
      obtain ⟨old, member, inside⟩ := met
      exact ⟨old, List.mem_append_left _ member, inside⟩
    rw [if_pos met, if_pos still]
    rfl
  · have owed : merge.missed = maxSim seen id := by
      rw [current.missed, maxSim_of_absent fun pairs member inside => met ⟨pairs, member, inside⟩]
    rw [if_neg met, owed]
    cases found : least pairs id with
    | none =>
      have absent : id ∉ pairs.map Prod.fst := by
        rw [← least_isSome, found]
        simp
      rw [if_neg]
      · rfl
      · intro ⟨other, member, inside⟩
        rcases List.mem_append.mp member with old | last
        · exact met ⟨other, old, inside⟩
        · exact absent (List.mem_singleton.mp last ▸ inside)
    | some distance =>
      have present : id ∈ pairs.map Prod.fst := least_isSome.mp (by simp [found])
      rw [if_pos ⟨pairs, by simp, present⟩, share, found]
      simp [add_comm]

theorem Merge.addAll_sums (hashing : Nat → IterationOrder Nat ℚ) {queries : List Query} {children : List Pairs}
    (reduced : List.Forall₂ Query.Of queries children) (index : Nat) {merge : Merge} {seen : List Pairs}
    (current : merge.Sums seen) : (Merge.addAll hashing index queries merge).Sums (seen ++ children) := by
  induction reduced generalizing index merge seen with
  | nil => simpa [Merge.addAll] using current
  | cons head _ ih =>
    have next := ih (index + 1) (Merge.add_sums current (hashing index) head)
    rwa [List.append_assoc] at next

end Merging

section Batch

variable {hashing hashing' : Nat → IterationOrder Nat ℚ} {listing listing' : IterationOrder Nat ℚ}
  {inputs inputs' : List RecordBatchStream} {batch batch' : ScoreBatch}

theorem ScoreBatch.map_fst_rows (batch : ScoreBatch) : batch.rows.map Prod.fst = batch.rowIds :=
  List.map_fst_zip (le_of_eq batch.sameLength.symm)

theorem indexedBatch_queries (success : indexedBatch hashing listing inputs scoreSchema = .ok batch) :
    ∃ queries, List.Forall₂ (fun input query => reduceStream input = .ok query) inputs queries ∧
      batch.rows = (listing.visit (Merge.addAll hashing 0 queries ⟨∅, 0⟩).results).map
        fun entry => (entry.1, entry.2) := by
  obtain ⟨queries, reduced, success⟩ := bind_eq_ok.mp success
  refine ⟨queries, mapM_eq_ok.mp reduced, ?_⟩
  simp only [ScoreBatch.tryNew, ne_eq, not_true_eq_false, ↓reduceIte, List.length_map, ↓reduceDIte] at success
  cases success
  exact List.zip_map' ..

/-- A successful call lists each id of some query once, with its score. -/
theorem indexedBatch_ok (success : indexedBatch hashing listing inputs scoreSchema = .ok batch) :
    (∀ input ∈ inputs, Carried input ∧ ∀ row ∈ streamRows input, (validRow row).isSome) ∧ batch.rowIds.Nodup ∧
      ∀ id score, (id, score) ∈ batch.rows ↔
        (∃ input ∈ inputs, id ∈ (candidates input).map Prod.fst) ∧ score = maxSim (inputs.map candidates) id := by
  obtain ⟨queries, reduced, rows⟩ := indexedBatch_queries success
  refine ⟨?_, ?_, ?_⟩
  · intro input member
    obtain ⟨query, reducedOne⟩ := mapM_isOk.mp ⟨queries, mapM_eq_ok.mpr reduced⟩ input member
    exact ⟨(reduceStream_ok reducedOne).1, (reduceStream_ok reducedOne).2.1⟩
  · rw [← batch.map_fst_rows, rows, List.map_map]
    exact HashMap.visit_keys_nodup listing _
  · intro id score
    have children : List.Forall₂ Query.Of queries (inputs.map candidates) := by
      refine List.forall₂_map_right_iff.mpr (List.Forall₂.flip (reduced.imp fun input query success => ?_))
      exact (reduceStream_ok success).2.2
    have empty : Merge.Sums ⟨∅, 0⟩ [] := ⟨by simp, fun _ => by simp⟩
    have sums := Merge.addAll_sums hashing children 0 empty
    have listed : (id, score) ∈ batch.rows ↔
        (Merge.addAll hashing 0 queries ⟨∅, 0⟩).results.lookup id = some score := by
      rw [rows, ← HashMap.mem_visit_iff listing]
      simp only [List.mem_map, Prod.mk.injEq]
      constructor
      · rintro ⟨⟨_, _⟩, member, rfl, rfl⟩
        exact member
      · exact fun member => ⟨⟨id, score⟩, member, rfl, rfl⟩
    rw [listed, sums.results, List.nil_append]
    have sameIds : (∃ pairs ∈ inputs.map candidates, id ∈ pairs.map Prod.fst) ↔
        ∃ input ∈ inputs, id ∈ (candidates input).map Prod.fst := by
      constructor
      · rintro ⟨_, listed, inside⟩
        obtain ⟨input, member, rfl⟩ := List.mem_map.mp listed
        exact ⟨input, member, inside⟩
      · exact fun ⟨input, member, inside⟩ => ⟨_, List.mem_map_of_mem member, inside⟩
    rw [if_congr sameIds rfl rfl]
    split
    · rename_i met
      simp only [Option.some.injEq, met, true_and, eq_comm]
    · rename_i unmet
      simp only [reduceCtorEq, unmet, false_and]

theorem indexedBatch_isOk (hashing : Nat → IterationOrder Nat ℚ) (listing : IterationOrder Nat ℚ)
    (carried : ∀ input ∈ inputs, Carried input) :
    (∃ batch, indexedBatch hashing listing inputs scoreSchema = .ok batch) ↔
      ∀ input ∈ inputs, ∀ row ∈ streamRows input, (validRow row).isSome := by
  constructor
  · intro ⟨batch, success⟩ input member
    exact ((indexedBatch_ok success).1 input member).2
  · intro valid
    have each : ∀ input ∈ inputs, ∃ query, reduceStream input = .ok query := fun input member =>
      (reduceStream_isOk (carried input member)).mpr (valid input member)
    obtain ⟨queries, reduced⟩ := mapM_isOk.mpr each
    simp [indexedBatch, reduced, bind, Except.bind, ScoreBatch.tryNew]

/-- The same queries up to their order, each with the same rows up to their
order and their split into batches. -/
def SameRows (inputs inputs' : List RecordBatchStream) : Prop :=
  ∃ reordered, inputs.Perm reordered ∧
    List.Forall₂ (fun input input' => (streamRows input).Perm (streamRows input')) reordered inputs'

theorem SameRows.children (same : SameRows inputs inputs') :
    ∃ reordered, (inputs.map candidates).Perm reordered ∧ List.Forall₂ List.Perm reordered (inputs'.map candidates) := by
  obtain ⟨reordered, perm, rows⟩ := same
  refine ⟨reordered.map candidates, perm.map _, ?_⟩
  rw [List.forall₂_map_left_iff, List.forall₂_map_right_iff]
  exact rows.imp fun input input' perm => perm.filterMap _

theorem SameRows.maxSim (same : SameRows inputs inputs') (id : Nat) :
    Multivector.maxSim (inputs.map candidates) id = Multivector.maxSim (inputs'.map candidates) id := by
  obtain ⟨reordered, perm, rows⟩ := same.children
  rw [maxSim_perm perm, maxSim_congr rows]

theorem SameRows.met (same : SameRows inputs inputs') (id : Nat) :
    (∃ input ∈ inputs, id ∈ (candidates input).map Prod.fst) ↔
      ∃ input ∈ inputs', id ∈ (candidates input).map Prod.fst := by
  obtain ⟨reordered, perm, rows⟩ := same.children
  have together : (inputs.map candidates).flatten.Perm (inputs'.map candidates).flatten :=
    perm.flatten.trans (List.Perm.flatten_congr rows)
  have listed (inputs : List RecordBatchStream) : (∃ input ∈ inputs, id ∈ (candidates input).map Prod.fst) ↔
      id ∈ (inputs.map candidates).flatten.map Prod.fst := by
    simp only [List.mem_map, List.mem_flatten, Prod.exists, exists_and_right, exists_eq_right,
      exists_exists_and_eq_and]
    exact ⟨fun ⟨input, member, score, inside⟩ => ⟨score, input, member, inside⟩,
      fun ⟨score, input, member, inside⟩ => ⟨input, member, score, inside⟩⟩
  rw [listed, listed, (together.map _).mem_iff]

/-- The output holds exactly the ids met, each once with its score; it depends
on nothing but the rows of each query; and the call fails exactly on a row with
a null id, a null distance or one that is not finite. -/
theorem indexedBatch_maxSim :
    (∀ batch, indexedBatch hashing listing inputs scoreSchema = .ok batch →
      batch.rowIds.Nodup ∧
      (∀ id, id ∈ batch.rowIds ↔ ∃ input ∈ inputs, id ∈ (candidates input).map Prod.fst) ∧
      (∀ id score, (id, score) ∈ batch.rows → score = maxSim (inputs.map candidates) id) ∧
      ∀ hashing' listing' inputs' batch', SameRows inputs inputs' →
        indexedBatch hashing' listing' inputs' scoreSchema = .ok batch' → batch.rows.Perm batch'.rows) ∧
    ((∀ input ∈ inputs, Carried input) →
      ((∃ error, indexedBatch hashing listing inputs scoreSchema = .error error) ↔
        ∃ input ∈ inputs, ∃ row ∈ streamRows input, validRow row = none)) := by
  refine ⟨fun batch success => ?_, fun carried => ?_⟩
  · obtain ⟨_, distinct, rows⟩ := indexedBatch_ok success
    refine ⟨distinct, fun id => ?_, fun id score member => ((rows id score).mp member).2, ?_⟩
    · rw [← batch.map_fst_rows, List.mem_map]
      constructor
      · rintro ⟨⟨_, score⟩, member, rfl⟩
        exact ((rows _ score).mp member).1
      · exact fun met => ⟨(id, _), (rows id _).mpr ⟨met, rfl⟩, rfl⟩
    · intro hashing' listing' inputs' batch' same success'
      obtain ⟨_, distinct', rows'⟩ := indexedBatch_ok success'
      have once : batch.rows.Nodup := List.Nodup.of_map Prod.fst (batch.map_fst_rows ▸ distinct)
      have once' : batch'.rows.Nodup := List.Nodup.of_map Prod.fst (batch'.map_fst_rows ▸ distinct')
      refine (List.perm_ext_iff_of_nodup once once').mpr fun ⟨id, score⟩ => ?_
      rw [rows, rows', same.met, same.maxSim]
  · have total := indexedBatch_isOk hashing listing carried
    cases outcome : indexedBatch hashing listing inputs scoreSchema with
    | ok batch =>
      have valid := total.mp ⟨batch, outcome⟩
      simp only [reduceCtorEq, exists_false, false_iff]
      rintro ⟨input, member, row, inside, invalid⟩
      simpa [invalid] using valid input member row inside
    | error error =>
      simp only [outcome, reduceCtorEq, exists_false, false_iff] at total
      simpa using total

end Batch

section Sample

def sampleBatch (rows : Pairs) : RecordBatch :=
  ⟨rows.length, some fun i => some rows[i].1, some fun i => some (.finite rows[i].2)⟩

/-- Three queries: one in two batches, one that meets row 3 late, an empty one. -/
def sampleInputs : List RecordBatchStream :=
  [[.ok (sampleBatch [(1, 1 / 2), (2, 3 / 2)]), .ok (sampleBatch [(1, 1 / 4)])],
    [.ok (sampleBatch [(2, 1 / 2), (3, 2)])], []]

theorem indexedBatch_maxSim_sample :
    ∃ batch, indexedBatch (fun _ => .stored _ _) (.reversed _ _) sampleInputs scoreSchema = .ok batch ∧
      batch.rows = [(1, 13 / 4), (2, 3), (3, 9 / 2)] ∧ batch.rowIds.Nodup ∧
      ∀ id score, (id, score) ∈ batch.rows → score = maxSim (sampleInputs.map candidates) id := by
  have computed : (indexedBatch (fun _ => .stored _ _) (.reversed _ _) sampleInputs scoreSchema).toOption.map
      ScoreBatch.rows = some [(1, 13 / 4), (2, 3), (3, 9 / 2)] := by decide +kernel
  cases success : indexedBatch (fun _ => .stored _ _) (.reversed _ _) sampleInputs scoreSchema with
  | error error => simp [success, Except.toOption] at computed
  | ok batch =>
    obtain ⟨distinct, _, scores, _⟩ := indexedBatch_maxSim.1 batch success
    exact ⟨batch, rfl, by simpa [success, Except.toOption] using computed, distinct, scores⟩

end Sample

end LanceC.Multivector
