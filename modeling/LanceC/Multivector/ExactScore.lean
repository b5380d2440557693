import LanceC.Logic.Except
import LanceC.Logic.Extremum
import LanceC.Multivector.ExactBatch
import Mathlib.Algebra.BigOperators.Group.List.Basic
import Mathlib.Algebra.Ring.Rat

/-! What `exactBatch` does with the rows of a batch, row by row and batch by batch. -/

namespace LanceC.Multivector.Exact

open Logic

variable {Cell Element : Type}

section Score

variable (kernel : Kernel Element)

/-- The least defined distance of a query vector to a stored one. -/
def nearest (stored : List (List Element)) (queryVector : List Element) : Option ℚ :=
  (stored.filterMap (kernel.distance queryVector)).min?

/-- The sum of the least distances, where every query vector has one. -/
def multiScore (queries stored : List (List Element)) : Option ℚ :=
  if queries.all fun queryVector => (nearest kernel stored queryVector).isSome then
    some (queries.map fun queryVector => (nearest kernel stored queryVector).getD 0).sum
  else none

variable {kernel}

theorem addNearest_eq (queries stored : List (List Element)) (score : ℚ) :
    addNearest kernel stored queries score = (multiScore kernel queries stored).map (score + ·) := by
  induction queries generalizing score with
  | nil => simp [addNearest, multiScore]
  | cons queryVector rest ih =>
    rw [addNearest, multiScore, List.all_cons]
    cases found : (stored.filterMap (kernel.distance queryVector)).min? with
    | none => simp [nearest, found]
    | some best =>
      have defined : nearest kernel stored queryVector = some best := found
      simp only [ih, multiScore, defined, Option.isSome_some, Bool.true_and, List.map_cons, List.sum_cons,
        Option.getD_some]
      split
      · simp [add_assoc]
      · rfl

/-- Neither the order of the stored vectors nor that of the query vectors matters. -/
theorem multiScore_perm {queries queries' stored stored' : List (List Element)} (asked : queries.Perm queries')
    (kept : stored.Perm stored') : multiScore kernel queries stored = multiScore kernel queries' stored' := by
  have same : nearest kernel stored = nearest kernel stored' := funext fun _ => min?_perm (kept.filterMap _)
  rw [multiScore, multiScore, same, asked.all_eq, (asked.map _).sum_eq]

end Score

section Rows

variable (kernel : Kernel Element) (query : QueryArray Element)

/-- What one row of a batch contributes. `vector` is absent for a null list. -/
structure Row (Cell Element : Type) where
  idNull : Bool
  vector : Option (FixedSizeListArray Element)
  content : String → Option Cell

def FixedSizeListArray.subvectors (array : FixedSizeListArray Element) : List (List Element) :=
  chunksExact array.valueLength array.values.values.reduceOption

/-- A null subvector, or an element that is null or not finite. -/
def FixedSizeListArray.defective (array : FixedSizeListArray Element) : Bool :=
  array.validity.any (!·) || array.values.values.any Option.isNone ||
    array.values.values.any (·.any (!kernel.isFinite ·))

namespace Row

def scorable (row : Row Cell Element) : Bool := !row.idNull && row.vector.any (!·.validity.isEmpty)

def score (row : Row Cell Element) : Option ℚ :=
  row.vector.bind fun vector => multiScore kernel (chunksExact vector.valueLength query.values) vector.subvectors

/-- The rows on which the call fails. -/
def rejected (row : Row Cell Element) : Bool :=
  row.scorable &&
    (row.vector.any (·.defective kernel) || (row.score kernel query).any (!isFiniteF32 ·))

/-- The rows of the output. -/
def kept (row : Row Cell Element) : Bool := row.scorable && (row.score kernel query).isSome

/-- The output score of a row that is not rejected. -/
def outcome (row : Row Cell Element) : Option ℚ := if row.scorable then row.score kernel query else none

end Row

variable {kernel query}

theorem rowDistance_eq {vector : FixedSizeListArray Element} (typed : vector.values.dataType = query.dataType) :
    rowDistance kernel query.dataType query vector =
      if vector.defective kernel then
        .error (invalid "multi-vector stored subvectors must contain only finite, non-null elements")
      else
        let score := multiScore kernel (chunksExact vector.valueLength query.values) vector.subvectors
        if score.any (!isFiniteF32 ·) then .error (invalid "multi-vector distance is not finite") else .ok score := by
  have checked : vector.defective kernel = true ↔ vector.validity.any (!·) ∨ vector.values.values.any Option.isNone ∨
      vector.values.values.any (·.any (!kernel.isFinite ·)) := by
    simp only [FixedSizeListArray.defective, Bool.or_eq_true, or_assoc]
  unfold rowDistance
  simp only [ne_eq, not_true_eq_false, typed, ↓reduceIte, ← checked, addNearest_eq, zero_add, Option.map_id']
  cases vector.defective kernel with
  | true => rfl
  | false =>
    cases total : multiScore kernel (chunksExact vector.valueLength query.values) vector.subvectors with
    | none =>
      rw [FixedSizeListArray.subvectors] at total
      simp [total]
      rfl
    | some score =>
      rw [FixedSizeListArray.subvectors] at total
      cases finite : isFiniteF32 score <;> simp [total, finite] <;> rfl

/-- The loop body at a row. -/
def scoreRow (kernel : Kernel Element) (query : QueryArray Element) (row : Row Cell Element) :
    Except DataFusionError (Option ℚ) :=
  rowScore kernel query row.idNull (row.vector.map some)

theorem scoreRow_eq {row : Row Cell Element} (float : query.dataType ∈ [.float16, .float32, .float64])
    (typed : ∀ vector, row.vector = some vector → vector.values.dataType = query.dataType) :
    (row.rejected kernel query = true → ∃ error, scoreRow kernel query row = .error error) ∧
      (row.rejected kernel query = false → scoreRow kernel query row = .ok (row.outcome kernel query)) := by
  obtain ⟨idNull, vector, content⟩ := row
  cases idNull with
  | true => simp [scoreRow, rowScore, Row.rejected, Row.outcome, Row.scorable]
  | false =>
    cases vector with
    | none => simp [scoreRow, rowScore, Row.rejected, Row.outcome, Row.scorable]
    | some vector =>
      cases empty : vector.validity.isEmpty with
      | true => simp [scoreRow, rowScore, Row.rejected, Row.outcome, Row.scorable, empty]
      | false =>
        have distance : scoreRow kernel query ⟨false, some vector, content⟩ =
            rowDistance kernel query.dataType query vector := by
          rcases List.mem_cons.mp float with same | float
          · simp [scoreRow, rowScore, empty, same]
          · rcases List.mem_cons.mp float with same | float
            · simp [scoreRow, rowScore, empty, same]
            · simp [scoreRow, rowScore, empty, List.mem_singleton.mp float]
        rw [distance, rowDistance_eq (typed vector rfl)]
        cases defective : vector.defective kernel with
        | true => simp [Row.rejected, Row.scorable, empty, defective]
        | false =>
          cases overflow : (multiScore kernel (chunksExact vector.valueLength query.values)
              vector.subvectors).any (!isFiniteF32 ·) <;>
            simp [Row.rejected, Row.scorable, Row.score, Row.outcome, empty, defective, overflow]

end Rows

section Batches

variable {parseFieldPath : String → Except String (List String)} {kernel : Kernel Element}
variable {query : QueryArray Element} {column : String} {schema : List OutputField}

/-- A batch as the plan hands it over: the vector column resolves to one list of vectors for
each row, of the query's float type and dimension, and each output field has its column. -/
structure PlannedBatch (Cell : Type) (parseFieldPath : String → Except String (List String))
    (query : QueryArray Element) (column : String) (schema : List OutputField) where
  batch : RecordBatch Cell Element
  cells : List (Option Cell)
  offsets : List Nat
  values : FixedSizeListArray Element
  resolved : vectorColumn parseFieldPath batch column = .ok (.list cells offsets (some values))
  lists : cells.length = batch.numRows
  float : query.dataType ∈ [.float16, .float32, .float64]
  typed : values.values.dataType = query.dataType
  dimension : 0 < values.valueLength
  whole : values.valueLength ∣ query.values.length
  scored : ∃ field ∈ schema, field.name = "_distance"
  outputs : ∀ field ∈ schema,
    if field.name = "_distance" then field.dataType = .float32 ∧ field.isNullable = true
    else ∃ column, batch.columnByName field.name = some column ∧ column.dataType = field.dataType ∧
      (field.isNullable = true ∨ ∀ cell ∈ column.array.cells, cell.isSome = true)

/-- What a row shows in an output field. -/
def OutputField.cellOf (field : OutputField) (row : Row Cell Element) (score : Option ℚ) : OutputCell Cell :=
  if field.name = "_distance" then .score score else .cell (row.content field.name)

/-- The column of an output field before the mask is applied. -/
def unmasked (rows : List (Row Cell Element)) (scores : List (Option ℚ)) (field : OutputField) :
    OutputColumn Cell where
  dataType := field.dataType
  cells := (rows.zip scores).map fun (row, score) => field.cellOf row score

namespace PlannedBatch

variable (planned : PlannedBatch Cell parseFieldPath query column schema)

def row (index : Nat) : Row Cell Element where
  idNull := (planned.batch.columnByName "_rowid").any (·.array.isNull index)
  vector := (listValue planned.cells planned.offsets (some planned.values) index).join
  content name := (planned.batch.columnByName name).bind fun column => column.array.cells[index]?.join

def rows : List (Row Cell Element) := (List.range planned.batch.numRows).map planned.row

theorem row_typed {index : Nat} {vector : FixedSizeListArray Element}
    (found : (planned.row index).vector = some vector) : vector.values.dataType = query.dataType := by
  simp only [row, listValue, Option.map_some] at found
  split at found
  · cases found
  · rw [← Option.some.inj found]
    exact planned.typed

/-- The loop over the lists is one over the rows. -/
theorem scores_eq : ((List.range planned.cells.length).mapM fun index =>
      rowScore kernel query ((planned.batch.columnByName "_rowid").any (·.array.isNull index))
        (listValue planned.cells planned.offsets (some planned.values) index)) =
    planned.rows.mapM (scoreRow kernel query) := by
  rw [rows, List.mapM_map, planned.lists]
  congr 1
  funext index
  simp only [Function.comp_apply, scoreRow, row, listValue]
  split <;> rfl

/-- A column's contents, row by row. -/
theorem rows_content {name : String} {found : Column Cell Element}
    (present : planned.batch.columnByName name = some found) :
    planned.rows.map (·.content name) = found.array.cells := by
  have aligned := planned.batch.aligned found (List.mem_of_find?_eq_some present)
  refine List.ext_getElem (by simp [rows, aligned]) fun index _ inside => ?_
  simp [rows, row, present, List.getElem?_eq_getElem inside]

theorem outputColumn_eq {scores : List (Option ℚ)} (sameLength : scores.length = planned.rows.length)
    {field : OutputField} (member : field ∈ schema) :
    outputColumn planned.batch scores field = .ok (unmasked planned.rows scores field) := by
  have promised := planned.outputs field member
  unfold outputColumn unmasked
  split at promised
  · rename_i distance
    have scoresOnly : scores.map OutputCell.score =
        (planned.rows.zip scores).map fun (row, score) => field.cellOf row score := by
      calc scores.map OutputCell.score
        _ = ((planned.rows.zip scores).map Prod.snd).map OutputCell.score := by
          rw [List.map_snd_zip (by rw [sameLength])]
        _ = (planned.rows.zip scores).map fun (row, score) => field.cellOf row score := by
          simp [OutputField.cellOf, distance]
    rw [if_pos distance, scoresOnly, promised.1]
  · rename_i other
    obtain ⟨found, present, type, _⟩ := promised
    have contentOnly : found.array.cells.map OutputCell.cell =
        (planned.rows.zip scores).map fun (row, score) => field.cellOf row score := by
      calc found.array.cells.map OutputCell.cell
        _ = (((planned.rows.zip scores).map Prod.fst).map (·.content field.name)).map OutputCell.cell := by
          rw [List.map_fst_zip (by rw [sameLength]), planned.rows_content present]
        _ = (planned.rows.zip scores).map fun (row, score) => field.cellOf row score := by
          simp [OutputField.cellOf, other]
    simp only [if_neg other, present, contentOnly, type]

/-- A field that is not nullable shows no NULL. -/
theorem cellOf_some {field : OutputField} (member : field ∈ schema) (required : field.isNullable = false)
    {row : Row Cell Element} (inside : row ∈ planned.rows) (score : Option ℚ) :
    (field.cellOf row score).isNull = false := by
  have promised := planned.outputs field member
  split at promised
  · rw [promised.2] at required
    cases required
  · rename_i other
    obtain ⟨found, present, _, nullable | full⟩ := promised
    · rw [nullable] at required
      cases required
    · have content : row.content field.name ∈ found.array.cells :=
        planned.rows_content present ▸ List.mem_map_of_mem inside
      simp [OutputField.cellOf, other, OutputCell.isNull, full _ content]

/-- The columns pass the schema check. -/
theorem tryNew_eq (scores : List (Option ℚ)) :
    OutputBatch.tryNew schema (schema.map (unmasked planned.rows scores)) =
      .ok ⟨schema.map (unmasked planned.rows scores)⟩ := by
  have inhabited : schema ≠ [] := by
    obtain ⟨field, member, _⟩ := planned.scored
    exact List.ne_nil_of_mem member
  have paired : schema.zip (schema.map (unmasked planned.rows scores)) =
      schema.map fun field => (field, unmasked planned.rows scores field) := by
    simpa using @List.zip_map' _ _ _ id (unmasked planned.rows scores) schema
  have noNulls : ((schema.zip (schema.map (unmasked planned.rows scores))).any fun pair =>
      !pair.1.isNullable && pair.2.cells.any OutputCell.isNull) = false := by
    rw [paired, List.any_map, List.any_eq_false]
    intro field member
    simp only [Function.comp_apply, Bool.and_eq_true, Bool.not_eq_true', not_and, Bool.not_eq_true,
      List.any_eq_false, unmasked, List.mem_map]
    rintro required _ ⟨⟨row, score⟩, both, rfl⟩
    exact planned.cellOf_some member required (List.of_mem_zip both).1 score
  have sameLengths : ((schema.map (unmasked planned.rows scores)).any fun column =>
      some column.cells.length ≠ ((schema.map (unmasked planned.rows scores)).head?.map (·.cells.length))) = false := by
    obtain ⟨first, rest, rfl⟩ := List.exists_cons_of_ne_nil inhabited
    simp [unmasked]
  have sameTypes : schema.map OutputField.dataType =
      (schema.map (unmasked planned.rows scores)).map OutputColumn.dataType := by
    simp [unmasked, Function.comp_def]
  simp only [OutputBatch.tryNew, List.isEmpty_map, List.isEmpty_iff, inhabited, ↓reduceIte, noNulls, sameLengths,
    sameTypes, Bool.false_eq_true, ne_eq, not_true_eq_false]

end PlannedBatch

/-- The rows with a score, in their order, each column for itself. -/
def outputOf (schema : List OutputField) (rows : List (Row Cell Element)) (scores : List (Option ℚ)) :
    OutputBatch Cell where
  columns := schema.map fun field =>
    { dataType := field.dataType
      cells := ((rows.zip scores).filter (·.2.isSome)).map fun (row, score) => field.cellOf row score }

theorem filter_unmasked {rows : List (Row Cell Element)} {scores : List (Option ℚ)}
    (sameLength : scores.length = rows.length) (field : OutputField) :
    (unmasked rows scores field).filter (scores.map Option.isSome) =
      { dataType := field.dataType
        cells := ((rows.zip scores).filter (·.2.isSome)).map fun (row, score) => field.cellOf row score } := by
  have mask : scores.map Option.isSome = (rows.zip scores).map fun (_, score) => score.isSome := by
    calc scores.map Option.isSome
      _ = ((rows.zip scores).map Prod.snd).map Option.isSome := by rw [List.map_snd_zip (by rw [sameLength])]
      _ = (rows.zip scores).map fun (_, score) => score.isSome := by rw [List.map_map]; rfl
  rw [mask]
  simp [OutputColumn.filter, unmasked, List.zip_map', List.filter_map, Function.comp_def]

/-- The whole function, as a traversal of the rows. -/
theorem exactBatch_eq (planned : PlannedBatch Cell parseFieldPath query column schema) :
    exactBatch parseFieldPath kernel planned.batch query column schema =
      (planned.rows.mapM (scoreRow kernel query)).map (outputOf schema planned.rows) := by
  unfold exactBatch
  by_cases empty : planned.batch.numRows = 0
  · have noRows : planned.rows = [] := by simp [PlannedBatch.rows, empty]
    simp [empty, noRows, OutputBatch.newEmpty, outputOf, Except.map, pure, Except.pure]
  · simp only [empty, ↓reduceIte, planned.resolved, bind, Except.bind, planned.scores_eq]
    cases scored : planned.rows.mapM (scoreRow kernel query) with
    | error error => rfl
    | ok scores =>
      have sameLength : scores.length = planned.rows.length := (mapM_eq_ok.mp scored).length_eq.symm
      have columns : schema.mapM (outputColumn planned.batch scores) =
          .ok (schema.map (unmasked planned.rows scores)) :=
        mapM_eq_ok.mpr (List.forall₂_map_right_iff.mpr
          (List.forall₂_same.mpr fun field member => planned.outputColumn_eq sameLength member))
      simp only [columns, planned.tryNew_eq scores, Except.map, outputOf, List.map_map]
      refine congrArg (fun columns => Except.ok (OutputBatch.mk columns)) (List.map_congr_left fun field _ => ?_)
      exact filter_unmasked sameLength field

/-- Arrow's concatenation of two batches of one schema. -/
def OutputBatch.append (first second : OutputBatch Cell) : OutputBatch Cell where
  columns := first.columns.zipWith (fun one two => ⟨one.dataType, one.cells ++ two.cells⟩) second.columns

def concatBatches (schema : List OutputField) (outputs : List (OutputBatch Cell)) : OutputBatch Cell :=
  outputs.foldr OutputBatch.append (.newEmpty schema)

theorem outputOf_append {rows more : List (Row Cell Element)} {scores others : List (Option ℚ)}
    (sameLength : scores.length = rows.length) :
    outputOf schema (rows ++ more) (scores ++ others) =
      (outputOf schema rows scores).append (outputOf schema more others) := by
  simp [outputOf, OutputBatch.append, List.zip_append sameLength.symm, List.zipWith_map_left,
    List.zipWith_map_right]

/-- The output of any rows, as `exactBatch` makes it of those of a batch. -/
def scoreRows (kernel : Kernel Element) (query : QueryArray Element) (schema : List OutputField)
    (rows : List (Row Cell Element)) : Except DataFusionError (OutputBatch Cell) :=
  (rows.mapM (scoreRow kernel query)).map (outputOf schema rows)

theorem scoreRows_append (rows more : List (Row Cell Element)) :
    scoreRows kernel query schema (rows ++ more) = do
      let first ← scoreRows kernel query schema rows
      let second ← scoreRows kernel query schema more
      return first.append second := by
  unfold scoreRows
  rw [List.mapM_append]
  cases first : rows.mapM (scoreRow kernel query) with
  | error error => rfl
  | ok scores =>
    have sameLength : scores.length = rows.length := (mapM_eq_ok.mp first).length_eq.symm
    cases more.mapM (scoreRow kernel query) with
    | error error => rfl
    | ok others => exact congrArg Except.ok (outputOf_append sameLength)

theorem scoreRows_flatMap (batches : List (PlannedBatch Cell parseFieldPath query column schema)) :
    scoreRows kernel query schema (batches.flatMap PlannedBatch.rows) =
      (batches.mapM fun planned => scoreRows kernel query schema planned.rows).map (concatBatches schema) := by
  induction batches with
  | nil => simp [scoreRows, concatBatches, outputOf, OutputBatch.newEmpty, Except.map, pure, Except.pure]
  | cons planned rest ih =>
    rw [List.flatMap_cons, scoreRows_append, ih, List.mapM_cons]
    cases scoreRows kernel query schema planned.rows with
    | error error => rfl
    | ok output =>
      cases rest.mapM fun planned => scoreRows kernel query schema planned.rows with
      | error error => rfl
      | ok outputs => rfl

theorem PlannedBatch.scoreRow_eq (planned : PlannedBatch Cell parseFieldPath query column schema)
    {row : Row Cell Element} (member : row ∈ planned.rows) :
    (row.rejected kernel query = true → ∃ error, scoreRow kernel query row = .error error) ∧
      (row.rejected kernel query = false → scoreRow kernel query row = .ok (row.outcome kernel query)) := by
  obtain ⟨index, _, rfl⟩ := List.mem_map.mp member
  exact Exact.scoreRow_eq planned.float fun _ => planned.row_typed

theorem mapM_scoreRow_error (planned : PlannedBatch Cell parseFieldPath query column schema) :
    (∃ error, planned.rows.mapM (scoreRow kernel query) = .error error) ↔
      ∃ row ∈ planned.rows, row.rejected kernel query = true := by
  constructor
  · rintro ⟨error, failed⟩
    by_contra accepted
    have steps : ∀ row ∈ planned.rows, ∃ score, scoreRow kernel query row = .ok score := fun row member =>
      ⟨_, (planned.scoreRow_eq member).2 (Bool.eq_false_iff.mpr fun rejected => accepted ⟨row, member, rejected⟩)⟩
    obtain ⟨scores, success⟩ := mapM_isOk.mpr steps
    rw [failed] at success
    cases success
  · rintro ⟨row, member, rejected⟩
    cases outcome : planned.rows.mapM (scoreRow kernel query) with
    | error error => exact ⟨error, rfl⟩
    | ok scores =>
      obtain ⟨score, success⟩ := mapM_isOk.mp ⟨scores, outcome⟩ row member
      obtain ⟨error, failed⟩ := (planned.scoreRow_eq member).1 rejected
      rw [failed] at success
      cases success

theorem mapM_scoreRow_ok (planned : PlannedBatch Cell parseFieldPath query column schema)
    (accepted : ¬∃ row ∈ planned.rows, row.rejected kernel query = true) :
    planned.rows.mapM (scoreRow kernel query) = .ok (planned.rows.map (·.outcome kernel query)) := by
  refine mapM_eq_ok.mpr (List.forall₂_map_right_iff.mpr (List.forall₂_same.mpr fun row member => ?_))
  exact (planned.scoreRow_eq member).2 (Bool.eq_false_iff.mpr fun rejected => accepted ⟨row, member, rejected⟩)

/-- The rows that the mask keeps, with their scores. -/
theorem filter_outcomes (rows : List (Row Cell Element)) :
    (rows.zip (rows.map (·.outcome kernel query))).filter (·.2.isSome) =
      (rows.filter (·.kept kernel query)).map fun row => (row, row.score kernel query) := by
  induction rows with
  | nil => rfl
  | cons row rest ih =>
    rw [List.map_cons, List.zip_cons_cons, List.filter_cons, List.filter_cons, ih]
    cases scorable : row.scorable <;>
      cases scored : row.score kernel query <;>
        simp [Row.outcome, Row.kept, scorable, scored]

/-- The call fails exactly on a rejected row. Otherwise its output has the kept rows in
their order, every column aligned with the scores; the order of the vectors does not
matter; and neither does the way a scan is split into batches. -/
theorem exactBatch_exact (planned : PlannedBatch Cell parseFieldPath query column schema) :
    ((∃ error, exactBatch parseFieldPath kernel planned.batch query column schema = .error error) ↔
      ∃ row ∈ planned.rows, row.rejected kernel query = true) ∧
    (∀ output, exactBatch parseFieldPath kernel planned.batch query column schema = .ok output →
      output.columns = schema.map fun field =>
        { dataType := field.dataType
          cells := (planned.rows.filter (·.kept kernel query)).map fun row =>
            field.cellOf row (row.score kernel query) }) ∧
    (∀ queries queries' stored stored' : List (List Element), queries.Perm queries' → stored.Perm stored' →
      multiScore kernel queries stored = multiScore kernel queries' stored') ∧
    ∀ batches : List (PlannedBatch Cell parseFieldPath query column schema),
      planned.rows = batches.flatMap PlannedBatch.rows →
      exactBatch parseFieldPath kernel planned.batch query column schema =
        (batches.mapM fun part => exactBatch parseFieldPath kernel part.batch query column schema).map
          (concatBatches schema) := by
  simp only [exactBatch_eq]
  refine ⟨?_, ?_, fun _ _ _ _ asked kept => multiScore_perm asked kept, ?_⟩
  · rw [← mapM_scoreRow_error]
    cases planned.rows.mapM (scoreRow kernel query) <;> simp [Except.map]
  · intro output success
    have accepted : ¬∃ row ∈ planned.rows, row.rejected kernel query = true := by
      rw [← mapM_scoreRow_error]
      rintro ⟨error, failed⟩
      rw [failed] at success
      cases success
    rw [mapM_scoreRow_ok planned accepted] at success
    cases success
    simp only [outputOf, filter_outcomes, List.map_map, Function.comp_def]
  · intro batches same
    have split := @scoreRows_flatMap _ _ _ kernel _ _ _ batches
    rwa [← same] at split

end Batches

section Sample

/-- The squared distance of one-dimensional vectors, undefined for a stored zero. -/
def sampleKernel : Kernel Int where
  isFinite _ := true
  distance queryVector stored :=
    match queryVector, stored with
    | [asked], [found] => if found = 0 then none else some ((asked - found) ^ 2)
    | _, _ => none

def sampleQuery : QueryArray Int := ⟨.float32, [1, 5]⟩

def sampleVectors : FixedSizeListArray Int := ⟨1, [true, true, true], ⟨.float32, [some 0, some 4, some 1]⟩, rfl⟩

/-- The first row has only a zero vector, the second has two vectors, the third has no list. -/
def sampleBatch : PlannedBatch Nat (fun _ => .error "no path") sampleQuery "vectors"
    [⟨"_rowid", .uint64, true⟩, ⟨"_distance", .float32, true⟩] where
  batch :=
    { numRows := 3
      columns :=
        [⟨"_rowid", .uint64, .other [some 7, some 8, some 9]⟩,
          ⟨"vectors", .list (.fixedSizeList .float32 1) true, .list [some 0, some 1, none] [0, 1, 3, 3] (some sampleVectors)⟩]
      aligned := by simp [ArrayRef.cells] }
  cells := [some 0, some 1, none]
  offsets := [0, 1, 3, 3]
  values := sampleVectors
  resolved := rfl
  lists := rfl
  float := by decide
  typed := rfl
  dimension := by decide
  whole := ⟨2, rfl⟩
  scored := ⟨_, List.mem_cons_of_mem _ (List.mem_cons_self ..), rfl⟩
  outputs := by
    refine List.forall_mem_cons.mpr ⟨⟨_, rfl, rfl, .inl rfl⟩, List.forall_mem_cons.mpr ⟨⟨rfl, rfl⟩, ?_⟩⟩
    exact fun _ none => absurd none List.not_mem_nil

theorem exactBatch_exact_sample :
    exactBatch (fun _ => .error "no path") sampleKernel sampleBatch.batch sampleQuery "vectors"
        [⟨"_rowid", .uint64, true⟩, ⟨"_distance", .float32, true⟩] =
      .ok ⟨[⟨.uint64, [.cell (some 8)]⟩, ⟨.float32, [.score (some 1)]⟩]⟩ := by
  have exact := @exactBatch_exact _ _ _ sampleKernel _ _ _ sampleBatch
  cases outcome : exactBatch (fun _ => .error "no path") sampleKernel sampleBatch.batch sampleQuery "vectors"
    [⟨"_rowid", .uint64, true⟩, ⟨"_distance", .float32, true⟩] with
  | error error =>
    exact absurd (exact.1.mp ⟨error, outcome⟩) (by decide +kernel)
  | ok output =>
    have columns := exact.2.1 output outcome
    obtain ⟨found⟩ := output
    exact congrArg (fun columns => Except.ok (OutputBatch.mk columns)) (columns.trans (by decide +kernel))

end Sample

end LanceC.Multivector.Exact
