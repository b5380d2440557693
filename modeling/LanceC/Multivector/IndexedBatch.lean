import LanceC.Error
import LanceC.Logic.HashMap
import LanceC.Snapshot
import Mathlib.Algebra.Order.Ring.Unbundled.Rat

/-! Late-interaction scores of indexed candidates (`indexed_batch` of
multivector.rs). Finite distances are exact rationals. -/

namespace LanceC.Multivector

open Logic

inductive Distance where
  | finite (value : ℚ)
  | nonfinite
  deriving DecidableEq, Repr

/-- A batch of a query child; a column is present if it has the type asked for,
and then holds one value or NULL for each row. -/
structure RecordBatch where
  numRows : Nat
  rowIds : Option (Fin numRows → Option Nat)
  distances : Option (Fin numRows → Option Distance)

abbrev RecordBatchStream := List (Except DataFusionError RecordBatch)

/-- The loop variables of one query child. -/
structure Candidates where
  rows : HashMap Nat ℚ
  maximum : Option ℚ

def Candidates.accept (query : Candidates) (id : Option Nat) (distance : Option Distance) :
    Except DataFusionError Candidates :=
  match id, distance with
  | some id, some (.finite distance) =>
    .ok { rows := query.rows.upsert id (min · distance) distance
          maximum := some (query.maximum.elim distance (max · distance)) }
  | _, _ => .error (.execution "indexed multi-vector candidate has invalid row ID or distance")

def Candidates.acceptBatch (query : Candidates) (batch : RecordBatch) :
    Except DataFusionError Candidates := do
  let some ids := batch.rowIds | throw (.execution "indexed multi-vector scorer requires row IDs")
  let some distances := batch.distances | throw (.execution "indexed multi-vector scorer requires distances")
  (List.finRange batch.numRows).foldlM (fun query i => query.accept (ids i) (distances i)) query

/-- One query child reduced to the least distance of each row and the charge
for the rows it lacks. -/
structure Query where
  rows : HashMap Nat ℚ
  maximum : ℚ

def reduceStream (input : RecordBatchStream) : Except DataFusionError Query := do
  let query ← input.foldlM (fun (query : Candidates) next => do query.acceptBatch (← next)) ⟨∅, none⟩
  return ⟨query.rows, query.maximum.getD 1⟩

structure Merge where
  results : HashMap Nat ℚ
  missed : ℚ

def Merge.add (merge : Merge) (order : IterationOrder Nat ℚ) (query : Query) : Merge :=
  let charged := merge.results.mapValues fun id score => score + (query.rows.lookup id).getD query.maximum
  { results := (order.visit query.rows).foldl
      (fun results entry => results.orInsert entry.1 (entry.2 + merge.missed)) charged
    missed := merge.missed + query.maximum }

/-- `hashing n` is the iteration order of the map of the n-th query. -/
def Merge.addAll (hashing : Nat → IterationOrder Nat ℚ) : Nat → List Query → Merge → Merge
  | _, [], merge => merge
  | index, query :: rest, merge => addAll hashing (index + 1) rest (merge.add (hashing index) query)

/-- The scored output; a record batch has columns of one length. -/
structure ScoreBatch where
  distances : List ℚ
  rowIds : List Nat
  sameLength : distances.length = rowIds.length

def ScoreBatch.rows (batch : ScoreBatch) : List (Nat × ℚ) := batch.rowIds.zip batch.distances

def scoreSchema : List DataType := [.float32, .uint64]

def ScoreBatch.tryNew (schema : List DataType) (distances : List ℚ) (rowIds : List Nat) :
    Except DataFusionError ScoreBatch :=
  if schema ≠ scoreSchema then .error (.arrow "column types must match schema types")
  else if sameLength : distances.length = rowIds.length then .ok ⟨distances, rowIds, sameLength⟩
  else .error (.arrow "all columns in a record batch must have the same length")

/-- The children run concurrently; where several fail, the error reported here
is that of the first in the list. -/
def indexedBatch (hashing : Nat → IterationOrder Nat ℚ) (listing : IterationOrder Nat ℚ)
    (inputs : List RecordBatchStream) (schema : List DataType) : Except DataFusionError ScoreBatch := do
  let queries ← inputs.mapM reduceStream
  let merge := Merge.addAll hashing 0 queries ⟨∅, 0⟩
  let results := listing.visit merge.results
  ScoreBatch.tryNew schema (results.map Sigma.snd) (results.map Sigma.fst)

end LanceC.Multivector
