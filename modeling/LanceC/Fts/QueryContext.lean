import LanceC.Error
import LanceC.Machine.Arc
import LanceC.Snapshot

/-! The immutable full-text query context that segment-scoped scans share. -/

namespace LanceC.Fts

open Machine

structure FullTextSearchQuery where
  terms : String
  maxFuzzyDistance : Option Nat
  columns : List String
  deriving DecidableEq, Repr

def FullTextSearchQuery.new (terms : String) : FullTextSearchQuery := ⟨terms, none, []⟩

def FullTextSearchQuery.newFuzzy (terms : String) (maxDistance : Option Nat) : FullTextSearchQuery :=
  ⟨terms, maxDistance, []⟩

/-- An `Arc<MemBM25Scorer>`, of which only the identity matters here. -/
structure SharedScorer where
  address : Nat
  deriving DecidableEq, Repr

/-- The kind of the prepared query with the scorer all its segments share. -/
inductive PreparedFtsQuery where
  | matchQuery (scorer : SharedScorer)
  | phrase (scorer : SharedScorer)
  deriving DecidableEq, Repr

structure FtsQueryContextInner where
  dataset : Arc Dataset
  query : FullTextSearchQuery
  segments : List IndexMetadata
  prepared : PreparedFtsQuery
  deriving DecidableEq, Repr

def FtsQueryContextInner.validateDatasetIdentity (self : FtsQueryContextInner) (dataset : Arc Dataset) :
    Except LanceError Unit :=
  if !self.dataset.ptrEq dataset then
    .error (.invalidInput
      s!"FTS query context and scanner must originate from the same process-local dataset snapshot; context has uri '{self.dataset.value.uri}' version {self.dataset.value.version}, scanner has uri '{dataset.value.uri}' version {dataset.value.version}")
  else .ok ()

theorem FtsQueryContextInner.validateDatasetIdentity_ok {self : FtsQueryContextInner} {dataset : Arc Dataset} :
    self.validateDatasetIdentity dataset = .ok () ↔ self.dataset.address = dataset.address := by
  unfold validateDatasetIdentity
  split <;> simp_all [Arc.ptrEq]

/-- A NULL context handle is refused. -/
def cloneContext : Option FtsQueryContextInner → Except LanceError FtsQueryContextInner
  | none => .error (.invalidInput "context must not be NULL")
  | some context => .ok context

end LanceC.Fts
