import LanceC.Ffi.Process

/-! Lists taken from one snapshot of a dataset and read entry by entry: its versions
(versions.rs) and the statistics of its fields (data_statistics.rs). -/

namespace LanceC

open Machine

section Lists

variable {B E α : Type}

/-- The box of what Lance reports on the current snapshot. -/
def listInner (report : Dataset → Unwind (Except LanceError α)) (convert : α → B) :
    Body (Process (Heap B)) LanceError Nat := do
  match (← Body.get).dataset with
  | none => Body.ofExcept (.error (.invalidInput "dataset must not be NULL"))
  | some ds =>
    let reported ← Body.ofUnwind (report ds.snapshot.value)
    Process.intoRaw (convert reported)

def listCount (name : String) (entries : B → List E) (list : Option B) : Except LanceError Nat :=
  match list with
  | none => .error (.invalidInput s!"{name} is NULL")
  | some v => .ok (entries v).length

def listEntryAt (name entry : String) (entries : B → List E) (list : Option B) (index : Nat) : Except LanceError E :=
  match list with
  | none => .error (.invalidInput s!"{name} is NULL")
  | some v =>
    match (entries v)[index]? with
    | some found => .ok found
    | none => .error (.invalidInput s!"{entry} index {index} out of range; count = {(entries v).length}")

end Lists

/-- The instant of a version: seconds since the epoch and nanoseconds after them. -/
structure DateTime where
  seconds : Int
  nanos : Nat
  deriving DecidableEq, Repr

def DateTime.timestampMillis (instant : DateTime) : Int := instant.seconds * 1000 + (instant.nanos / 1000000 : Nat)

/-- Lance's record of a version. -/
structure Version where
  version : Nat
  timestamp : DateTime
  deriving DecidableEq, Repr

structure VersionEntry where
  id : Nat
  timestampMs : Int
  deriving DecidableEq, Repr

structure LanceVersions where
  entries : List VersionEntry
  deriving DecidableEq, Repr

namespace LanceVersions

def ofVersions (versions : List Version) : LanceVersions :=
  ⟨versions.map fun v => ⟨v.version, v.timestamp.timestampMillis⟩⟩

def versionsInner (versions : Dataset → Unwind (Except LanceError (List Version))) :
    Body (Process (Heap LanceVersions)) LanceError Nat := listInner versions ofVersions

def countInner : Option LanceVersions → Except LanceError Nat := listCount "versions" entries

def entryAt : Option LanceVersions → Nat → Except LanceError VersionEntry := listEntryAt "versions" "version" entries

def idAtInner (versions : Option LanceVersions) (index : Nat) : Except LanceError Nat :=
  (entryAt versions index).map VersionEntry.id

def timestampMsAtInner (versions : Option LanceVersions) (index : Nat) : Except LanceError Int :=
  (entryAt versions index).map VersionEntry.timestampMs

end LanceVersions

/-- The statistics of a field, in Lance's record and in the box alike. -/
structure FieldStat where
  id : Nat
  bytesOnDisk : Nat
  deriving DecidableEq, Repr

structure LanceDataStatistics where
  fields : List FieldStat
  deriving DecidableEq, Repr

namespace LanceDataStatistics

def calculateInner (calculateDataStats : Dataset → Unwind (Except LanceError (List FieldStat))) :
    Body (Process (Heap LanceDataStatistics)) LanceError Nat := listInner calculateDataStats LanceDataStatistics.mk

def countInner : Option LanceDataStatistics → Except LanceError Nat := listCount "stats" fields

def entryAt : Option LanceDataStatistics → Nat → Except LanceError FieldStat :=
  listEntryAt "stats" "field statistics" fields

def fieldIdAtInner (stats : Option LanceDataStatistics) (index : Nat) : Except LanceError Nat :=
  (entryAt stats index).map FieldStat.id

def bytesOnDiskAtInner (stats : Option LanceDataStatistics) (index : Nat) : Except LanceError Nat :=
  (entryAt stats index).map FieldStat.bytesOnDisk

end LanceDataStatistics

section Entries

variable {B E : Type} {name entry : String} {entries : B → List E} {box : B}

theorem listEntryAt_of_lt {index : Nat} (inside : index < (entries box).length) :
    listEntryAt name entry entries (some box) index = .ok (entries box)[index] := by
  rw [listEntryAt, List.getElem?_eq_getElem inside]

end Entries

end LanceC
