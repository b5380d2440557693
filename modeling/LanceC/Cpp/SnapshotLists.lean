import LanceC.Cpp.Calls
import LanceC.Dataset.SnapshotLists

/-! The C++ wrappers that copy a list out of a snapshot (lance.hpp), while other threads mutate
the dataset. -/

namespace LanceC.Cpp

open ErrorState Ffi Machine

variable {S B X Y Info T α : Type}

/-- What differs between the wrappers. -/
structure ListCalls (B X Y Info : Type) where
  opening : Body (Process (Heap B)) LanceError Nat
  count : Option B → Except LanceError Nat
  first : Option B → Nat → Except LanceError X
  second : Option B → Nat → Except LanceError Y
  errorFirst : X
  errorSecond : Y
  info : X → Y → Info

section Wrappers

variable (display : LanceError → Unwind String) (memory : Nat → Bool)

/-- An accessor of the box and the check after it. -/
def access (snap : Nat) (accessor : Option B → Except LanceError T) (sentinel : T) : Threaded (Process (Heap B)) T := do
  let box ← borrow snap
  byValue (api display (Body.ofExcept (accessor (some box))) sentinel)

/-- `for (uint64_t i = index; i < index + remaining; i++) { .. out.push_back(info); }`. -/
def ListCalls.gather (calls : ListCalls B X Y Info) (snap : Nat) :
    Nat → Nat → List Info → Threaded (Process (Heap B)) (List Info)
  | 0, _, out => return out
  | remaining + 1, index, out => do
    let first ← access display snap (calls.first · index) calls.errorFirst
    let second ← access display snap (calls.second · index) calls.errorSecond
    calls.gather snap remaining (index + 1) (out ++ [calls.info first second])

def ListCalls.list (calls : ListCalls B X Y Info) : Threaded (Process (Heap B)) (List Info) := do
  let raw ← byPointer (api display calls.opening 0)
  inHandle raw do
    let n ← access display raw calls.count 0
    reserve memory n
    calls.gather display raw n 0 []

end Wrappers

structure VersionInfo where
  id : Nat
  timestampMs : Int
  deriving DecidableEq, Repr

structure FieldStatistics where
  id : Nat
  bytesOnDisk : Nat
  deriving DecidableEq, Repr

/-- What the wrappers reach in Lance, and the memory they find. -/
structure ListUpstream where
  versions : Dataset → Unwind (Except LanceError (List Version))
  calculateDataStats : Dataset → Unwind (Except LanceError (List FieldStat))
  display : LanceError → Unwind String
  memory : Nat → Bool

def versionCalls (upstream : ListUpstream) : ListCalls LanceVersions Nat Int VersionInfo where
  opening := LanceVersions.versionsInner upstream.versions
  count := LanceVersions.countInner
  first := LanceVersions.idAtInner
  second := LanceVersions.timestampMsAtInner
  errorFirst := 0
  errorSecond := 0
  info := VersionInfo.mk

def versions (upstream : ListUpstream) : Threaded (Process (Heap LanceVersions)) (List VersionInfo) :=
  (versionCalls upstream).list upstream.display upstream.memory

def statisticsCalls (upstream : ListUpstream) : ListCalls LanceDataStatistics Nat Nat FieldStatistics where
  opening := LanceDataStatistics.calculateInner upstream.calculateDataStats
  count := LanceDataStatistics.countInner
  first := LanceDataStatistics.fieldIdAtInner
  second := LanceDataStatistics.bytesOnDiskAtInner
  errorFirst := 0
  errorSecond := 0
  info := FieldStatistics.mk

def calculateDataStats (upstream : ListUpstream) :
    Threaded (Process (Heap LanceDataStatistics)) (List FieldStatistics) :=
  (statisticsCalls upstream).list upstream.display upstream.memory

/-- What Lance reports on the dataset behind a handle. -/
def reported (report : Dataset → Unwind (Except LanceError α)) (infos : α → List Info) :
    Option LanceDataset → Unwind (Except LanceError (List Info))
  | none => .returned (.error (.invalidInput "dataset must not be NULL"))
  | some ds => do return (← report ds.inner.value).map infos

/-- What the caller of a wrapper is owed for that: the list, or the failure as an exception. -/
def owed (display : LanceError → Unwind String) (memory : Nat → Bool) (report : Unwind (Except LanceError (List Info))) :
    Except Exception (List Info) := do
  let infos ← (guardedResult display report).mapError .ofLast
  if memory infos.length then .ok infos else .error .allocation

section Lists

variable {display : LanceError → Unwind String} {memory : Nat → Bool} {thread : Thread (Process (Heap B))}
variable {calls : ListCalls B X Y Info} {report : Dataset → Unwind (Except LanceError α)} {convert : α → B}
variable {infos : α → List Info} {value : α}

/-- The calls list what is in their box. -/
structure ListCalls.Lists (calls : ListCalls B X Y Info) (report : Dataset → Unwind (Except LanceError α))
    (convert : α → B) (infos : α → List Info) : Prop where
  opening : calls.opening = listInner report convert
  count : ∀ value, calls.count (some (convert value)) = .ok (infos value).length
  entry : ∀ value index (inside : index < (infos value).length), ∃ first second,
    calls.first (some (convert value)) index = .ok first ∧ calls.second (some (convert value)) index = .ok second ∧
      calls.info first second = (infos value)[index]

theorem access_ok {snap : Nat} {box : B} {accessor : Option B → Except LanceError T} {sentinel result : T}
    (live : thread.world.own.deref snap = some box) (returned : accessor (some box) = .ok result) :
    access display snap accessor sentinel thread = (.returned (.ok result), ⟨none, thread.world.overtaken⟩) := by
  have borrowed : borrow snap thread = (.returned (.ok box), thread) := by rw [borrow, live]
  rw [access, Body.bind_of_ok borrowed, byValue_apply, returned]
  rfl

/-- The loop reads on from where it is, whatever the other threads do. -/
theorem gather_apply (lists : calls.Lists report convert infos) {snap : Nat} (remaining index : Nat) (out : List Info)
    (process : Process (Heap B)) (live : process.own.deref snap = some (convert value))
    (inside : index + remaining = (infos value).length) : ∃ reached : Process (Heap B), reached.own = process.own ∧
      calls.gather display snap remaining index out ⟨none, process⟩ =
        (.returned (.ok (out ++ (infos value).drop index)), ⟨none, reached⟩) := by
  induction remaining generalizing index out process with
  | zero =>
    refine ⟨process, rfl, ?_⟩
    rw [List.drop_of_length_le (by omega), List.append_nil]
    rfl
  | succ remaining ih =>
    have here : index < (infos value).length := by omega
    obtain ⟨first, second, firstRead, secondRead, read⟩ := lists.entry value index here
    have again : process.overtaken.own.deref snap = some (convert value) := by rw [Process.overtaken_own, live]
    have later : process.overtaken.overtaken.own.deref snap = some (convert value) := by
      rw [Process.overtaken_own, again]
    obtain ⟨reached, kept, ran⟩ := ih (index + 1) (out ++ [(infos value)[index]]) process.overtaken.overtaken later
      (by omega)
    refine ⟨reached, by rw [kept, Process.overtaken_own, Process.overtaken_own], ?_⟩
    rw [ListCalls.gather, Body.bind_of_ok (access_ok live firstRead), Body.bind_of_ok (access_ok again secondRead), read,
      ran, List.append_assoc, List.singleton_append, ← List.drop_eq_getElem_cons here]

/-- The box is made, or the failure is the one that the caller is owed. -/
theorem listInner_apply (display : LanceError → Unwind String) (report : Dataset → Unwind (Except LanceError α))
    (convert : α → B) (infos : α → List Info) (process : Process (Heap B)) :
    (∃ value, reported report infos process.dataset = .returned (.ok (infos value)) ∧
      listInner report convert process = Process.intoRaw (convert value) process) ∨
    ∃ error, guardedResult display (reported report infos process.dataset) = .error error ∧
      guardedResult display (listInner report convert process).1 = .error error ∧
      (listInner report convert process).2 = process := by
  have failing : ∀ failure : LanceError, ∃ error, ∀ T : Type,
      guardedResult display (.returned (.error failure) : Unwind (Except LanceError T)) = .error error := by
    intro failure
    cases shown : display failure with
    | returned text => exact ⟨.of (errorCodeFromLance failure) text, fun T => by rw [guardedResult, shown]⟩
    | panicked payload => exact ⟨.of .panic (panicInCall payload), fun T => by rw [guardedResult, shown]⟩
  rcases process with ⟨_ | ds, others, heap⟩
  · obtain ⟨error, shown⟩ := failing (.invalidInput "dataset must not be NULL")
    exact .inr ⟨error, shown _, shown _, rfl⟩
  · have inner : listInner report convert ⟨some ds, others, heap⟩ =
        (Body.ofUnwind (report ds.inner.value) >>= fun value => Process.intoRaw (convert value))
          ⟨some ds, others, heap⟩ := rfl
    rw [reported, inner]
    cases report ds.inner.value with
    | panicked payload => exact .inr ⟨_, rfl, rfl, rfl⟩
    | returned result =>
      cases result with
      | ok value => exact .inl ⟨value, rfl, rfl⟩
      | error failure =>
        obtain ⟨error, shown⟩ := failing failure
        exact .inr ⟨error, shown _, shown _, rfl⟩

/-- What runs while the handle is open. -/
theorem inside_apply (display : LanceError → Unwind String) (memory : Nat → Bool)
    (lists : calls.Lists report convert infos) {snap : Nat} (process : Process (Heap B))
    (live : process.own.deref snap = some (convert value)) : ∃ reached : Process (Heap B), reached.own = process.own ∧
      (do
        let n ← access display snap calls.count 0
        reserve memory n
        calls.gather display snap n 0 []) ⟨none, process⟩ =
        (.returned (if memory (infos value).length then .ok (infos value) else .error .allocation), ⟨none, reached⟩) := by
  have again : process.overtaken.own.deref snap = some (convert value) := by rw [Process.overtaken_own, live]
  rw [Body.bind_of_ok (access_ok live (lists.count value))]
  by_cases room : memory (infos value).length
  · have reserved : (reserve memory (infos value).length : Threaded (Process (Heap B)) Unit) ⟨none, process.overtaken⟩ =
        (.returned (.ok ()), ⟨none, process.overtaken⟩) := by
      rw [reserve, if_pos room]
      rfl
    obtain ⟨reached, kept, ran⟩ := gather_apply lists (infos value).length 0 [] process.overtaken again (Nat.zero_add _)
    refine ⟨reached, by rw [kept, Process.overtaken_own], ?_⟩
    rw [Body.bind_of_ok reserved, ran, if_pos room]
    rfl
  · have reserved : (reserve memory (infos value).length : Threaded (Process (Heap B)) Unit) ⟨none, process.overtaken⟩ =
        (.returned (.error .allocation), ⟨none, process.overtaken⟩) := by
      rw [reserve, if_neg room]
      rfl
    refine ⟨process.overtaken, Process.overtaken_own _, ?_⟩
    rw [Body.bind_of_error reserved, if_neg room]

/-- Whatever error is pending and whatever the other threads do, a wrapper delivers the list of the
snapshot its first call reads and closes its box. -/
theorem ListCalls.list_apply (lists : calls.Lists report convert infos) (thread : Thread (Process (Heap B))) :
    ∃ reached : Process (Heap B), reached.own.live = thread.world.own.live ∧ calls.list display memory thread =
      (.returned (owed display memory (reported report infos thread.world.overtaken.dataset)), ⟨none, reached⟩) := by
  have opened := byPointer_apply (api display calls.opening 0) thread
  have body : (api display calls.opening 0).body thread.world = listInner report convert thread.world.overtaken := by
    rw [api, lists.opening]
  rw [Entry.thrown, Entry.ends, body] at opened
  rcases listInner_apply display report convert infos thread.world.overtaken with
    ⟨value, known, ran⟩ | ⟨error, known, failed, kept⟩
  · have made : byPointer (api display calls.opening 0) thread =
        (.returned (.ok (thread.world.overtaken.own.intoRaw (convert value)).1),
          ⟨none, { thread.world.overtaken with own := (thread.world.overtaken.own.intoRaw (convert value)).2 }⟩) := by
      rw [opened, ran]
      rfl
    obtain ⟨reached, kept, delivered⟩ := inside_apply display memory lists
      { thread.world.overtaken with own := (thread.world.overtaken.own.intoRaw (convert value)).2 }
      (Heap.deref_intoRaw _ _)
    obtain ⟨after, live, closed⟩ := inHandle_apply delivered kept
    refine ⟨after, by rw [live, Process.overtaken_own], ?_⟩
    rw [ListCalls.list, Body.bind_of_ok made, closed, known]
    rfl
  · refine ⟨thread.world.overtaken, by rw [Process.overtaken_own], ?_⟩
    have display_eq : (api display calls.opening 0).display = display := rfl
    rw [display_eq, failed, kept] at opened
    rw [ListCalls.list, Body.bind_of_error opened, owed, known]
    rfl

end Lists

def versionInfos (versions : List Version) : List VersionInfo :=
  versions.map fun v => ⟨v.version, v.timestamp.timestampMillis⟩

def fieldStatistics (stats : List FieldStat) : List FieldStatistics := stats.map fun stat => ⟨stat.id, stat.bytesOnDisk⟩

theorem versionCalls_lists (upstream : ListUpstream) :
    (versionCalls upstream).Lists upstream.versions LanceVersions.ofVersions versionInfos where
  opening := rfl
  count versions := by
    have counted : (versionCalls upstream).count (some (.ofVersions versions)) =
        .ok (LanceVersions.ofVersions versions).entries.length := rfl
    rw [counted, versionInfos, List.length_map, LanceVersions.ofVersions, List.length_map]
  entry versions index inside := by
    have entry : LanceVersions.entryAt (some (.ofVersions versions)) index = .ok _ :=
      listEntryAt_of_lt (by simpa [LanceVersions.ofVersions, versionInfos] using inside)
    refine ⟨_, _, congrArg (Except.map VersionEntry.id) entry, congrArg (Except.map VersionEntry.timestampMs) entry, ?_⟩
    simp [versionCalls, versionInfos, LanceVersions.ofVersions]

theorem statisticsCalls_lists (upstream : ListUpstream) :
    (statisticsCalls upstream).Lists upstream.calculateDataStats LanceDataStatistics.mk fieldStatistics where
  opening := rfl
  count stats := by
    rw [fieldStatistics, List.length_map]
    rfl
  entry stats index inside := by
    have entry : LanceDataStatistics.entryAt (some ⟨stats⟩) index = .ok _ :=
      listEntryAt_of_lt (by simpa [fieldStatistics] using inside)
    refine ⟨_, _, congrArg (Except.map FieldStat.id) entry, congrArg (Except.map FieldStat.bytesOnDisk) entry, ?_⟩
    simp [statisticsCalls, fieldStatistics]

/-- From every thread, with any error left over and any turns of the other threads, both wrappers
deliver exactly what Lance reports on the snapshot that their first call reads, or throw its failure or
the lack of memory; no error stays behind and no box stays open. -/
theorem snapshotLists_exact (upstream : ListUpstream) :
    (∀ thread : Thread (Process (Heap LanceVersions)), ∃ reached : Process (Heap LanceVersions),
      reached.own.live = thread.world.own.live ∧ versions upstream thread = (.returned (owed upstream.display upstream.memory
        (reported upstream.versions versionInfos thread.world.overtaken.dataset)), ⟨none, reached⟩)) ∧
    ∀ thread : Thread (Process (Heap LanceDataStatistics)), ∃ reached : Process (Heap LanceDataStatistics),
      reached.own.live = thread.world.own.live ∧ calculateDataStats upstream thread =
        (.returned (owed upstream.display upstream.memory
          (reported upstream.calculateDataStats fieldStatistics thread.world.overtaken.dataset)), ⟨none, reached⟩) :=
  ⟨ListCalls.list_apply (versionCalls_lists upstream), ListCalls.list_apply (statisticsCalls_lists upstream)⟩

end LanceC.Cpp
