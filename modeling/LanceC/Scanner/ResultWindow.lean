import LanceC.Multivector.ResultWindow
import LanceC.Scanner.BuilderInvariant

/-! The window a scanner hands to a multi-vector search (`build_scanner` of scanner.rs),
from the calls that set it to the rows that come out. -/

namespace LanceC.Scanner

open Logic Machine
open Multivector.ResultWindow

/-- The window of Lance's own scanner. -/
structure ScanUpstream (Scan : Type) where
  limit : Scan → Option Int → Option Int → Except LanceError Scan
  window : Scan → Option Int × Option Int

/-- An accepted window has no negative bound and replaces the one before. -/
structure ScanUpstream.Documented {Scan : Type} (upstream : ScanUpstream Scan) : Prop where
  nonneg {scanner next : Scan} {limit offset : Option Int} (accepted : upstream.limit scanner limit offset = .ok next) :
    (∀ bound ∈ limit, 0 ≤ bound) ∧ ∀ bound ∈ offset, 0 ≤ bound
  stored {scanner next : Scan} {limit offset : Option Int} (accepted : upstream.limit scanner limit offset = .ok next) :
    upstream.window next = (limit, offset)

namespace LanceScanner

section Code

variable {Scan : Type} [Target] (upstream : ScanUpstream Scan) (self : LanceScanner)

def isMultiVector : Bool := self.nearest.any (·.mode = .multiVector)

def multiVectorWindow : Option (Nat × Option Nat) :=
  if self.isMultiVector then some (asUsize (self.offset.getD 0), self.limit.map asUsize) else none

/-- What `build_scanner` does with the window, around a scanner of Lance: the scanner
it goes on with, and the window left to the final sort. -/
def buildWindow (scanner : Scan) : Except LanceError (Scan × Option (Nat × Option Nat)) := do
  if self.limit.isSome || self.offset.isSome then
    let checked ← upstream.limit scanner self.limit self.offset
    if self.isMultiVector then
      let cleared ← upstream.limit checked none none
      return (cleared, self.multiVectorWindow)
    else return (checked, self.multiVectorWindow)
  else return (scanner, self.multiVectorWindow)

end Code

/-- The window of a handle holds 64-bit values. -/
def WindowTyped (self : LanceScanner) : Prop :=
  (∀ bound ∈ self.limit, IsI64 bound) ∧ ∀ bound ∈ self.offset, IsI64 bound

end LanceScanner

namespace Setter

/-- The arguments of the two calls that set the window have type `i64`. -/
def WindowTyped : Setter → Prop
  | limit bound | offset bound => IsI64 bound
  | _ => True

/-- The limit after a call that succeeds. -/
def newLimit (stored : Option Int) : Setter → Option Int
  | limit bound => some bound
  | _ => stored

def newOffset (stored : Option Int) : Setter → Option Int
  | offset bound => some bound
  | _ => stored

end Setter

namespace LanceScanner

variable {self next : LanceScanner} [Target] {upstream : Upstream}

/-- Only the two calls for it change the window. -/
theorem set_window (setter : Setter) : Ensures (self.set upstream setter) fun next =>
    next.limit = setter.newLimit self.limit ∧ next.offset = setter.newOffset self.offset := by
  cases setter with
  | limit => exact .ite (.error _) (.ok ⟨rfl, rfl⟩)
  | offset => exact .ite (.error _) (.ok ⟨rfl, rfl⟩)
  | batchSizeBytes => exact .bind fun _ => .bind fun _ => .bind fun _ => .ok ⟨rfl, rfl⟩
  | strictBatchSize =>
    refine .bind fun _ => ?_
    split
    · exact .error _
    · exact .ok ⟨rfl, rfl⟩
  | nprobes => exact .bind fun _ => .bind fun _ => .ok ⟨rfl, rfl⟩
  | minimumNprobes => exact .bind fun _ => .bind fun _ => .ok ⟨rfl, rfl⟩
  | maximumNprobes => exact .bind fun _ => .bind fun _ => .ok ⟨rfl, rfl⟩
  | refineFactor =>
    simp only [set, setRefineFactor]
    split
    · exact .bind fun _ => .bind fun _ => .ok ⟨rfl, rfl⟩
    · exact .ok ⟨rfl, rfl⟩
  | distanceRange =>
    refine .bind fun _ => ?_
    split
    · exact .error _
    · refine .bind fun _ => .bind fun _ => .bind fun _ => ?_
      split
      · exact .bind fun _ => .ok ⟨rfl, rfl⟩
      · exact .ok ⟨rfl, rfl⟩
  | nearest => exact .bind fun _ => .bind fun _ => .bind fun _ => .bind fun _ => .bind fun _ => .ok ⟨rfl, rfl⟩
  | nearestBatch =>
    refine .bind fun _ => .bind fun _ => .bind fun _ => .bind fun _ => .bind fun _ => .bind fun _ => .bind fun _ => ?_
    split
    · exact .bind fun _ => .bind fun _ => .bind fun _ => .bind fun _ => .bind fun _ => .ok ⟨rfl, rfl⟩
    · exact .error _
  | nearestMultivector =>
    refine .bind fun _ => .bind fun _ => .bind fun _ => ?_
    split
    · split
      · exact .bind fun _ => .bind fun _ => .bind fun _ => .bind fun _ => .bind fun _ => .ok ⟨rfl, rfl⟩
      · exact .error _
    · exact .error _
  | fullTextSearch =>
    refine .bind fun _ => .bind fun _ => .bind fun _ => .bind fun _ => .bind fun columns => ?_
    rcases columns with _ | _ | ⟨column, rest⟩
    · exact .ok ⟨rfl, rfl⟩
    · exact .ok ⟨rfl, rfl⟩
    · exact .bind fun _ => .ok ⟨rfl, rfl⟩
  | ftsQueryContext => exact .bind fun _ => .bind fun _ => .bind fun _ => .bind fun _ => .ok ⟨rfl, rfl⟩
  | startScan => exact .ok ⟨rfl, rfl⟩

theorem set_windowTyped (typed : self.WindowTyped) {setter : Setter} (argument : setter.WindowTyped)
    (success : self.set upstream setter = .ok next) : next.WindowTyped := by
  obtain ⟨sameLimit, sameOffset⟩ := set_window setter next success
  rw [WindowTyped, sameLimit, sameOffset]
  cases setter with
  | limit bound => exact ⟨fun stored same => Option.some.inj same ▸ argument, typed.2⟩
  | offset bound => exact ⟨typed.1, fun stored same => Option.some.inj same ▸ argument⟩
  | _ => exact typed

theorem call_windowTyped (typed : self.WindowTyped) {setter : Setter} (argument : setter.WindowTyped) :
    (self.call upstream setter).WindowTyped := by
  unfold call
  split
  · rename_i success
    exact set_windowTyped typed argument success
  · exact typed

theorem run_windowTyped (dataset : Arc Dataset) {calls : List Setter}
    (arguments : ∀ setter ∈ calls, setter.WindowTyped) : ((new dataset).run upstream calls).WindowTyped :=
  List.foldlRecOn calls _ (by simp [new, WindowTyped]) fun _ typed setter member =>
    call_windowTyped typed (arguments setter member)

section Build

variable {Scan : Type} {lance : ScanUpstream Scan} {scanner built : Scan} {window : Option (Nat × Option Nat)}

/-- The window is accepted by Lance; what Lance keeps of it is all of it or, where it is
left to the final sort, nothing. -/
theorem buildWindow_ok (documented : lance.Documented)
    (success : self.buildWindow lance scanner = .ok (built, window)) :
    window = self.multiVectorWindow ∧
      ((∀ bound ∈ self.limit, 0 ≤ bound) ∧ ∀ bound ∈ self.offset, 0 ≤ bound) ∧
      (lance.window scanner = (none, none) →
        lance.window built = if self.isMultiVector then (none, none) else (self.limit, self.offset)) := by
  unfold buildWindow at success
  split at success
  · obtain ⟨checked, accepted, success⟩ := bind_eq_ok.mp success
    split at success
    · rename_i multi
      obtain ⟨cleared, reset, success⟩ := bind_eq_ok.mp success
      cases success
      exact ⟨rfl, documented.nonneg accepted, fun _ => by rw [if_pos multi, documented.stored reset]⟩
    · rename_i plain
      cases success
      exact ⟨rfl, documented.nonneg accepted, fun _ => by rw [if_neg plain, documented.stored accepted]⟩
  · rename_i unset
    cases success
    obtain ⟨noLimit, noOffset⟩ : self.limit = none ∧ self.offset = none := by simpa using unset
    refine ⟨rfl, by simp [noLimit, noOffset], fun fresh => ?_⟩
    rw [fresh, noLimit, noOffset, ite_self]

end Build

/-- On a 64-bit target the window left to the final sort is the one that was set. -/
theorem multiVectorWindow_eq (wide : Target.usizeBits = 64) (typed : self.WindowTyped)
    (nonneg : (∀ bound ∈ self.limit, 0 ≤ bound) ∧ ∀ bound ∈ self.offset, 0 ≤ bound) {offset : Nat}
    {limit : Option Nat} (window : self.multiVectorWindow = some (offset, limit)) :
    (offset : Int) = self.offset.getD 0 ∧ limit.map Int.ofNat = self.limit := by
  unfold multiVectorWindow at window
  split at window
  · obtain ⟨rfl, rfl⟩ := Prod.mk.inj (Option.some.inj window)
    constructor
    · cases stored : self.offset with
      | none => exact asUsize_eq wide ⟨by decide, by decide⟩ (by decide)
      | some bound => exact asUsize_eq wide (typed.2 bound stored) (nonneg.2 bound stored)
    · cases stored : self.limit with
      | none => rfl
      | some bound => exact congrArg some (asUsize_eq wide (typed.1 bound stored) (nonneg.1 bound stored))
  · cases window

theorem isSome_multiVectorWindow : self.multiVectorWindow.isSome = self.isMultiVector := by
  unfold multiVectorWindow
  split
  · next multi => rw [multi, Option.isSome_some]
  · next plain => rw [Option.isSome_none, Bool.eq_false_of_not_eq_true plain]

variable (upstream)

/-- The plan with the window produces the window by distance of the rows of the plan,
strictly batched as the plan was; and a multi-vector search, and no other, is given the
window that is set on the scanner. -/
theorem result_window_exact {Node Value Scan : Type} [LinearOrder Value] {planner : PlanUpstream Node Value}
    (plans : planner.Documented) {lance : ScanUpstream Scan} (scans : lance.Documented) :
    (∀ (plan : Plan Node) (offset : Nat) (limit : Option Nat),
      ((∃ result, applyResultWindow planner plan offset limit = .ok result) ↔
        "_distance" ∈ planner.schema plan.unbatched) ∧
      ∀ result, applyResultWindow planner plan offset limit = .ok result →
        ∀ streams, planner.Executes result streams →
          ∃ batches rows, streams = [batches] ∧
            (planner.Produces plan.unbatched rows ∧
              ((∀ size ∈ plan.batchSizes, 0 < size) → planner.Produces plan rows)) ∧
            DistanceWindow (distanceOf (planner.schema plan.unbatched)) offset limit rows batches.flatten ∧
            (offset = 0 → limit = none → batches.flatten.Perm rows) ∧
            ∀ input batchSize, plan = .strictBatchSize input batchSize → FullButLast batchSize batches) ∧
    (Target.usizeBits = 64 →
      ∀ (dataset : Arc Dataset) (calls : List Setter), (∀ setter ∈ calls, setter.WindowTyped) →
        ∀ scanner built window, ((new dataset).run upstream calls).buildWindow lance scanner = .ok (built, window) →
          window.isSome = ((new dataset).run upstream calls).isMultiVector ∧
            ∀ offset limit, window = some (offset, limit) →
              (offset : Int) = ((new dataset).run upstream calls).offset.getD 0 ∧
                limit.map Int.ofNat = ((new dataset).run upstream calls).limit) := by
  constructor
  · intro plan offset limit
    refine ⟨applyResultWindow_isOk plans plan offset limit, fun result success streams executes => ?_⟩
    obtain ⟨batches, rows, single, produced, windowed, strict⟩ := executes_applyResultWindow plans success executes
    refine ⟨batches, rows, single, ⟨produced, fun positive => produces_of_unbatched plans positive produced⟩, windowed,
      ?_, strict⟩
    rintro rfl rfl
    exact windowed.perm
  · intro wide dataset calls typed scanner built window success
    obtain ⟨rfl, nonneg, _⟩ := buildWindow_ok scans success
    refine ⟨isSome_multiVectorWindow, fun offset limit window => ?_⟩
    exact multiVectorWindow_eq wide (run_windowTyped dataset typed) nonneg window

end LanceScanner

namespace LanceScanner

/-- Lance's own scanner, cut down to its window. -/
def sampleLance : ScanUpstream (Option Int × Option Int) where
  limit _ limit offset :=
    if limit.any (· < 0) || offset.any (· < 0) then .error (.invalidInput "Limit and offset must be non-negative")
    else .ok (limit, offset)
  window := id

theorem sampleLance_documented : sampleLance.Documented where
  nonneg accepted := by
    simp only [sampleLance] at accepted
    split at accepted
    · cases accepted
    · rename_i plain
      simpa only [Bool.not_eq_true, Bool.or_eq_false_iff, Option.any_eq_false, decide_eq_false_iff_not,
        Int.not_lt, Option.mem_def] using plain
  stored accepted := by
    simp only [sampleLance] at accepted
    split at accepted
    · cases accepted
    · cases accepted
      rfl

def sampleVectors : Arc Dataset :=
  ⟨1, "memory://vectors", 1, [⟨0, some 6, []⟩], ⟨[⟨⟨0, "vectors", .list (.fixedSizeList .float32 1) false⟩, []⟩]⟩, .v2,
    false, none⟩

def sampleFields : Upstream where
  field schema path := schema.fields.find? (·.name = path)
  withColumns query _ := .ok query
  displayType _ := "type"
  debugText text := text

def sampleCalls : List Setter :=
  [.nearestMultivector (.text "vectors") ⟨64, fun _ _ => 0⟩ 1 1 0 6, .limit 4, .offset 1]

/-- Two partitions of distances, strictly batched by two. -/
def samplePlan : Plan (List (BatchStream Nat)) :=
  .strictBatchSize (.other [[[[some 5], [some 0]], [[some 4], [some 1]]], [[[some 3], [some 2]]]]) 2

def sampleBatches : BatchStream Nat := [[[some 1], [some 2]], [[some 3], [some 4]]]

theorem sampleBatches_produced :
    ∃ result, applyResultWindow (sourcePlanner ["_distance"]) samplePlan 1 (some 4) = .ok result ∧
      (sourcePlanner ["_distance"]).Executes result [sampleBatches] := by
  refine ⟨_, rfl, ?_⟩
  have rest : Rechunked 2 [[some 3], [some 4]] [[[some 3], [some 4]]] :=
    @Rechunked.full (Row Nat) 2 [[some 3], [some 4]] [] [] (by decide) rfl .done
  have rechunked : Rechunked 2 [[some 1], [some 2], [some 3], [some 4]] sampleBatches :=
    @Rechunked.full (Row Nat) 2 [[some 1], [some 2]] _ _ (by decide) rfl rest
  refine ⟨[[[[some 1], [some 2], [some 3], [some 4]]]], ?_, .cons rechunked .nil⟩
  refine ⟨[[[some 0], [some 1], [some 2], [some 3], [some 4], [some 5]]], _, ?_, rfl, rfl⟩
  refine ⟨[[[some 5], [some 0]], [[some 4], [some 1]], [[some 3], [some 2]]], _, ?_, rfl, by decide, by decide⟩
  exact ⟨_, _, rfl, rfl, .refl _⟩

theorem sampleCalls_window :
    @buildWindow _ target64 sampleLance (@run target64 sampleFields (new sampleVectors) sampleCalls) (none, none) =
      .ok ((none, none), some (1, some 4)) := by
  rfl

theorem result_window_exact_sample :
    (∃ rows, (sourcePlanner ["_distance"]).Produces samplePlan rows ∧
      DistanceWindow (distanceOf ["_distance"]) 1 (some 4) rows sampleBatches.flatten ∧
      FullButLast 2 sampleBatches) ∧
    letI := target64
    (1 : Int) = ((new sampleVectors).run sampleFields sampleCalls).offset.getD 0 ∧
      some (4 : Int) = ((new sampleVectors).run sampleFields sampleCalls).limit := by
  let _ := target64
  obtain ⟨windows, conversion⟩ :=
    result_window_exact sampleFields (@sourcePlanner_documented Nat _ ["_distance"]) sampleLance_documented
  constructor
  · obtain ⟨result, built, executes⟩ := sampleBatches_produced
    obtain ⟨batches, rows, single, ⟨_, produced⟩, windowed, _, strict⟩ :=
      (windows samplePlan 1 (some 4)).2 result built _ executes
    obtain rfl : sampleBatches = batches := by simpa using single
    exact ⟨rows, produced (by decide), windowed, strict _ _ rfl⟩
  · have typed : ∀ setter ∈ sampleCalls, setter.WindowTyped := by
      simp [sampleCalls, Setter.WindowTyped, IsI64]
    exact (conversion rfl sampleVectors sampleCalls typed (none, none) (none, none) _ sampleCalls_window).2 _ _ rfl

end LanceScanner

end LanceC.Scanner
