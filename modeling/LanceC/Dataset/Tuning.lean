import LanceC.Scanner.Builder
import LanceC.Stream.EntryPoints

/-! The integer tuning arguments on their way from C to Lance: the scanner's batch size,
compaction, column addition and the write parameters (scanner.rs, compact.rs,
add_columns.rs, writer.rs). -/

namespace LanceC.Tuning

open Ffi Logic Machine Scanner LanceC.Stream

/-- The scanner with its row-based batch size, which no other setter reads. -/
structure SizedScanner extends LanceScanner where
  batchSize : Option Nat
  deriving DecidableEq

/-- `none` is a NULL scanner. -/
def scannerSetBatchSizeInner [Target] (scanner : Option SizedScanner) (batchSize : Int) :
    Except LanceError SizedScanner :=
  match scanner with
  | none => .error (.invalidInput "scanner is NULL")
  | some scanner => .ok { scanner with batchSize := some (asUsize batchSize) }

/-- The batch sizes that a prepared scan hands to Lance's scanner and to the execution of its plan. -/
structure PreparedBatchSize where
  scanner : Option Nat
  execution : Option Nat
  deriving DecidableEq, Repr

/-- `buildScanner`, where the scanner it configures comes with `initial`. -/
def SizedScanner.prepareBatchSize (self : SizedScanner) (initial : Option Nat) : PreparedBatchSize where
  scanner := match self.batchSize with
    | some batchSize => some batchSize
    | none => initial
  execution := self.batchSize

structure LanceCompactionOptions where
  targetRowsPerFragment : Nat
  maxRowsPerGroup : Nat
  maxBytesPerFile : Nat
  numThreads : Nat
  batchSize : Nat
  deriving DecidableEq, Repr

/-- Lance's own options, as far as C can override them. -/
structure CompactionOptions where
  targetRowsPerFragment : Nat
  maxRowsPerGroup : Nat
  maxBytesPerFile : Option Nat
  numThreads : Option Nat
  batchSize : Option Nat
  deriving DecidableEq, Repr

section Conversions

variable [Target]

/-- As `overrideLimit`, for a field that is optional in Lance. -/
def overrideOption (default : Option Nat) (value : Nat) (field : String) : Except LanceError (Option Nat) :=
  if 0 < value then do return some (← u64ToUsize value field) else .ok default

/-- `default` is `CompactionOptions::default()`. -/
def resolveOptions (default : CompactionOptions) (options : Option LanceCompactionOptions) :
    Except LanceError CompactionOptions :=
  match options with
  | none => .ok default
  | some opts => do
    let targetRowsPerFragment ←
      overrideLimit default.targetRowsPerFragment opts.targetRowsPerFragment "target_rows_per_fragment"
    let maxRowsPerGroup ← overrideLimit default.maxRowsPerGroup opts.maxRowsPerGroup "max_rows_per_group"
    let maxBytesPerFile ← overrideOption default.maxBytesPerFile opts.maxBytesPerFile "max_bytes_per_file"
    let numThreads ← overrideOption default.numThreads opts.numThreads "num_threads"
    let batchSize ← overrideOption default.batchSize opts.batchSize "batch_size"
    return { targetRowsPerFragment, maxRowsPerGroup, maxBytesPerFile, numThreads, batchSize }

end Conversions

section Forwarding

variable {α β : Type}

/-- The call is refused as an invalid argument, or what it hands on is `Exact`. -/
def Forwards (outcome : Except LanceError α) (Exact : α → Prop) : Prop :=
  match outcome with
  | .ok handed => Exact handed
  | .error error => errorCodeFromLance error = .invalidArgument

theorem Forwards.bind {source : Except LanceError α} {next : α → Except LanceError β} {Between : α → Prop}
    {Exact : β → Prop} (start : Forwards source Between) (rest : ∀ value, Between value → Forwards (next value) Exact) :
    Forwards (source >>= next) Exact := by
  cases source with
  | error error => exact start
  | ok value => exact rest value start

theorem Forwards.mono {source : Except LanceError α} {Exact Exact' : α → Prop} (forwards : Forwards source Exact)
    (weaker : ∀ value, Exact value → Exact' value) : Forwards source Exact' := by
  cases source with
  | error error => exact forwards
  | ok value => exact weaker value forwards

/-- What a field holds whose argument 0 keeps the default. -/
def orDefault (default : α) (embed : Nat → α) (argument : Nat) : α :=
  if argument = 0 then default else embed argument

/-- The defaults with every number that C asks for. -/
def CompactionOptions.overridden (default : CompactionOptions) : Option LanceCompactionOptions → CompactionOptions
  | none => default
  | some opts =>
    { targetRowsPerFragment := orDefault default.targetRowsPerFragment id opts.targetRowsPerFragment
      maxRowsPerGroup := orDefault default.maxRowsPerGroup id opts.maxRowsPerGroup
      maxBytesPerFile := orDefault default.maxBytesPerFile some opts.maxBytesPerFile
      numThreads := orDefault default.numThreads some opts.numThreads
      batchSize := orDefault default.batchSize some opts.batchSize }

structure CarriesCounts (target : WriteParams) (params : LanceWriteParams) (resolved : WriteParams) : Prop where
  maxRowsPerFile : resolved.maxRowsPerFile = orDefault target.maxRowsPerFile id params.maxRowsPerFile
  maxRowsPerGroup : resolved.maxRowsPerGroup = orDefault target.maxRowsPerGroup id params.maxRowsPerGroup
  maxBytesPerFile : resolved.maxBytesPerFile = orDefault target.maxBytesPerFile id params.maxBytesPerFile

variable [Target]

theorem u64ToUsize_forwards (value : Nat) (field : String) : Forwards (u64ToUsize value field) (· = value) := by
  unfold u64ToUsize
  split
  · exact rfl
  · exact rfl

theorem overrideLimit_forwards (default value : Nat) (field : String) :
    Forwards (overrideLimit default value field) (· = orDefault default id value) := by
  unfold overrideLimit
  split
  · rename_i positive
    rw [orDefault, if_neg (Nat.pos_iff_ne_zero.mp positive)]
    exact u64ToUsize_forwards value field
  · rename_i zero
    exact (if_pos (Nat.eq_zero_of_not_pos zero)).symm

theorem overrideOption_forwards (default : Option Nat) (value : Nat) (field : String) :
    Forwards (overrideOption default value field) (· = orDefault default some value) := by
  unfold overrideOption
  split
  · rename_i positive
    rw [orDefault, if_neg (Nat.pos_iff_ne_zero.mp positive)]
    exact (u64ToUsize_forwards value field).bind fun _ same => congrArg some same
  · rename_i zero
    exact (if_pos (Nat.eq_zero_of_not_pos zero)).symm

theorem resolveOptions_forwards (default : CompactionOptions) (options : Option LanceCompactionOptions) :
    Forwards (resolveOptions default options) (· = default.overridden options) := by
  cases options with
  | none => exact rfl
  | some opts =>
    apply (overrideLimit_forwards ..).bind
    rintro _ rfl
    apply (overrideLimit_forwards ..).bind
    rintro _ rfl
    apply (overrideOption_forwards ..).bind
    rintro _ rfl
    apply (overrideOption_forwards ..).bind
    rintro _ rfl
    apply (overrideOption_forwards ..).bind
    rintro _ rfl
    exact rfl

omit [Target] in
theorem resolveBatchSize_forwards (batchSize : Nat) :
    Forwards (resolveBatchSize batchSize) (· = orDefault none some batchSize) := by
  unfold resolveBatchSize
  split
  · rename_i zero
    exact (if_pos zero).symm
  · rename_i positive
    rw [orDefault, if_neg positive]
    cases narrowed : u32TryFrom batchSize with
    | none => exact rfl
    | some value => exact congrArg some (u32TryFrom_eq_some.mp narrowed).1

omit [Target] in
theorem parseStorageVersion_forwards (library : StreamLibrary) (version : CString) :
    Forwards (parseStorageVersion library version) fun _ => True := by
  cases version with
  | null => exact trivial
  | malformed message => exact rfl
  | text text =>
    by_cases empty : text = ""
    · subst empty
      exact rfl
    · cases parsed : library.parseVersion text <;>
        simp [parseStorageVersion, parseCString, refuseIf, empty, parsed, Forwards, bind, Except.bind, pure, Except.pure,
          errorCodeFromLance, LanceError.invalidInput]

theorem applyWriteParams_forwards (library : StreamLibrary) (target : WriteParams) (params : LanceWriteParams) :
    Forwards (applyWriteParams library target params) (CarriesCounts target params) := by
  apply (overrideLimit_forwards ..).bind
  rintro _ rfl
  apply (overrideLimit_forwards ..).bind
  rintro _ rfl
  apply (overrideLimit_forwards ..).bind
  rintro _ rfl
  apply (parseStorageVersion_forwards ..).bind
  intro version _
  exact { maxRowsPerFile := rfl, maxRowsPerGroup := rfl, maxBytesPerFile := rfl }

end Forwarding

/-- The calls of the C API that take integer tuning arguments, and the defaults they meet. -/
inductive TuningCall where
  | scannerBatchSize (scanner : Option SizedScanner) (batchSize : Int)
  | compaction (default : CompactionOptions) (options : Option LanceCompactionOptions)
  | addColumns (batchSize : Nat)
  | writeParams (library : StreamLibrary) (target : WriteParams) (params : LanceWriteParams)

namespace TuningCall

variable [Target]

/-- Refused, or every number that Lance is given is the argument, or its default where 0 asks for that. -/
def CrossesExactly : TuningCall → Prop
  | scannerBatchSize scanner batchSize =>
    Forwards (scannerSetBatchSizeInner scanner batchSize) fun scanner => ∀ initial, ∃ handed : Nat,
      scanner.prepareBatchSize initial = ⟨some handed, some handed⟩ ∧ (handed : Int) = batchSize
  | compaction default options =>
    Forwards (resolveOptions default options) (· = default.overridden options)
  | addColumns batchSize => Forwards (resolveBatchSize batchSize) (· = orDefault none some batchSize)
  | writeParams library target params =>
    Forwards (applyWriteParams library target params) (CarriesCounts target params)

/-- The argument is a number that the target's `usize` has. Only the scanner does not check it. -/
def InRange : TuningCall → Prop
  | scannerBatchSize (some _) batchSize => 0 ≤ batchSize ∧ batchSize ≤ usizeMax
  | _ => True

/-- The arguments cross exactly, except for a batch size of a scanner that `usize` does not have. -/
theorem crossesExactly_iff (call : TuningCall) : call.CrossesExactly ↔ call.InRange := by
  cases call with
  | compaction default options => exact iff_of_true (resolveOptions_forwards default options) trivial
  | addColumns batchSize => exact iff_of_true (resolveBatchSize_forwards batchSize) trivial
  | writeParams library target params => exact iff_of_true (applyWriteParams_forwards library target params) trivial
  | scannerBatchSize scanner batchSize =>
    cases scanner with
    | none => exact iff_of_true rfl trivial
    | some scanner =>
      rw [CrossesExactly, InRange, ← asUsize_eq_iff]
      constructor
      · intro exact
        obtain ⟨handed, prepared, same⟩ := exact none
        injection prepared with first
        injection first with first
        rwa [first]
      · exact fun same initial => ⟨asUsize batchSize, rfl, same⟩

end TuningCall

section Sample

def sampleScanner : SizedScanner :=
  { LanceScanner.new LanceDataset.sampleHandle.snapshot with batchSize := none }

/-- A batch size of -1 reaches Lance as the largest `usize`. -/
theorem scannerSetBatchSizeInner_wraps :
    letI := target64
    ¬(TuningCall.scannerBatchSize (some sampleScanner) (-1)).CrossesExactly ∧
      scannerSetBatchSizeInner (some sampleScanner) (-1) =
        .ok { sampleScanner with batchSize := some 18446744073709551615 } := by
  let _ := target64
  refine ⟨fun exact => ?_, rfl⟩
  obtain ⟨handed, prepared, same⟩ := exact none
  omega

end Sample

end LanceC.Tuning
