import LanceC.Index.ModelSchema
import LanceC.Index.VectorParams
import LanceC.Logic.ParseInt

/-! The provenance that the trainers record in a model's metadata and that the segment builder
and the PQ trainer read back (`model_provenance`). -/

namespace LanceC.Index

open Logic Machine

def LanceMetricType.fromC (value : Int) : Except LanceError LanceMetricType :=
  match value with
  | 0 => .ok .l2
  | 1 => .ok .cosine
  | 2 => .ok .dot
  | 3 => .ok .hamming
  | _ => .error (.invalidInput
      s!"metric must be one of 0 (L2), 1 (Cosine), 2 (Dot), or 3 (Hamming); got {value}")

/-- `metric as i32`. -/
def LanceMetricType.code : LanceMetricType → Nat
  | l2 => 0
  | cosine => 1
  | dot => 2
  | hamming => 3

theorem LanceMetricType.fromC_eq_ok {value : Int} {metric : LanceMetricType} :
    fromC value = .ok metric ↔ value = metric.code := by
  unfold fromC
  split <;> cases metric <;> simp_all [code]

theorem LanceMetricType.code_injective : Function.Injective code := by
  intro left right same
  have known := fromC_eq_ok.mpr (congrArg Nat.cast same)
  exact Except.ok.inj ((fromC_eq_ok.mpr rfl).symm.trans known)

theorem LanceMetricType.code_le (metric : LanceMetricType) : metric.code ≤ i32Max := by
  cases metric <;> decide

def modelKindKey : String := "lance:index_model:kind"
def modelMetricKey : String := "lance:index_model:metric"
def modelDimensionKey : String := "lance:index_model:dimension"
def ivfModelIdKey : String := "lance:index_model:ivf_id"
def pqSubVectorsKey : String := "lance:index_model:num_sub_vectors"
def pqBitsKey : String := "lance:index_model:num_bits"

structure ModelProvenance where
  kind : String
  metric : Int
  dimension : Nat
  ivfId : Uuid
  numSubVectors : Option Nat
  numBits : Option Nat
  deriving DecidableEq, Repr

section Decoding

variable [Target]

/-- `value.parse()`, its error put into a message. -/
def parseMetadata {α : Type} (read : Except IntErrorKind α) (message : String → String) : Except LanceError α :=
  match read with
  | .ok value => .ok value
  | .error error => .error (.invalidInput (message error.text))

def required (field : ArrowField) (name key : String) : Except LanceError String :=
  match field.metadata.lookup key with
  | some value => .ok value
  | none => .error (.invalidInput s!"{name}_schema metadata is missing required key '{key}'")

def optionalU32 (field : ArrowField) (name key : String) : Except LanceError (Option Nat) :=
  match field.metadata.lookup key with
  | none => .ok none
  | some value => do
    return some (← parseMetadata (parseUnsigned u32Max value) fun error =>
      s!"{name}_schema metadata '{key}' value '{value}' is invalid: {error}")

/-- The provenance in a field's metadata; `parseStr` is `Uuid::parse_str`. -/
def fieldProvenance (parseStr : String → Except String Uuid) (field : ArrowField) (name : String) :
    Except LanceError ModelProvenance := do
  let metric ← parseMetadata (parseSigned i32Max (← required field name modelMetricKey)) fun error =>
    s!"{name}_schema metadata '{modelMetricKey}' is invalid: {error}"
  let dimension ← parseMetadata (parseUnsigned usizeMax (← required field name modelDimensionKey)) fun error =>
    s!"{name}_schema metadata '{modelDimensionKey}' is invalid: {error}"
  let ivfId ← match parseStr (← required field name ivfModelIdKey) with
    | .ok ivfId => .ok ivfId
    | .error error => .error (.invalidInput s!"{name}_schema metadata '{ivfModelIdKey}' is invalid: {error}")
  return {
    kind := ← required field name modelKindKey, metric, dimension, ivfId
    numSubVectors := ← optionalU32 field name pqSubVectorsKey
    numBits := ← optionalU32 field name pqBitsKey }

def modelProvenance (parseStr : String → Except String Uuid) (arrow : SchemaConversion) (memory : SchemaMemory)
    (schema : Option Nat) (name : String) : Except LanceError ModelProvenance := do
  let field ← validateModelSchema arrow memory schema name
  fieldProvenance parseStr field name

end Decoding

/-- What `train_ivf_model_inner` puts into the metadata. -/
def ivfMetadata (metric : LanceMetricType) (dim : Nat) (ivfId : Uuid) : List (String × String) :=
  [(modelKindKey, "ivf"), (modelMetricKey, toString metric.code), (modelDimensionKey, toString dim),
    (ivfModelIdKey, ivfId.text)]

/-- What `train_pq_model_inner` puts into the metadata. -/
def pqMetadata (metric : LanceMetricType) (dim : Nat) (ivfId : Uuid) (numSubVectors numBits : Nat) :
    List (String × String) :=
  [(modelKindKey, "pq"), (modelMetricKey, toString metric.code), (modelDimensionKey, toString dim),
    (ivfModelIdKey, ivfId.text), (pqSubVectorsKey, toString numSubVectors), (pqBitsKey, toString numBits)]

section RoundTrip

variable [Target] {parseStr : String → Except String Uuid} {field : ArrowField} {name : String}
variable {metric : LanceMetricType} {dim numSubVectors numBits : Nat} {ivfId : Uuid}

omit [Target] in
theorem required_eq_ok {key value : String} (recorded : field.metadata.lookup key = some value) :
    required field name key = .ok value := by
  rw [required, recorded]

omit [Target] in
theorem optionalU32_absent {key : String} (absent : field.metadata.lookup key = none) :
    optionalU32 field name key = .ok none := by
  rw [optionalU32, absent]

omit [Target] in
theorem optionalU32_recorded {key : String} {value : Nat} (narrow : value ≤ u32Max)
    (recorded : field.metadata.lookup key = some (toString value)) :
    optionalU32 field name key = .ok (some value) := by
  have read : parseUnsigned u32Max (toString value) = .ok value := parseUnsigned_repr narrow
  simp only [optionalU32, recorded, read, parseMetadata]
  rfl

/-- The numbers and the id that were printed are read back. -/
theorem fieldProvenance_of_lookup {kind : String} {subVectors bits : Option Nat}
    (identified : parseStr ivfId.text = .ok ivfId) (narrow : dim ≤ usizeMax)
    (hasKind : field.metadata.lookup modelKindKey = some kind)
    (hasMetric : field.metadata.lookup modelMetricKey = some (toString metric.code))
    (hasDimension : field.metadata.lookup modelDimensionKey = some (toString dim))
    (hasId : field.metadata.lookup ivfModelIdKey = some ivfId.text)
    (hasSubVectors : optionalU32 field name pqSubVectorsKey = .ok subVectors)
    (hasBits : optionalU32 field name pqBitsKey = .ok bits) :
    fieldProvenance parseStr field name = .ok ⟨kind, metric.code, dim, ivfId, subVectors, bits⟩ := by
  have readMetric : parseSigned i32Max (toString metric.code) = .ok (metric.code : Int) :=
    parseSigned_repr metric.code_le
  have readDimension : parseUnsigned usizeMax (toString dim) = .ok dim := parseUnsigned_repr narrow
  simp only [fieldProvenance, required_eq_ok hasKind, required_eq_ok hasMetric, required_eq_ok hasDimension,
    required_eq_ok hasId, hasSubVectors, hasBits, bind, Except.bind, readMetric, readDimension, parseMetadata, identified]
  rfl

theorem fieldProvenance_ivfMetadata (identified : parseStr ivfId.text = .ok ivfId) (narrow : dim ≤ usizeMax)
    (same : ∀ key, field.metadata.lookup key = (ivfMetadata metric dim ivfId).lookup key) :
    fieldProvenance parseStr field name = .ok ⟨"ivf", metric.code, dim, ivfId, none, none⟩ :=
  fieldProvenance_of_lookup identified narrow ((same _).trans rfl) ((same _).trans rfl) ((same _).trans rfl)
    ((same _).trans rfl) (optionalU32_absent ((same _).trans rfl)) (optionalU32_absent ((same _).trans rfl))

theorem fieldProvenance_pqMetadata (identified : parseStr ivfId.text = .ok ivfId) (narrow : dim ≤ usizeMax)
    (subVectors : numSubVectors ≤ u32Max) (bits : numBits ≤ u32Max)
    (same : ∀ key, field.metadata.lookup key = (pqMetadata metric dim ivfId numSubVectors numBits).lookup key) :
    fieldProvenance parseStr field name = .ok ⟨"pq", metric.code, dim, ivfId, some numSubVectors, some numBits⟩ :=
  fieldProvenance_of_lookup identified narrow ((same _).trans rfl) ((same _).trans rfl) ((same _).trans rfl)
    ((same _).trans rfl) (optionalU32_recorded subVectors ((same _).trans rfl))
    (optionalU32_recorded bits ((same _).trans rfl))

end RoundTrip

end LanceC.Index
