import LanceC.Dataset.Tuning
import LanceC.Index.VectorParams

/-! The entry points that change a dataset in place (update.rs, delete.rs, drop_columns.rs,
alter_columns.rs, add_columns.rs, compact.rs, index.rs). What a closure captures is a
`LanceMutation`; the stream and segment entry points have modules of their own. -/

namespace LanceC.Mutations

open Ffi Index Logic Machine Tuning LanceC.Stream

structure LanceCompactionMetrics where
  fragmentsRemoved : Nat
  fragmentsAdded : Nat
  filesRemoved : Nat
  filesAdded : Nat
  deriving DecidableEq, Repr

inductive LanceColumnNullableMode where
  | unchanged
  | true
  | false
  deriving DecidableEq, Repr

def LanceColumnNullableMode.fromRaw (raw : Int) : Except LanceError LanceColumnNullableMode :=
  match raw with
  | 0 => .ok .unchanged
  | 1 => .ok .true
  | 2 => .ok .false
  | other => .error (.invalidInput
      s!"invalid nullable_mode {other}; expected 0..=2 (see LanceColumnNullableMode)")

def LanceColumnNullableMode.toOption : LanceColumnNullableMode → Option Bool
  | unchanged => none
  | .true => some Bool.true
  | .false => some Bool.false

/-- A borrowed `FFI_ArrowSchema`: whether it has a release callback, and its format string. -/
structure BorrowedSchema extends FFIArrowSchema where
  release : Bool
  format : CString
  deriving DecidableEq, Repr

structure LanceColumnAlteration where
  path : CString
  rename : CString
  nullableMode : Int
  dataType : Option BorrowedSchema
  deriving DecidableEq, Repr

structure LanceSqlColumn where
  name : CString
  expression : CString
  deriving DecidableEq, Repr

/-- Lance's own form of an alteration. -/
structure ColumnAlteration where
  path : String
  rename : Option String
  nullable : Option Bool
  dataType : Option DataType
  deriving DecidableEq, Repr

inductive NewColumnTransform where
  | sqlExpressions (pairs : List (String × String))
  | allNulls (schema : ArrowSchema)
  deriving DecidableEq, Repr

inductive IndexParams where
  | scalar (builtin : BuiltinIndexType) (params : Option String)
  | vector (params : LanceCoreVectorIndexParams Unit Unit)
  deriving DecidableEq, Repr

/-- The mutation of Lance that an entry point runs, with what its closure captures. -/
inductive LanceMutation where
  | update (predicate : Option String) (pairs : List (String × String))
  | delete (predicate : String)
  | dropColumns (columns : List String)
  | alterColumns (alterations : List ColumnAlteration)
  | addColumns (transform : NewColumnTransform) (batchSize : Option Nat)
  | compactFiles (options : CompactionOptions)
  | createIndex (column : String) (indexType : IndexType) (name : Option String) (params : IndexParams)
      (replace : Bool)
  | dropIndex (name : String)
  deriving DecidableEq

inductive MutationResult where
  | done
  | rows (count : Nat)
  | compaction (metrics : LanceCompactionMetrics)
  deriving DecidableEq, Repr

/-- What the entry points call in Lance and Arrow. `held` and `allocator` are the snapshots alive
elsewhere and the memory the handle's next one gets; `alterationWords` is the size of Lance's
`ColumnAlteration` in machine words. -/
structure MutationUpstream (UpdateBuilder : Type) where
  newUpdate : Dataset → UpdateBuilder
  updateWhere : UpdateBuilder → String → Unwind (Except LanceError UpdateBuilder)
  set : UpdateBuilder → String → String → Unwind (Except LanceError UpdateBuilder)
  execute : UpdateBuilder → Unwind (Except LanceError (Dataset × Nat))
  delete : String → Mutation Nat
  dropColumns : List String → Mutation Unit
  alterColumns : List ColumnAlteration → Mutation Unit
  addColumns : NewColumnTransform → Option Nat → Mutation Unit
  compactFiles : CompactionOptions → Mutation LanceCompactionMetrics
  createIndex : String → IndexType → Option String → IndexParams → Bool → Mutation Unit
  dropIndex : String → Mutation Unit
  defaultCompaction : CompactionOptions
  importDataType : BorrowedSchema → Unwind (Except String DataType)
  importSchema : BorrowedSchema → Unwind (Except String ArrowSchema)
  alterationWords : Nat
  held : List (Arc Dataset)
  allocator : Allocator

/-- The resolution of a call's arguments, before the dataset is touched. -/
abbrev Arguments := Except (Stop LanceError)

/-- The caller's variables behind the out pointers. -/
structure OutSlots where
  rows : Nat
  metrics : LanceCompactionMetrics
  deriving DecidableEq, Repr

/-- `none` is a NULL dataset. -/
structure MutationWorld where
  handle : Option LanceDataset
  slots : OutSlots
  deriving DecidableEq, Repr

/-- `out` says that the out pointer is not NULL. -/
def OutSlots.store (out : Bool) (slots : OutSlots) : MutationResult → OutSlots
  | .done => slots
  | .rows count => if out then { slots with rows := count } else slots
  | .compaction metrics => if out then { slots with metrics } else slots

variable {UpdateBuilder : Type}

/-- A mutation that reports its result as the C API does. -/
def reporting {R : Type} (report : R → MutationResult) (mutation : Mutation R) : Mutation MutationResult :=
  fun dataset => match mutation dataset with
    | (.returned (.ok result), working) => (.returned (.ok (report result)), working)
    | (.returned (.error error), working) => (.returned (.error error), working)
    | (.panicked payload, working) => (.panicked payload, working)

section Upstream

variable (upstream : MutationUpstream UpdateBuilder)

/-- `builder.set(col, val)?` for each pair. -/
def setAll (builder : UpdateBuilder) : List (String × String) → Unwind (Except LanceError UpdateBuilder)
  | [] => .returned (.ok builder)
  | (column, value) :: rest =>
    match upstream.set builder column value with
    | .returned (.ok builder) => setAll builder rest
    | refused => refused

/-- The closure of `update_inner`: the builder starts from the working clone, which its result replaces. -/
def updateRows (predicate : Option String) (pairs : List (String × String)) : Mutation Nat := fun dataset =>
  let filtered : Unwind (Except LanceError UpdateBuilder) := match predicate with
    | none => .returned (.ok (upstream.newUpdate dataset))
    | some predicate => upstream.updateWhere (upstream.newUpdate dataset) predicate
  match filtered with
  | .panicked payload => (.panicked payload, dataset)
  | .returned (.error error) => (.returned (.error error), dataset)
  | .returned (.ok builder) =>
    match setAll upstream builder pairs with
    | .panicked payload => (.panicked payload, dataset)
    | .returned (.error error) => (.returned (.error error), dataset)
    | .returned (.ok builder) =>
      match upstream.execute builder with
      | .panicked payload => (.panicked payload, dataset)
      | .returned (.error error) => (.returned (.error error), dataset)
      | .returned (.ok (updated, rows)) => (.returned (.ok rows), updated)

/-- What the closure does to the working clone. -/
def LanceMutation.perform : LanceMutation → Mutation MutationResult
  | update predicate pairs => reporting .rows (updateRows upstream predicate pairs)
  | delete predicate => reporting .rows (upstream.delete predicate)
  | dropColumns columns => reporting (fun _ => .done) (upstream.dropColumns columns)
  | alterColumns alterations => reporting (fun _ => .done) (upstream.alterColumns alterations)
  | addColumns transform batchSize => reporting (fun _ => .done) (upstream.addColumns transform batchSize)
  | compactFiles options => reporting .compaction (upstream.compactFiles options)
  | createIndex column indexType name params replace =>
    reporting (fun _ => .done) (upstream.createIndex column indexType name params replace)
  | dropIndex name => reporting (fun _ => .done) (upstream.dropIndex name)

/-- `ds.with_mut(..)?` and the write of the result. -/
def runMutation (handle : LanceDataset) (out : Bool) (mutation : LanceMutation) :
    Body MutationWorld LanceError Int := do
  let result ← fun world =>
    let (outcome, next) := handle.withMut upstream.held upstream.allocator (mutation.perform upstream)
    (outcome, { world with handle := some next })
  Body.modify fun world => { world with slots := world.slots.store out result }
  return 0

/-- What the mutating entry points have in common. -/
def mutating (nullMessage : String) (out : Bool) (arguments : Arguments LanceMutation) :
    Body MutationWorld LanceError Int := do
  match (← Body.get).handle with
  | none => Body.ofExcept (.error (.invalidInput nullMessage))
  | some handle =>
    let mutation ← Body.ofUnwind (.ofSettled arguments)
    runMutation upstream handle out mutation

end Upstream

section Entries

def parsePredicate (predicate : CString) : Except LanceError (Option String) :=
  optionalText predicate "predicate must not be empty (pass NULL to update all rows)"

def parseUpdate (entry : (CString × CString) × Nat) : Except LanceError (String × String) := do
  let column ← requireText entry.1.1 s!"columns[{entry.2}] must not be NULL or empty"
  let value ← requireText entry.1.2 s!"values[{entry.2}] must not be NULL or empty"
  return (column, value)

def parseDropped (entry : CString × Nat) : Except LanceError String :=
  requireText entry.1 s!"columns[{entry.2}] must not be NULL or empty"

def parseRequiredField (field : CString) (index : Nat) (name : String) : Except LanceError String :=
  requireText field s!"columns[{index}].{name} must not be NULL or empty"

def parseSqlColumn (entry : LanceSqlColumn × Nat) : Except LanceError (String × String) := do
  let name ← parseRequiredField entry.1.name entry.2 "name"
  let expression ← parseRequiredField entry.1.expression entry.2 "expression"
  return (name, expression)

def parseRename (rename : CString) (index : Nat) : Except LanceError (Option String) :=
  optionalText rename s!"alterations[{index}].rename must not be empty"

variable (upstream : MutationUpstream UpdateBuilder)

def parseDataType (schema : Option BorrowedSchema) (index : Nat) : Arguments (Option DataType) :=
  match schema with
  | none => return none
  | some schema => do
    settled (refuseIf (schema.release = false ∨ schema.format = .null)
      (.invalidInput s!"alterations[{index}].data_type is uninitialised or already released"))
    let dataType ← Unwind.settle (match upstream.importDataType schema with
      | .returned (.ok dataType) => .returned (.ok dataType)
      | .returned (.error reason) => .returned (.error (.invalidInput
          s!"alterations[{index}].data_type is not a valid Arrow type: {reason}"))
      | .panicked payload => .panicked payload)
    return some dataType

def parseAlteration (entry : LanceColumnAlteration × Nat) : Arguments ColumnAlteration := do
  let (entry, index) := entry
  let path ← settled (requireText entry.path s!"alterations[{index}].path must not be NULL or empty")
  let rename ← settled (parseRename entry.rename index)
  let nullableMode ← settled (LanceColumnNullableMode.fromRaw entry.nullableMode)
  let nullable := nullableMode.toOption
  let dataType ← parseDataType upstream entry.dataType index
  settled (refuseIf (rename = none ∧ nullable = none ∧ dataType = none) (.invalidInput
    s!"alterations[{index}] is a no-op: set rename, nullable_mode, or data_type to request a change"))
  return { path, rename, nullable, dataType }

def importNulls (schema : BorrowedSchema) : Arguments ArrowSchema := do
  settled (refuseIf (schema.release = false ∨ schema.format = .null)
    (.invalidInput "schema is uninitialised or already released"))
  settled (refuseIf (schema.format.isUtf8 = false)
    (.invalidInput "schema format string is not valid UTF-8"))
  Unwind.settle (match upstream.importSchema schema with
    | .returned (.ok schema) => .returned (.ok schema)
    | .returned (.error reason) => .returned (.error (.invalidInput s!"schema is not a valid Arrow schema: {reason}"))
    | .panicked payload => .panicked payload)

def deleteArguments (predicate : CString) : Arguments LanceMutation := do
  settled (refuseIf (predicate = .null) (.invalidInput "dataset and predicate must not be NULL"))
  let predicate ← settled (requireText predicate "predicate must not be empty")
  return .delete predicate

def deleteInner (predicate : CString) (outNumDeleted : Bool) : Body MutationWorld LanceError Int :=
  mutating upstream "dataset and predicate must not be NULL" outNumDeleted (deleteArguments predicate)

def addColumnsNullsArguments (schema : Option BorrowedSchema) : Arguments LanceMutation :=
  match schema with
  | none => settled (.error (.invalidInput "schema must not be NULL"))
  | some schema => do
    let schema ← importNulls upstream schema
    return .addColumns (.allNulls schema) none

def addColumnsNullsInner (schema : Option BorrowedSchema) : Body MutationWorld LanceError Int :=
  mutating upstream "dataset must not be NULL" false (addColumnsNullsArguments upstream schema)

/-- The column of an index to create; only NULL is refused. -/
def parseIndexed (column : CString) (nullMessage : String) : Except LanceError String := do
  refuseIf (column = .null) (.invalidInput nullMessage)
  match ← parseCString column with
  | none => .error (.invalidInput "column must not be empty")
  | some column => return column

def createScalarIndexArguments (column indexName : CString) (indexType : Int) (paramsJson : CString)
    (replace : Bool) : Arguments LanceMutation := do
  let column ← settled (parseIndexed column "dataset and column must not be NULL")
  let name ← settled (parseCString indexName)
  let params ← settled (parseCString paramsJson)
  let scalarType ← settled (LanceScalarIndexType.fromC indexType)
  return .createIndex column scalarType.toIndexType name (.scalar scalarType.toBuiltin params) replace

def createScalarIndexInner (column indexName : CString) (indexType : Int) (paramsJson : CString) (replace : Bool) :
    Body MutationWorld LanceError Int :=
  mutating upstream "dataset and column must not be NULL" false
    (createScalarIndexArguments column indexName indexType paramsJson replace)

def createVectorIndexArguments (column indexName : CString) (params : Option LanceVectorIndexParams)
    (replace : Bool) : Arguments LanceMutation :=
  match params with
  | none => settled (.error (.invalidInput "dataset, column, and params must not be NULL"))
  | some params => do
    let column ← settled (parseIndexed column "dataset, column, and params must not be NULL")
    let name ← settled (parseCString indexName)
    let params ← settled (buildVectorParamsWithModels params none none)
    return .createIndex column .vector name (.vector params) replace

def createVectorIndexInner (column indexName : CString) (params : Option LanceVectorIndexParams) (replace : Bool) :
    Body MutationWorld LanceError Int :=
  mutating upstream "dataset, column, and params must not be NULL" false
    (createVectorIndexArguments column indexName params replace)

def dropIndexArguments (name : CString) : Arguments LanceMutation := do
  settled (refuseIf (name = .null) (.invalidInput "dataset and name must not be NULL"))
  match ← settled (parseCString name) with
  | none => Unwind.settle (.panicked (.text "called `Option::unwrap()` on a `None` value"))
  | some name => return .dropIndex name

def dropIndexInner (name : CString) : Body MutationWorld LanceError Int :=
  mutating upstream "dataset and name must not be NULL" false (dropIndexArguments name)

variable [Target]

def updateArguments (predicate : CString) (numUpdates : Nat) (columns values : CArray CString numUpdates) :
    Arguments LanceMutation := do
  settled (refuseIf (numUpdates = 0) (.invalidInput "num_updates must be >= 1"))
  match columns, values with
  | some columns, some values =>
    let predicate ← settled (parsePredicate predicate)
    Unwind.settle (vecWithCapacity 6 numUpdates)
    let pairs ← settled ((columns.1.zip values.1).zipIdx.mapM parseUpdate)
    return .update predicate pairs
  | _, _ => settled (.error (.invalidInput "columns and values must not be NULL when num_updates > 0"))

def updateInner (predicate : CString) (numUpdates : Nat) (columns values : CArray CString numUpdates)
    (outNumUpdated : Bool) : Body MutationWorld LanceError Int :=
  mutating upstream "dataset must not be NULL" outNumUpdated (updateArguments predicate numUpdates columns values)

def dropColumnsArguments (numColumns : Nat) (columns : CArray CString numColumns) : Arguments LanceMutation :=
  match columns with
  | none => settled (.error (.invalidInput "columns must not be NULL"))
  | some columns => do
    settled (refuseIf (numColumns = 0) (.invalidInput "num_columns must be > 0"))
    Unwind.settle (vecWithCapacity 3 numColumns)
    let names ← settled (columns.1.zipIdx.mapM parseDropped)
    return .dropColumns names

def dropColumnsInner (numColumns : Nat) (columns : CArray CString numColumns) :
    Body MutationWorld LanceError Int :=
  mutating upstream "dataset must not be NULL" false (dropColumnsArguments numColumns columns)

def alterColumnsArguments (numAlterations : Nat) (alterations : CArray LanceColumnAlteration numAlterations) :
    Arguments LanceMutation :=
  match alterations with
  | none => settled (.error (.invalidInput "alterations must not be NULL"))
  | some alterations => do
    settled (refuseIf (numAlterations = 0) (.invalidInput "num_alterations must be > 0"))
    Unwind.settle (vecWithCapacity upstream.alterationWords numAlterations)
    let owned ← alterations.1.zipIdx.mapM (parseAlteration upstream)
    return .alterColumns owned

def alterColumnsInner (numAlterations : Nat) (alterations : CArray LanceColumnAlteration numAlterations) :
    Body MutationWorld LanceError Int :=
  mutating upstream "dataset must not be NULL" false (alterColumnsArguments upstream numAlterations alterations)

def addColumnsSqlArguments (numColumns : Nat) (columns : CArray LanceSqlColumn numColumns) (batchSize : Nat) :
    Arguments LanceMutation :=
  match columns with
  | none => settled (.error (.invalidInput "columns must not be NULL"))
  | some columns => do
    settled (refuseIf (numColumns = 0) (.invalidInput "num_columns must be > 0"))
    let batchSize ← settled (resolveBatchSize batchSize)
    Unwind.settle (vecWithCapacity 6 numColumns)
    let pairs ← settled (columns.1.zipIdx.mapM parseSqlColumn)
    return .addColumns (.sqlExpressions pairs) batchSize

def addColumnsSqlInner (numColumns : Nat) (columns : CArray LanceSqlColumn numColumns) (batchSize : Nat) :
    Body MutationWorld LanceError Int :=
  mutating upstream "dataset must not be NULL" false (addColumnsSqlArguments numColumns columns batchSize)

def compactArguments (options : Option LanceCompactionOptions) : Arguments LanceMutation := do
  let resolved ← settled (resolveOptions upstream.defaultCompaction options)
  return .compactFiles resolved

def compactInner (options : Option LanceCompactionOptions) (outMetrics : Bool) :
    Body MutationWorld LanceError Int :=
  mutating upstream "dataset must not be NULL" outMetrics (compactArguments upstream options)

end Entries

/-- A call of one of the mutating entry points, with everything but the dataset. -/
inductive MutationCall where
  | update (predicate : CString) (numUpdates : Nat) (columns values : CArray CString numUpdates)
      (outNumUpdated : Bool)
  | delete (predicate : CString) (outNumDeleted : Bool)
  | dropColumns (numColumns : Nat) (columns : CArray CString numColumns)
  | alterColumns (numAlterations : Nat) (alterations : CArray LanceColumnAlteration numAlterations)
  | addColumnsSql (numColumns : Nat) (columns : CArray LanceSqlColumn numColumns) (batchSize : Nat)
  | addColumnsNulls (schema : Option BorrowedSchema)
  | compactFiles (options : Option LanceCompactionOptions) (outMetrics : Bool)
  | createScalarIndex (column indexName : CString) (indexType : Int) (paramsJson : CString) (replace : Bool)
  | createVectorIndex (column indexName : CString) (params : Option LanceVectorIndexParams) (replace : Bool)
  | dropIndex (name : CString)

namespace MutationCall

variable [Target] (upstream : MutationUpstream UpdateBuilder)

def body : MutationCall → Body MutationWorld LanceError Int
  | update predicate numUpdates columns values outNumUpdated =>
    updateInner upstream predicate numUpdates columns values outNumUpdated
  | delete predicate outNumDeleted => deleteInner upstream predicate outNumDeleted
  | dropColumns numColumns columns => dropColumnsInner upstream numColumns columns
  | alterColumns numAlterations alterations => alterColumnsInner upstream numAlterations alterations
  | addColumnsSql numColumns columns batchSize => addColumnsSqlInner upstream numColumns columns batchSize
  | addColumnsNulls schema => addColumnsNullsInner upstream schema
  | compactFiles options outMetrics => compactInner upstream options outMetrics
  | createScalarIndex column indexName indexType paramsJson replace =>
    createScalarIndexInner upstream column indexName indexType paramsJson replace
  | createVectorIndex column indexName params replace =>
    createVectorIndexInner upstream column indexName params replace
  | dropIndex name => dropIndexInner upstream name

/-- The resolution of a call's arguments. -/
def arguments : MutationCall → Arguments LanceMutation
  | update predicate numUpdates columns values _ => updateArguments predicate numUpdates columns values
  | delete predicate _ => deleteArguments predicate
  | dropColumns numColumns columns => dropColumnsArguments numColumns columns
  | alterColumns numAlterations alterations => alterColumnsArguments upstream numAlterations alterations
  | addColumnsSql numColumns columns batchSize => addColumnsSqlArguments numColumns columns batchSize
  | addColumnsNulls schema => addColumnsNullsArguments upstream schema
  | compactFiles options _ => compactArguments upstream options
  | createScalarIndex column indexName indexType paramsJson replace =>
    createScalarIndexArguments column indexName indexType paramsJson replace
  | createVectorIndex column indexName params replace => createVectorIndexArguments column indexName params replace
  | dropIndex name => dropIndexArguments name

/-- The out pointer, where the entry point has one, is not NULL. -/
def out : MutationCall → Bool
  | update _ _ _ _ out | delete _ out | compactFiles _ out => out
  | _ => false

/-- Every entry point checks the dataset, resolves its arguments and runs one mutation. -/
theorem body_eq (call : MutationCall) :
    ∃ nullMessage, call.body upstream = mutating upstream nullMessage call.out (call.arguments upstream) := by
  cases call <;> exact ⟨_, rfl⟩

end MutationCall

end LanceC.Mutations
