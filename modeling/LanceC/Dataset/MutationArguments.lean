import LanceC.Dataset.Mutations

/-! What the arguments of a mutating call denote. A call is accepted exactly where they denote a
mutation, which is then the one that runs; otherwise nothing is changed. -/

namespace LanceC.Mutations

open Ffi Index Logic Machine Tuning LanceC.Stream

variable {UpdateBuilder : Type}

/-- Neither released nor half built. -/
def BorrowedSchema.Live (schema : BorrowedSchema) : Prop := schema.release = true ∧ schema.format ≠ .null

structure LanceColumnAlteration.Denotes (upstream : MutationUpstream UpdateBuilder) (entry : LanceColumnAlteration)
    (owned : ColumnAlteration) : Prop where
  path : entry.path.Named owned.path
  rename : entry.rename.Optionally owned.rename
  renamed : owned.rename ≠ some ""
  nullable : entry.nullableMode = 0 ∧ owned.nullable = none ∨ entry.nullableMode = 1 ∧ owned.nullable = some true ∨
    entry.nullableMode = 2 ∧ owned.nullable = some false
  dataType : entry.dataType = none ∧ owned.dataType = none ∨ ∃ schema dataType, entry.dataType = some schema ∧
    schema.Live ∧ upstream.importDataType schema = .returned (.ok dataType) ∧ owned.dataType = some dataType
  changes : ¬(owned.rename = none ∧ owned.nullable = none ∧ owned.dataType = none)

/-- A column and the expression for it. -/
def NamesBoth (column expression : CString) (pair : String × String) : Prop :=
  column.Named pair.1 ∧ expression.Named pair.2

section Fits

variable [Target]

/-- Every number is one of the target's `usize`. -/
structure FitsUsize (options : LanceCompactionOptions) : Prop where
  targetRowsPerFragment : options.targetRowsPerFragment ≤ usizeMax
  maxRowsPerGroup : options.maxRowsPerGroup ≤ usizeMax
  maxBytesPerFile : options.maxBytesPerFile ≤ usizeMax
  numThreads : options.numThreads ≤ usizeMax
  batchSize : options.batchSize ≤ usizeMax

/-- The mutation that a call asks for. -/
inductive MutationCall.Denotes (upstream : MutationUpstream UpdateBuilder) : MutationCall → LanceMutation → Prop where
  | update {predicate : CString} {numUpdates : Nat} {columns values : {entries : List CString // entries.length = numUpdates}}
      {out : Bool} {filter : Option String} {pairs : List (String × String)} (given : numUpdates ≠ 0)
      (filtered : predicate.Optionally filter) (nonempty : filter ≠ some "")
      (entries : List.Forall₂ (fun entry pair => NamesBoth entry.1 entry.2 pair) (columns.1.zip values.1) pairs) :
      Denotes upstream (.update predicate numUpdates (some columns) (some values) out) (.update filter pairs)
  | delete {predicate : CString} {out : Bool} {filter : String} (named : predicate.Named filter) :
      Denotes upstream (.delete predicate out) (.delete filter)
  | dropColumns {numColumns : Nat} {columns : {entries : List CString // entries.length = numColumns}}
      {names : List String} (given : numColumns ≠ 0) (entries : List.Forall₂ CString.Named columns.1 names) :
      Denotes upstream (.dropColumns numColumns (some columns)) (.dropColumns names)
  | alterColumns {numAlterations : Nat}
      {alterations : {entries : List LanceColumnAlteration // entries.length = numAlterations}}
      {owned : List ColumnAlteration} (given : numAlterations ≠ 0)
      (entries : List.Forall₂ (LanceColumnAlteration.Denotes upstream) alterations.1 owned) :
      Denotes upstream (.alterColumns numAlterations (some alterations)) (.alterColumns owned)
  | addColumnsSql {numColumns : Nat} {columns : {entries : List LanceSqlColumn // entries.length = numColumns}}
      {batchSize : Nat} {pairs : List (String × String)} (given : numColumns ≠ 0) (narrow : batchSize ≤ u32Max)
      (entries : List.Forall₂ (fun entry pair => NamesBoth entry.name entry.expression pair) columns.1 pairs) :
      Denotes upstream (.addColumnsSql numColumns (some columns) batchSize)
        (.addColumns (.sqlExpressions pairs) (orDefault none some batchSize))
  | addColumnsNulls {schema : BorrowedSchema} {arrow : ArrowSchema} (live : schema.Live)
      (utf8 : schema.format.isUtf8 = true) (imported : upstream.importSchema schema = .returned (.ok arrow)) :
      Denotes upstream (.addColumnsNulls (some schema)) (.addColumns (.allNulls arrow) none)
  | compactFiles {options : Option LanceCompactionOptions} {out : Bool} (fits : ∀ given ∈ options, FitsUsize given) :
      Denotes upstream (.compactFiles options out) (.compactFiles (upstream.defaultCompaction.overridden options))
  | createScalarIndex {indexName paramsJson : CString} {indexType : Int} {replace : Bool} {column : String}
      {name params : Option String} {scalarType : LanceScalarIndexType} (named : indexName.Optionally name)
      (tuned : paramsJson.Optionally params) (typed : LanceScalarIndexType.fromC indexType = .ok scalarType) :
      Denotes upstream (.createScalarIndex (.text column) indexName indexType paramsJson replace)
        (.createIndex column scalarType.toIndexType name (.scalar scalarType.toBuiltin params) replace)
  | createVectorIndex {indexName : CString} {params : LanceVectorIndexParams} {replace : Bool} {column : String}
      {name : Option String} {core : LanceCoreVectorIndexParams Unit Unit} (named : indexName.Optionally name)
      (built : buildVectorParamsWithModels params none none = .ok core) :
      Denotes upstream (.createVectorIndex (.text column) indexName (some params) replace)
        (.createIndex column .vector name (.vector core) replace)
  | dropIndex {name : String} : Denotes upstream (.dropIndex (.text name)) (.dropIndex name)

/-- Size in machine words and number of the entries that a call makes a vector of. -/
def MutationCall.footprint (upstream : MutationUpstream UpdateBuilder) : MutationCall → Nat × Nat
  | update _ numUpdates _ _ _ => (6, numUpdates)
  | dropColumns numColumns _ => (3, numColumns)
  | alterColumns numAlterations _ => (upstream.alterationWords, numAlterations)
  | addColumnsSql numColumns _ _ => (6, numColumns)
  | _ => (0, 0)

/-- The target can address that vector. -/
def MutationCall.Addressable (upstream : MutationUpstream UpdateBuilder) (call : MutationCall) : Prop :=
  (call.footprint upstream).1 * (Target.usizeBits / 8) * (call.footprint upstream).2 ≤ isizeMax

end Fits

section Parsers

theorem parseUpdate_eq_ok {entry : CString × CString} {index : Nat} {pair : String × String} :
    parseUpdate (entry, index) = .ok pair ↔ NamesBoth entry.1 entry.2 pair := by
  simp only [parseUpdate, bind_eq_ok, requireText_eq_ok, NamesBoth]
  constructor
  · rintro ⟨column, first, value, second, ⟨⟩⟩
    exact ⟨first, second⟩
  · exact fun both => ⟨pair.1, both.1, pair.2, both.2, rfl⟩

theorem parseSqlColumn_eq_ok {entry : LanceSqlColumn} {index : Nat} {pair : String × String} :
    parseSqlColumn (entry, index) = .ok pair ↔ NamesBoth entry.name entry.expression pair := by
  simp only [parseSqlColumn, parseRequiredField, bind_eq_ok, requireText_eq_ok, NamesBoth]
  constructor
  · rintro ⟨name, first, expression, second, ⟨⟩⟩
    exact ⟨first, second⟩
  · exact fun both => ⟨pair.1, both.1, pair.2, both.2, rfl⟩

theorem parseDropped_eq_ok {entry : CString} {index : Nat} {name : String} :
    parseDropped (entry, index) = .ok name ↔ entry.Named name :=
  requireText_eq_ok

theorem nullable_fromRaw {raw : Int} {nullable : Option Bool} :
    (∃ mode, LanceColumnNullableMode.fromRaw raw = .ok mode ∧ mode.toOption = nullable) ↔
      raw = 0 ∧ nullable = none ∨ raw = 1 ∧ nullable = some true ∨ raw = 2 ∧ nullable = some false := by
  unfold LanceColumnNullableMode.fromRaw
  split <;> simp_all [LanceColumnNullableMode.toOption, eq_comm]

variable {upstream : MutationUpstream UpdateBuilder}

theorem parseDataType_eq_ok {schema : Option BorrowedSchema} {index : Nat} {dataType : Option DataType} :
    parseDataType upstream schema index = .ok dataType ↔ schema = none ∧ dataType = none ∨
      ∃ given imported, schema = some given ∧ given.Live ∧
        upstream.importDataType given = .returned (.ok imported) ∧ dataType = some imported := by
  cases schema with
  | none => simp [parseDataType, pure, Except.pure, eq_comm]
  | some schema =>
    simp only [parseDataType, bind_eq_ok, settled_eq_ok, refuseIf_ok, Unwind.settle_eq_ok]
    constructor
    · rintro ⟨_, live, imported, converted, ⟨⟩⟩
      refine .inr ⟨schema, imported, rfl, by simpa [BorrowedSchema.Live] using live, ?_, rfl⟩
      split at converted
      · next same => cases converted; exact same
      · cases converted
      · cases converted
    · rintro (⟨⟨⟩, _⟩ | ⟨_, imported, ⟨⟩, live, converted, rfl⟩)
      exact ⟨(), by simpa [BorrowedSchema.Live] using live, imported, by rw [converted], rfl⟩

theorem parseAlteration_eq_ok {entry : LanceColumnAlteration} {index : Nat} {owned : ColumnAlteration} :
    parseAlteration upstream (entry, index) = .ok owned ↔ entry.Denotes upstream owned := by
  simp only [parseAlteration, parseRename, bind_eq_ok, settled_eq_ok, requireText_eq_ok, optionalText_eq_ok,
    parseDataType_eq_ok, refuseIf_ok]
  constructor
  · rintro ⟨path, named, rename, ⟨given, nonempty⟩, mode, typed, dataType, converted, _, changes, ⟨⟩⟩
    exact ⟨named, given, nonempty, nullable_fromRaw.mp ⟨mode, typed, rfl⟩, converted, changes⟩
  · rintro ⟨named, given, nonempty, nullable, converted, changes⟩
    obtain ⟨mode, typed, same⟩ := nullable_fromRaw.mpr nullable
    exact ⟨_, named, _, ⟨given, nonempty⟩, mode, typed, _, converted, (), same ▸ changes, by rw [same]; rfl⟩

theorem importNulls_eq_ok {schema : BorrowedSchema} {arrow : ArrowSchema} :
    importNulls upstream schema = .ok arrow ↔ schema.Live ∧ schema.format.isUtf8 = true ∧
      upstream.importSchema schema = .returned (.ok arrow) := by
  simp only [importNulls, bind_eq_ok, settled_eq_ok, refuseIf_ok, Unwind.settle_eq_ok]
  rcases imported : upstream.importSchema schema with (reason | arrow) | payload
  · simp
  · simp [BorrowedSchema.Live]
  · simp

theorem parseIndexed_eq_ok {column : CString} {message name : String} :
    parseIndexed column message = .ok name ↔ column = .text name := by
  cases column <;> simp [parseIndexed, parseCString, refuseIf, bind, Except.bind, pure, Except.pure]

theorem resolveBatchSize_eq_ok {batchSize : Nat} {resolved : Option Nat} :
    resolveBatchSize batchSize = .ok resolved ↔ batchSize ≤ u32Max ∧ orDefault none some batchSize = resolved := by
  by_cases zero : batchSize = 0
  · simp [resolveBatchSize, orDefault, zero]
  · by_cases narrow : batchSize ≤ u32Max
    · simp [resolveBatchSize, orDefault, zero, u32TryFrom, narrow]
    · simp [resolveBatchSize, zero, u32TryFrom, narrow]

variable [Target]

theorem vecWithCapacity_eq_ok {size count : Nat} {done : Unit} :
    vecWithCapacity size count = .returned (.ok done) ↔ size * (Target.usizeBits / 8) * count ≤ isizeMax := by
  unfold vecWithCapacity
  split
  · next large => simpa using large
  · next small => simpa using small

theorem u64ToUsize_eq_ok {value resolved : Nat} {field : String} :
    u64ToUsize value field = .ok resolved ↔ value ≤ usizeMax ∧ value = resolved := by
  unfold u64ToUsize
  split <;> simp_all

theorem overrideLimit_eq_ok {default value resolved : Nat} {field : String} :
    overrideLimit default value field = .ok resolved ↔ value ≤ usizeMax ∧ orDefault default id value = resolved := by
  by_cases zero : value = 0
  · simp [overrideLimit, orDefault, zero]
  · simp [overrideLimit, orDefault, zero, Nat.pos_of_ne_zero, u64ToUsize_eq_ok]

theorem overrideOption_eq_ok {default : Option Nat} {value : Nat} {field : String} {resolved : Option Nat} :
    overrideOption default value field = .ok resolved ↔ value ≤ usizeMax ∧ orDefault default some value = resolved := by
  by_cases zero : value = 0
  · simp [overrideOption, orDefault, zero]
  · simp [overrideOption, orDefault, zero, Nat.pos_of_ne_zero, bind_eq_ok, u64ToUsize_eq_ok, pure, Except.pure]

theorem resolveOptions_eq_ok {default resolved : CompactionOptions} {options : Option LanceCompactionOptions} :
    resolveOptions default options = .ok resolved ↔
      (∀ given ∈ options, FitsUsize given) ∧ default.overridden options = resolved := by
  cases options with
  | none => simp [resolveOptions, CompactionOptions.overridden]
  | some given =>
    simp only [resolveOptions, bind_eq_ok, overrideLimit_eq_ok, overrideOption_eq_ok, CompactionOptions.overridden]
    constructor
    · rintro ⟨_, ⟨fragment, rfl⟩, _, ⟨group, rfl⟩, _, ⟨bytes, rfl⟩, _, ⟨threads, rfl⟩, _, ⟨batch, rfl⟩, ⟨⟩⟩
      refine ⟨?_, rfl⟩
      rintro _ ⟨⟩
      exact ⟨fragment, group, bytes, threads, batch⟩
    · rintro ⟨fits, rfl⟩
      obtain ⟨fragment, group, bytes, threads, batch⟩ := fits given rfl
      exact ⟨_, ⟨fragment, rfl⟩, _, ⟨group, rfl⟩, _, ⟨bytes, rfl⟩, _, ⟨threads, rfl⟩, _, ⟨batch, rfl⟩, rfl⟩

end Parsers

namespace MutationCall

variable [Target] {upstream : MutationUpstream UpdateBuilder} {call : MutationCall} {mutation : LanceMutation}

theorem arguments_update {predicate : CString} {numUpdates : Nat} {columns values : CArray CString numUpdates}
    {out : Bool} : (update predicate numUpdates columns values out).arguments upstream = .ok mutation ↔
      (update predicate numUpdates columns values out).Denotes upstream mutation ∧
        (update predicate numUpdates columns values out).Addressable upstream := by
  simp only [arguments, updateArguments, bind_eq_ok, settled_eq_ok, refuseIf_ok]
  cases columns with
  | none => exact iff_of_false (by simp) (by rintro ⟨⟨⟩, _⟩)
  | some columns =>
    cases values with
    | none => exact iff_of_false (by simp) (by rintro ⟨⟨⟩, _⟩)
    | some values =>
      simp only [bind_eq_ok, settled_eq_ok, Unwind.settle_eq_ok, parsePredicate, optionalText_eq_ok,
        vecWithCapacity_eq_ok, mapM_zipIdx_eq_ok (fun _ _ _ => parseUpdate_eq_ok)]
      constructor
      · rintro ⟨_, given, filter, ⟨filtered, nonempty⟩, _, addressable, pairs, entries, ⟨⟩⟩
        exact ⟨.update given filtered nonempty entries, addressable⟩
      · rintro ⟨⟨given, filtered, nonempty, entries⟩, addressable⟩
        exact ⟨(), given, _, ⟨filtered, nonempty⟩, (), addressable, _, entries, rfl⟩

theorem arguments_dropColumns {numColumns : Nat} {columns : CArray CString numColumns} :
    (dropColumns numColumns columns).arguments upstream = .ok mutation ↔
      (dropColumns numColumns columns).Denotes upstream mutation ∧
        (dropColumns numColumns columns).Addressable upstream := by
  cases columns with
  | none => exact iff_of_false (by simp [arguments, dropColumnsArguments]) (by rintro ⟨⟨⟩, _⟩)
  | some columns =>
    simp only [arguments, dropColumnsArguments, bind_eq_ok, settled_eq_ok, refuseIf_ok, Unwind.settle_eq_ok,
      vecWithCapacity_eq_ok, mapM_zipIdx_eq_ok (fun _ _ _ => parseDropped_eq_ok)]
    constructor
    · rintro ⟨_, given, _, addressable, names, entries, ⟨⟩⟩
      exact ⟨.dropColumns given entries, addressable⟩
    · rintro ⟨denoted, addressable⟩
      cases denoted with
      | dropColumns given entries => exact ⟨(), given, (), addressable, _, entries, rfl⟩

theorem arguments_alterColumns {numAlterations : Nat} {alterations : CArray LanceColumnAlteration numAlterations} :
    (alterColumns numAlterations alterations).arguments upstream = .ok mutation ↔
      (alterColumns numAlterations alterations).Denotes upstream mutation ∧
        (alterColumns numAlterations alterations).Addressable upstream := by
  cases alterations with
  | none => exact iff_of_false (by simp [arguments, alterColumnsArguments]) (by rintro ⟨⟨⟩, _⟩)
  | some alterations =>
    simp only [arguments, alterColumnsArguments, bind_eq_ok, settled_eq_ok, refuseIf_ok, Unwind.settle_eq_ok,
      vecWithCapacity_eq_ok, mapM_zipIdx_eq_ok (fun _ _ _ => parseAlteration_eq_ok)]
    constructor
    · rintro ⟨_, given, _, addressable, owned, entries, ⟨⟩⟩
      exact ⟨.alterColumns given entries, addressable⟩
    · rintro ⟨denoted, addressable⟩
      cases denoted with
      | alterColumns given entries => exact ⟨(), given, (), addressable, _, entries, rfl⟩

theorem arguments_addColumnsSql {numColumns : Nat} {columns : CArray LanceSqlColumn numColumns} {batchSize : Nat} :
    (addColumnsSql numColumns columns batchSize).arguments upstream = .ok mutation ↔
      (addColumnsSql numColumns columns batchSize).Denotes upstream mutation ∧
        (addColumnsSql numColumns columns batchSize).Addressable upstream := by
  cases columns with
  | none => exact iff_of_false (by simp [arguments, addColumnsSqlArguments]) (by rintro ⟨⟨⟩, _⟩)
  | some columns =>
    simp only [arguments, addColumnsSqlArguments, bind_eq_ok, settled_eq_ok, refuseIf_ok, Unwind.settle_eq_ok,
      vecWithCapacity_eq_ok, resolveBatchSize_eq_ok, mapM_zipIdx_eq_ok (fun _ _ _ => parseSqlColumn_eq_ok)]
    constructor
    · rintro ⟨_, given, _, ⟨narrow, rfl⟩, _, addressable, pairs, entries, ⟨⟩⟩
      exact ⟨.addColumnsSql given narrow entries, addressable⟩
    · rintro ⟨denoted, addressable⟩
      cases denoted with
      | addColumnsSql given narrow entries =>
        exact ⟨(), given, _, ⟨narrow, rfl⟩, (), addressable, _, entries, rfl⟩

theorem arguments_delete {predicate : CString} {out : Bool} :
    (delete predicate out).arguments upstream = .ok mutation ↔ (delete predicate out).Denotes upstream mutation := by
  simp only [arguments, deleteArguments, bind_eq_ok, settled_eq_ok, refuseIf_ok, requireText_eq_ok]
  constructor
  · rintro ⟨_, _, filter, named, ⟨⟩⟩
    exact .delete named
  · intro denoted
    cases denoted with
    | delete named => exact ⟨(), by simp [named.1], _, named, rfl⟩

theorem arguments_addColumnsNulls {schema : Option BorrowedSchema} :
    (addColumnsNulls schema).arguments upstream = .ok mutation ↔
      (addColumnsNulls schema).Denotes upstream mutation := by
  cases schema with
  | none => exact iff_of_false (by simp [arguments, addColumnsNullsArguments]) (by rintro ⟨⟩)
  | some schema =>
    simp only [arguments, addColumnsNullsArguments, bind_eq_ok, importNulls_eq_ok]
    constructor
    · rintro ⟨arrow, ⟨live, utf8, imported⟩, ⟨⟩⟩
      exact .addColumnsNulls live utf8 imported
    · intro denoted
      cases denoted with
      | addColumnsNulls live utf8 imported => exact ⟨_, ⟨live, utf8, imported⟩, rfl⟩

theorem arguments_compactFiles {options : Option LanceCompactionOptions} {out : Bool} :
    (compactFiles options out).arguments upstream = .ok mutation ↔
      (compactFiles options out).Denotes upstream mutation := by
  simp only [arguments, compactArguments, bind_eq_ok, settled_eq_ok, resolveOptions_eq_ok]
  constructor
  · rintro ⟨_, ⟨fits, rfl⟩, ⟨⟩⟩
    exact .compactFiles fits
  · intro denoted
    cases denoted with
    | compactFiles fits => exact ⟨_, ⟨fits, rfl⟩, rfl⟩

theorem arguments_createScalarIndex {column indexName paramsJson : CString} {indexType : Int} {replace : Bool} :
    (createScalarIndex column indexName indexType paramsJson replace).arguments upstream = .ok mutation ↔
      (createScalarIndex column indexName indexType paramsJson replace).Denotes upstream mutation := by
  simp only [arguments, createScalarIndexArguments, bind_eq_ok, settled_eq_ok, parseIndexed_eq_ok, parseCString_eq_ok]
  constructor
  · rintro ⟨_, rfl, name, named, params, tuned, scalarType, typed, ⟨⟩⟩
    exact .createScalarIndex named tuned typed
  · intro denoted
    cases denoted with
    | createScalarIndex named tuned typed => exact ⟨_, rfl, _, named, _, tuned, _, typed, rfl⟩

theorem arguments_createVectorIndex {column indexName : CString} {params : Option LanceVectorIndexParams}
    {replace : Bool} : (createVectorIndex column indexName params replace).arguments upstream = .ok mutation ↔
      (createVectorIndex column indexName params replace).Denotes upstream mutation := by
  cases params with
  | none => exact iff_of_false (by simp [arguments, createVectorIndexArguments]) (by rintro ⟨⟩)
  | some params =>
    simp only [arguments, createVectorIndexArguments, bind_eq_ok, settled_eq_ok, parseIndexed_eq_ok, parseCString_eq_ok]
    constructor
    · rintro ⟨_, rfl, name, named, core, built, ⟨⟩⟩
      exact .createVectorIndex named built
    · intro denoted
      cases denoted with
      | createVectorIndex named built => exact ⟨_, rfl, _, named, _, built, rfl⟩

theorem arguments_dropIndex {name : CString} :
    (dropIndex name).arguments upstream = .ok mutation ↔ (dropIndex name).Denotes upstream mutation := by
  cases name <;> simp only [arguments, dropIndexArguments, bind_eq_ok, settled_eq_ok, refuseIf_ok, parseCString]
  case null => exact iff_of_false (by simp) (by rintro ⟨⟩)
  case malformed reason => exact iff_of_false (by simp) (by rintro ⟨⟩)
  case text name =>
    constructor
    · rintro ⟨_, _, _, ⟨⟩, ⟨⟩⟩
      exact .dropIndex
    · rintro ⟨⟩
      exact ⟨(), by simp, _, rfl, rfl⟩

/-- A call without a list of entries makes no vector. -/
theorem addressable_of_footprint (single : (call.footprint upstream).2 = 0) : call.Addressable upstream := by
  rw [Addressable, single, Nat.mul_zero]
  exact Nat.zero_le _

/-- The arguments are accepted exactly where they denote a mutation, and as that mutation. -/
theorem arguments_eq_ok : call.arguments upstream = .ok mutation ↔
    call.Denotes upstream mutation ∧ call.Addressable upstream := by
  cases call with
  | update => exact arguments_update
  | dropColumns => exact arguments_dropColumns
  | alterColumns => exact arguments_alterColumns
  | addColumnsSql => exact arguments_addColumnsSql
  | delete => exact arguments_delete.trans (and_iff_left (addressable_of_footprint rfl)).symm
  | addColumnsNulls => exact arguments_addColumnsNulls.trans (and_iff_left (addressable_of_footprint rfl)).symm
  | compactFiles => exact arguments_compactFiles.trans (and_iff_left (addressable_of_footprint rfl)).symm
  | createScalarIndex => exact arguments_createScalarIndex.trans (and_iff_left (addressable_of_footprint rfl)).symm
  | createVectorIndex => exact arguments_createVectorIndex.trans (and_iff_left (addressable_of_footprint rfl)).symm
  | dropIndex => exact arguments_dropIndex.trans (and_iff_left (addressable_of_footprint rfl)).symm

/-- Everything but the entries of the list holds, in a call that takes a list. -/
def Framed : MutationCall → Prop
  | update predicate numUpdates (some _) (some _) _ =>
    numUpdates ≠ 0 ∧ ∃ filter, predicate.Optionally filter ∧ filter ≠ some ""
  | dropColumns numColumns (some _) => numColumns ≠ 0
  | alterColumns numAlterations (some _) => numAlterations ≠ 0
  | addColumnsSql numColumns (some _) batchSize => numColumns ≠ 0 ∧ batchSize ≤ u32Max
  | _ => False

/-- The entry at a position denotes what it should. -/
def EntryFine (upstream : MutationUpstream UpdateBuilder) (call : MutationCall) (index : Nat) : Prop :=
  match call with
  | update _ _ (some columns) (some values) _ =>
    ∃ entry ∈ (columns.1.zip values.1)[index]?, ∃ pair, NamesBoth entry.1 entry.2 pair
  | dropColumns _ (some columns) => ∃ entry ∈ columns.1[index]?, ∃ name, entry.Named name
  | alterColumns _ (some alterations) => ∃ entry ∈ alterations.1[index]?, ∃ owned, entry.Denotes upstream owned
  | addColumnsSql _ (some columns) _ =>
    ∃ entry ∈ columns.1[index]?, ∃ pair, NamesBoth entry.name entry.expression pair
  | _ => False

/-- The entry at a position does not, and stops the call. -/
def EntryStops (upstream : MutationUpstream UpdateBuilder) (call : MutationCall) (index : Nat)
    (stop : Stop LanceError) : Prop :=
  match call with
  | update _ _ (some columns) (some values) _ => ∃ entry ∈ (columns.1.zip values.1)[index]?, ∃ error,
    stop = .error error ∧ (entry.1.Refused s!"columns[{index}] must not be NULL or empty" error ∨
      (∃ name, entry.1.Named name) ∧ entry.2.Refused s!"values[{index}] must not be NULL or empty" error)
  | dropColumns _ (some columns) => ∃ entry ∈ columns.1[index]?, ∃ error,
    stop = .error error ∧ entry.Refused s!"columns[{index}] must not be NULL or empty" error
  | alterColumns _ (some alterations) => ∃ entry ∈ alterations.1[index]?,
    parseAlteration upstream (entry, index) = .error stop
  | addColumnsSql _ (some columns) _ => ∃ entry ∈ columns.1[index]?, ∃ error,
    stop = .error error ∧ (entry.name.Refused s!"columns[{index}].name must not be NULL or empty" error ∨
      (∃ name, entry.name.Named name) ∧
        entry.expression.Refused s!"columns[{index}].expression must not be NULL or empty" error)
  | _ => False

end MutationCall

section Faults

theorem requireBoth_eq_error {left right : CString} {first second : String} {error : LanceError} :
    (do
      let column ← requireText left first
      let value ← requireText right second
      return (column, value) : Except LanceError (String × String)) = .error error ↔
      left.Refused first error ∨ (∃ name, left.Named name) ∧ right.Refused second error := by
  rw [bind_eq_error, requireText_eq_error]
  simp only [bind_eq_error, requireText_eq_ok, requireText_eq_error, pure, Except.pure, reduceCtorEq, and_false,
    exists_false, or_false, exists_and_right]

theorem parseUpdate_eq_error {entry : CString × CString} {index : Nat} {error : LanceError} :
    parseUpdate (entry, index) = .error error ↔
      entry.1.Refused s!"columns[{index}] must not be NULL or empty" error ∨
        (∃ name, entry.1.Named name) ∧ entry.2.Refused s!"values[{index}] must not be NULL or empty" error :=
  requireBoth_eq_error

theorem parseSqlColumn_eq_error {entry : LanceSqlColumn} {index : Nat} {error : LanceError} :
    parseSqlColumn (entry, index) = .error error ↔
      entry.name.Refused s!"columns[{index}].name must not be NULL or empty" error ∨
        (∃ name, entry.name.Named name) ∧
          entry.expression.Refused s!"columns[{index}].expression must not be NULL or empty" error := by
  refine requireBoth_eq_error.trans ?_
  simp only [toString, String.append_assoc]
  exact Iff.rfl

theorem parseDropped_eq_error {entry : CString} {index : Nat} {error : LanceError} :
    parseDropped (entry, index) = .error error ↔
      entry.Refused s!"columns[{index}] must not be NULL or empty" error :=
  requireText_eq_error

/-- A list that is all a call still waits for stops it at its first faulty entry. -/
theorem entries_stop {Entry Parsed : Type} {entries : List Entry} {step : Entry × Nat → Except LanceError Parsed}
    {request : List Parsed → LanceMutation} {stop : Stop LanceError} :
    (do
      let parsed ← settled (entries.zipIdx.mapM step)
      return request parsed : Arguments LanceMutation) = .error stop ↔
      ∃ index, (∃ entry ∈ entries[index]?, ∃ error, stop = .error error ∧ step (entry, index) = .error error) ∧
        ∀ earlier < index, ∃ entry ∈ entries[earlier]?, ∃ parsed, step (entry, earlier) = .ok parsed := by
  rw [bind_eq_error, settled_eq_stop]
  simp only [mapM_zipIdx_eq_error, pure, Except.pure, reduceCtorEq, and_false, exists_false, or_false]
  constructor
  · rintro ⟨error, same, index, ⟨entry, found, failed⟩, passed⟩
    exact ⟨index, ⟨entry, found, error, same, failed⟩, passed⟩
  · rintro ⟨index, ⟨entry, found, error, same, failed⟩, passed⟩
    exact ⟨error, same, index, ⟨entry, found, failed⟩, passed⟩

variable [Target] {upstream : MutationUpstream UpdateBuilder} {call : MutationCall} {stop : Stop LanceError}

/-- A call whose other arguments hold is stopped by the first entry of its list that denotes nothing. -/
theorem MutationCall.arguments_stop (framed : call.Framed) (addressable : call.Addressable upstream) :
    call.arguments upstream = .error stop ↔ ∃ index, call.EntryStops upstream index stop ∧
      ∀ earlier < index, call.EntryFine upstream earlier := by
  have reserved : vecWithCapacity (call.footprint upstream).1 (call.footprint upstream).2 = .returned (.ok ()) :=
    vecWithCapacity_eq_ok.mpr addressable
  cases call with
  | update predicate numUpdates columns values out =>
    rcases columns with _ | columns
    · exact framed.elim
    rcases values with _ | values
    · exact framed.elim
    obtain ⟨given, filter, filtered⟩ := framed
    have counted : refuseIf (numUpdates = 0) (.invalidInput "num_updates must be >= 1") = .ok () :=
      refuseIf_ok.mpr given
    have parsed : parsePredicate predicate = .ok filter := optionalText_eq_ok.mpr filtered
    simp only [footprint] at reserved
    simp only [arguments, updateArguments, counted, parsed, reserved]
    refine entries_stop.trans ?_
    simp only [parseUpdate_eq_ok, parseUpdate_eq_error, EntryStops, EntryFine]
  | dropColumns numColumns columns =>
    rcases columns with _ | columns
    · exact framed.elim
    have counted : refuseIf (numColumns = 0) (.invalidInput "num_columns must be > 0") = .ok () :=
      refuseIf_ok.mpr framed
    simp only [footprint] at reserved
    simp only [arguments, dropColumnsArguments, counted, reserved]
    refine entries_stop.trans ?_
    simp only [parseDropped_eq_ok, parseDropped_eq_error, EntryStops, EntryFine]
  | alterColumns numAlterations alterations =>
    rcases alterations with _ | alterations
    · exact framed.elim
    have counted : refuseIf (numAlterations = 0) (.invalidInput "num_alterations must be > 0") = .ok () :=
      refuseIf_ok.mpr framed
    simp only [footprint] at reserved
    simp only [arguments, alterColumnsArguments, counted, reserved]
    have traversed : (do
        let owned ← alterations.1.zipIdx.mapM (parseAlteration upstream)
        return .alterColumns owned : Arguments LanceMutation) = .error stop ↔
        alterations.1.zipIdx.mapM (parseAlteration upstream) = .error stop := by
      simp [bind_eq_error, pure, Except.pure]
    refine traversed.trans ?_
    simp only [mapM_zipIdx_eq_error, parseAlteration_eq_ok, EntryStops, EntryFine]
  | addColumnsSql numColumns columns batchSize =>
    rcases columns with _ | columns
    · exact framed.elim
    have counted : refuseIf (numColumns = 0) (.invalidInput "num_columns must be > 0") = .ok () :=
      refuseIf_ok.mpr framed.1
    have resolved : resolveBatchSize batchSize = .ok (orDefault none some batchSize) :=
      resolveBatchSize_eq_ok.mpr ⟨framed.2, rfl⟩
    simp only [footprint] at reserved
    simp only [arguments, addColumnsSqlArguments, counted, resolved, reserved]
    refine entries_stop.trans ?_
    simp only [parseSqlColumn_eq_ok, parseSqlColumn_eq_error, EntryStops, EntryFine]
  | delete | addColumnsNulls | compactFiles | createScalarIndex | createVectorIndex | dropIndex => exact framed.elim

end Faults

section Runs

variable {upstream : MutationUpstream UpdateBuilder} {call : MutationCall} {mutation : LanceMutation}
  {handle : LanceDataset} {world : MutationWorld}

/-- The handle after a mutation under its lock. -/
def afterMutation (handle : LanceDataset) (performed : MutationUpstream UpdateBuilder × LanceMutation) :
    LanceDataset :=
  (handle.withMut performed.1.held performed.1.allocator (performed.2.perform performed.1)).2

/-- A call has run one mutation, and reports how it ended; only a success writes the caller's variables. -/
structure Performed (upstream : MutationUpstream UpdateBuilder) (handle : LanceDataset) (out : Bool)
    (mutation : LanceMutation) (world : MutationWorld) (ended : Unwind (Except LanceError Int) × MutationWorld) :
    Prop where
  stored : ended.2.handle = some (afterMutation handle (upstream, mutation))
  returned : ∀ result, (mutation.perform upstream handle.inner.value).1 = .returned (.ok result) →
    ended.1 = .returned (.ok 0) ∧ ended.2.slots = world.slots.store out result
  failed : ∀ error, (mutation.perform upstream handle.inner.value).1 = .returned (.error error) →
    ended.1 = .returned (.error error) ∧ ended.2.slots = world.slots
  panicked : ∀ payload, (mutation.perform upstream handle.inner.value).1 = .panicked payload →
    ended.1 = .panicked payload ∧ ended.2.slots = world.slots

theorem runMutation_performed (out : Bool) :
    Performed upstream handle out mutation world (runMutation upstream handle out mutation world) := by
  have outcome : (handle.withMut upstream.held upstream.allocator (mutation.perform upstream)).1 =
      (mutation.perform upstream handle.inner.value).1 := by
    unfold LanceDataset.withMut
    rcases mutation.perform upstream handle.inner.value with ⟨_ | _, _⟩ <;> rfl
  have ran : runMutation upstream handle out mutation world =
      match (mutation.perform upstream handle.inner.value).1 with
      | .returned (.ok result) => (.returned (.ok 0),
          ⟨some (afterMutation handle (upstream, mutation)), world.slots.store out result⟩)
      | .returned (.error error) => (.returned (.error error),
          ⟨some (afterMutation handle (upstream, mutation)), world.slots⟩)
      | .panicked payload => (.panicked payload, ⟨some (afterMutation handle (upstream, mutation)), world.slots⟩) := by
    simp only [← outcome, afterMutation, runMutation, bind, Body.bind]
    rcases handle.withMut upstream.held upstream.allocator (mutation.perform upstream) with ⟨(_ | _) | _, _⟩ <;> rfl
  rw [ran]
  refine ⟨?_, fun result same => ?_, fun error same => ?_, fun payload same => ?_⟩
  · rcases (mutation.perform upstream handle.inner.value).1 with (_ | _) | _ <;> rfl
  · rw [same]
    exact ⟨rfl, rfl⟩
  · rw [same]
    exact ⟨rfl, rfl⟩
  · rw [same]
    exact ⟨rfl, rfl⟩

variable [Target]

/-- The mutation that a call runs. -/
def MutationCall.Accepted (upstream : MutationUpstream UpdateBuilder) (call : MutationCall)
    (mutation : LanceMutation) : Prop :=
  call.Denotes upstream mutation ∧ call.Addressable upstream

theorem body_accepted (accepted : call.Accepted upstream mutation) (given : world.handle = some handle) :
    Performed upstream handle call.out mutation world (call.body upstream world) := by
  obtain ⟨nullMessage, same⟩ := call.body_eq upstream
  have resolved : call.arguments upstream = .ok mutation := MutationCall.arguments_eq_ok.mpr accepted
  have ran : call.body upstream world = runMutation upstream handle call.out mutation world := by
    rw [same, mutating, Body.get_bind, given, resolved]
    rfl
  rw [ran]
  exact runMutation_performed call.out

theorem body_stopped {stop : Stop LanceError} (given : world.handle = some handle)
    (stopped : call.arguments upstream = .error stop) :
    call.body upstream world = (.ofSettled (.error stop), world) := by
  obtain ⟨nullMessage, same⟩ := call.body_eq upstream
  rw [same, mutating, Body.get_bind, given, stopped]
  cases stop with
  | error error => exact Body.bind_of_error rfl
  | panic payload => rfl

theorem exists_stop (refused : ∀ mutation, ¬call.Accepted upstream mutation) :
    ∃ stop, call.arguments upstream = .error stop := by
  cases resolved : call.arguments upstream with
  | error stop => exact ⟨stop, rfl⟩
  | ok mutation => exact absurd (MutationCall.arguments_eq_ok.mp resolved) (refused mutation)

/-- The mutations that a sequence of calls asks for, in order. -/
inductive Selects : List (MutationUpstream UpdateBuilder × MutationCall) →
    List (MutationUpstream UpdateBuilder × LanceMutation) → Prop where
  | nil : Selects [] []
  | accepted {upstream : MutationUpstream UpdateBuilder} {call : MutationCall} {mutation : LanceMutation}
      {calls : List (MutationUpstream UpdateBuilder × MutationCall)}
      {mutations : List (MutationUpstream UpdateBuilder × LanceMutation)}
      (denoted : call.Accepted upstream mutation) (rest : Selects calls mutations) :
      Selects ((upstream, call) :: calls) ((upstream, mutation) :: mutations)
  | refused {upstream : MutationUpstream UpdateBuilder} {call : MutationCall}
      {calls : List (MutationUpstream UpdateBuilder × MutationCall)}
      {mutations : List (MutationUpstream UpdateBuilder × LanceMutation)}
      (nothing : ∀ mutation, ¬call.Accepted upstream mutation) (rest : Selects calls mutations) :
      Selects ((upstream, call) :: calls) mutations

def runCalls (world : MutationWorld) (calls : List (MutationUpstream UpdateBuilder × MutationCall)) : MutationWorld :=
  calls.foldl (fun world entry => (entry.2.body entry.1 world).2) world

theorem runCalls_selects (calls : List (MutationUpstream UpdateBuilder × MutationCall))
    (given : world.handle = some handle) : ∃ mutations, Selects calls mutations ∧
      (runCalls world calls).handle = some (mutations.foldl afterMutation handle) := by
  induction calls generalizing world handle with
  | nil => exact ⟨[], .nil, given⟩
  | cons entry rest ih =>
    obtain ⟨upstream, call⟩ := entry
    by_cases asked : ∃ mutation, call.Accepted upstream mutation
    · obtain ⟨mutation, accepted⟩ := asked
      obtain ⟨mutations, selects, reached⟩ := ih (body_accepted accepted given).stored
      exact ⟨(upstream, mutation) :: mutations, .accepted accepted selects, reached⟩
    · have refused : ∀ mutation, ¬call.Accepted upstream mutation := not_exists.mp asked
      obtain ⟨stop, stopped⟩ := exists_stop refused
      have kept : (call.body upstream world).2.handle = some handle := by
        rw [body_stopped given stopped]
        exact given
      obtain ⟨mutations, selects, reached⟩ := ih kept
      exact ⟨mutations, .refused refused selects, reached⟩

/-- Every sequence of mutating calls runs exactly the mutations that its arguments denote, in its
order. Any other call changes nothing; a list of entries stops it at the first that denotes nothing. -/
theorem mutations_exact :
    (∀ (world : MutationWorld) handle (calls : List (MutationUpstream UpdateBuilder × MutationCall)),
      world.handle = some handle → ∃ mutations, Selects calls mutations ∧
        (runCalls world calls).handle = some (mutations.foldl afterMutation handle)) ∧
    ∀ (upstream : MutationUpstream UpdateBuilder) (call : MutationCall) (world : MutationWorld) handle,
      world.handle = some handle →
        (∀ mutation, call.Accepted upstream mutation →
          Performed upstream handle call.out mutation world (call.body upstream world)) ∧
        ((∀ mutation, ¬call.Accepted upstream mutation) →
          (∃ stop, call.body upstream world = (.ofSettled (.error stop), world)) ∧
          (call.Framed → call.Addressable upstream → ∃ index stop, call.EntryStops upstream index stop ∧
            (∀ earlier < index, call.EntryFine upstream earlier) ∧
              call.body upstream world = (.ofSettled (.error stop), world))) := by
  refine ⟨fun world handle calls => runCalls_selects calls, fun upstream call world handle given =>
    ⟨fun mutation accepted => body_accepted accepted given, fun refused => ?_⟩⟩
  obtain ⟨stop, stopped⟩ := exists_stop refused
  refine ⟨⟨stop, body_stopped given stopped⟩, fun framed addressable => ?_⟩
  obtain ⟨index, faulty, fine⟩ := (MutationCall.arguments_stop framed addressable).mp stopped
  exact ⟨index, stop, faulty, fine, body_stopped given stopped⟩

end Runs

section Sample

/-- A library whose deletions match one row, and which does nothing else. -/
def sampleUpstream : MutationUpstream Unit where
  newUpdate _ := ()
  updateWhere _ _ := .returned (.ok ())
  set _ _ _ := .returned (.ok ())
  execute _ := .returned (.error (.internal "nothing to update"))
  delete _ dataset := (.returned (.ok 1), { dataset with version := dataset.version + 1 })
  dropColumns _ dataset := (.returned (.ok ()), dataset)
  alterColumns _ dataset := (.returned (.ok ()), dataset)
  addColumns _ _ dataset := (.returned (.ok ()), dataset)
  compactFiles _ dataset := (.returned (.ok ⟨0, 0, 0, 0⟩), dataset)
  createIndex _ _ _ _ _ dataset := (.returned (.ok ()), dataset)
  dropIndex _ dataset := (.returned (.ok ()), dataset)
  defaultCompaction := ⟨1048576, 1024, none, none, none⟩
  importDataType _ := .returned (.ok .boolean)
  importSchema _ := .returned (.ok ⟨[], []⟩)
  alterationWords := 10
  held := []
  allocator := .bump

def sampleWorld : MutationWorld := ⟨some LanceDataset.sampleHandle, ⟨0, ⟨0, 0, 0, 0⟩⟩⟩

def sampleDelete : MutationCall := .delete (.text "id = 1") true

/-- The second value is missing. -/
def sampleUpdate : MutationCall :=
  .update .null 2 (some ⟨[.text "a", .text "b"], rfl⟩) (some ⟨[.text "1", .null], rfl⟩) true

theorem mutations_exact_sample :
    letI := target64
    Performed sampleUpstream LanceDataset.sampleHandle true (.delete "id = 1") sampleWorld
        (sampleDelete.body sampleUpstream sampleWorld) ∧
      ∃ index stop, sampleUpdate.EntryStops sampleUpstream index stop ∧
        sampleUpdate.body sampleUpstream sampleWorld = (.ofSettled (.error stop), sampleWorld) := by
  let _ := target64
  have refused : ∀ mutation, ¬sampleUpdate.Accepted sampleUpstream mutation := by
    rintro mutation ⟨denoted, _⟩
    cases denoted with
    | update given filtered nonempty entries =>
      obtain _ | ⟨_, rest⟩ := entries
      obtain _ | ⟨missing, _⟩ := rest
      exact absurd missing.2.1 (by simp)
  obtain ⟨index, stop, stops, _, same⟩ := ((mutations_exact.2 sampleUpstream sampleUpdate sampleWorld
    LanceDataset.sampleHandle rfl).2 refused).2 ⟨by decide, none, rfl, by decide⟩ (by
      change 6 * (64 / 8) * 2 ≤ 2 ^ (64 - 1) - 1
      decide)
  refine ⟨(mutations_exact.2 sampleUpstream sampleDelete sampleWorld LanceDataset.sampleHandle rfl).1 _
    ⟨.delete ⟨rfl, by decide⟩, MutationCall.addressable_of_footprint rfl⟩, index, stop, stops, same⟩

end Sample

end LanceC.Mutations
