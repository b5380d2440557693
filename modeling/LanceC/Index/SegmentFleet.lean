import LanceC.Index.ModelGate
import LanceC.Index.ProgressRetire
import LanceC.Index.SegmentCommit

/-! A distributed index build over any sequence of calls: builders created from the snapshots of
one handle, their executions by any number of processes, and commits and other mutations of
the handle in between. -/

namespace LanceC.Index

open Ffi LanceIndexSegmentBuilder Logic Machine

variable {Rest Value Callback Context Gate : Type}

/-- A request of this API to Lance's index build. -/
abbrev SegmentCore (Callback Context Gate Value : Type) :=
  CoreIndexBuilder Callback Context Gate (Option Value) (List (Option Value))

/-- The coordinator's handle, the builders in the order of their creation, the snapshot each was
created from, what Lance was asked to build and built for each, and the bytes that C received. -/
structure Fleet (Callback Context Gate Value : Type) where
  handle : LanceDataset
  builders : List (SegmentBuilder Callback Context Gate Value)
  origins : List Dataset
  asked : List (Nat × SegmentCore Callback Context Gate Value)
  built : List (Nat × SegmentRecord)
  payloads : List (Nat × List UInt8)

inductive FleetEvent where
  | created
  | configured
  | refused
  | executed
  | committed
  | mutated
  deriving DecidableEq, Repr

namespace Fleet

def new (handle : LanceDataset) : Fleet Callback Context Gate Value := ⟨handle, [], [], [], [], []⟩

def create (fleet : Fleet Callback Context Gate Value) (builder : SegmentBuilder Callback Context Gate Value) :
    Fleet Callback Context Gate Value :=
  { fleet with builders := fleet.builders ++ [builder], origins := fleet.origins ++ [fleet.handle.inner.value] }

def replace (fleet : Fleet Callback Context Gate Value) (index : Nat)
    (builder : SegmentBuilder Callback Context Gate Value) : Fleet Callback Context Gate Value :=
  { fleet with builders := fleet.builders.set index builder }

/-- An execution that reached Lance, with the record that the build returned and the bytes of the call. -/
def record (fleet : Fleet Callback Context Gate Value) (index : Nat) (core : SegmentCore Callback Context Gate Value)
    (built : Option SegmentRecord) (bytes : Option (List UInt8)) : Fleet Callback Context Gate Value :=
  { fleet with
    asked := fleet.asked ++ [(index, core)]
    built := fleet.built ++ (built.map (index, ·)).toList
    payloads := fleet.payloads ++ (bytes.map (index, ·)).toList }

end Fleet

/-- The record that a build returned, if it did. -/
def builtRecord : Unwind (Except LanceError SegmentRecord) → Option SegmentRecord
  | .returned (.ok record) => some record
  | .returned (.error _) | .panicked _ => none

/-- The bytes that an execution handed to C, if it did. -/
def returnedBytes : Unwind (Except LanceError (List UInt8)) → Option (List UInt8)
  | .returned (.ok bytes) => some bytes
  | .returned (.error _) | .panicked _ => none

section System

variable [Target] (codec : MetadataCodec Rest) (library : VectorLibrary Value) (arrow : ModelCrate Value)
  (memory : SchemaMemory)

/-- One call on the handle or on a builder. A constructor takes the handle's snapshot; an execution ends as its
body does, whatever Lance's workers do in between. -/
inductive FleetStep : Fleet Callback Context Gate Value → FleetEvent → Fleet Callback Context Gate Value → Prop where
  | newScalar {fleet column indexName indexType paramsJson} {options : Option (LanceIndexSegmentBuildOptions Value)}
      {builder} :
      newScalarBuilderInner (some fleet.handle.snapshot.value) column indexName indexType paramsJson options =
        .ok builder →
      FleetStep fleet .created (fleet.create builder)
  | newVector {fleet column indexName params options slots reached builder} :
      newVectorBuilderInner library arrow memory (some fleet.handle.snapshot.value) column indexName params options
        slots = (.returned (.ok builder), reached) →
      FleetStep fleet .created (fleet.create builder)
  | setProgress {fleet index builder next callback ctx gate} :
      fleet.builders[index]? = some builder → setProgressCallbackInner (some builder) callback ctx gate = .ok next →
      FleetStep fleet .configured (fleet.replace index next)
  | refuse {fleet index builder next outsNull error}
      {outside : BuildOutside Callback Context Gate (Option Value) (List (Option Value)) SegmentRecord} :
      fleet.builders[index]? = some builder →
      executeUncommittedInner outside (some builder) outsNull = (.error error, some next) →
      FleetStep fleet .refused (fleet.replace index next)
  | unbuilt {fleet index builder next outsNull running error}
      {outside : BuildOutside Callback Context Gate (Option Value) (List (Option Value)) SegmentRecord} :
      fleet.builders[index]? = some builder →
      executeUncommittedInner outside (some builder) outsNull = (.ok running, some next) →
      builder.core = .error error → FleetStep fleet .refused (fleet.replace index next)
  | execute {fleet index builder next outsNull running core outcome}
      {outside : BuildOutside Callback Context Gate (Option Value) (List (Option Value)) SegmentRecord} :
      fleet.builders[index]? = some builder →
      executeUncommittedInner outside (some builder) outsNull = (.ok running, some next) →
      builder.core = .ok core → outside.encodeToVec = codec.bytes → running.body.Ensures (· = outcome) →
      FleetStep fleet .executed ((fleet.replace index next).record index core
        (builtRecord (outside.executeUncommitted core)) (returnedBytes outcome))
  | commit {fleet indexName column slots outcome next} {upstream : CommitUpstream} :
      commitIndexSegmentsInner codec upstream indexName column slots (some fleet.handle) = (outcome, some next) →
      FleetStep fleet .committed { fleet with handle := next }
  | mutate {R : Type} {fleet} (call : LanceDataset.Call R) :
      FleetStep fleet .mutated { fleet with handle := fleet.handle.after call }

end System

section Builders

variable {builder next : SegmentBuilder Callback Context Gate Value} {core : SegmentCore Callback Context Gate Value}
variable {outside : BuildOutside Callback Context Gate (Option Value) (List (Option Value)) SegmentRecord}

/-- The fragments a builder covers are distinct fragments of its snapshot. -/
def Covers (dataset : Dataset) (fragments : Option (List Nat)) : Prop :=
  ∀ ids ∈ fragments, ids.Nodup ∧ ∀ id ∈ ids, ∃ fragment ∈ dataset.fragments, fragment.id = id

/-- A builder as a constructor returns it. -/
structure Fresh (dataset : Dataset) (builder : SegmentBuilder Callback Context Gate Value) : Prop where
  unexecuted : builder.executed = false
  snapshot : builder.dataset = dataset
  covers : Covers dataset builder.fragmentIds

theorem covers_parseOptions [Target] {options : Option (LanceIndexSegmentBuildOptions Value)} {dataset : Dataset}
    {scalar : Bool} {parsed : ParsedBuildOptions} (success : parseOptions options dataset scalar = .ok parsed) :
    Covers dataset parsed.fragmentIds := by
  cases options with
  | none =>
    obtain rfl := Except.ok.inj success
    exact nofun
  | some options =>
    obtain ⟨⟨same, selects⟩, _⟩ := parseOptions_eq_ok.mp success
    intro ids given
    rw [same] at given
    obtain ⟨pointer, present, rfl⟩ := Option.map_eq_some_iff.mp given
    rw [present] at selects
    exact selects.2

theorem fresh_newScalar [Target] {dataset : Dataset} {column indexName paramsJson : CString} {indexType : Int}
    {options : Option (LanceIndexSegmentBuildOptions Value)}
    (success : newScalarBuilderInner (some dataset) column indexName indexType paramsJson options = .ok builder) :
    Fresh dataset builder := by
  obtain ⟨_, _, success⟩ := bind_eq_ok.mp success
  obtain ⟨_, _, success⟩ := bind_eq_ok.mp success
  obtain ⟨_, _, success⟩ := bind_eq_ok.mp success
  obtain ⟨_, _, success⟩ := bind_eq_ok.mp success
  obtain ⟨_, _, success⟩ := bind_eq_ok.mp success
  obtain ⟨parsed, given, success⟩ := bind_eq_ok.mp success
  obtain rfl := Except.ok.inj success
  exact ⟨rfl, rfl, covers_parseOptions given⟩

theorem fresh_newVector [Target] {library : VectorLibrary Value} {arrow : ModelCrate Value} {memory : SchemaMemory}
    {dataset : Dataset} {column indexName : CString} {params : Option LanceVectorIndexSegmentParams}
    {options : Option (LanceIndexSegmentBuildOptions Value)} {slots reached : ModelSlots Value}
    (success : newVectorBuilderInner library arrow memory (some dataset) column indexName params options slots =
      (.returned (.ok builder), reached)) : Fresh dataset builder := by
  obtain ⟨input, parsed, success⟩ := Body.ofExcept_bind_eq_ok.mp success
  obtain ⟨models, between, _, success⟩ := Body.bind_eq_ok.mp success
  obtain ⟨values, _, success⟩ := Body.ofExcept_bind_eq_ok.mp success
  obtain ⟨rfl, rfl⟩ := Body.pure_eq_ok.mp success
  cases params with
  | none => cases parsed
  | some params =>
    obtain ⟨_, _, _, rfl, given⟩ := parseBuilderInput_eq_ok.mp parsed
    exact ⟨rfl, rfl, covers_parseOptions given⟩

theorem build_of_core (requested : builder.core = .ok core) : builder.build outside = buildCore outside core := by
  rw [build, requested]

theorem execute_body {outsNull : Bool} {running : GuardedBuild Callback Context Gate}
    (begun : executeUncommittedInner outside (some builder) outsNull = (.ok running, some next))
    (requested : builder.core = .ok core) : running.body = buildCore outside core := by
  obtain ⟨unexecuted, -, -⟩ := execute_ok begun
  simp only [executeUncommittedInner, unexecuted] at begun
  cases outsNull with
  | true => simp at begun
  | false =>
    obtain rfl : _ = running := by simpa using congrArg Prod.fst begun
    exact build_of_core requested

/-- The bytes of an execution are those of the record that Lance's build returned. -/
theorem returnedBytes_buildCore {outcome : Unwind (Except LanceError (List UInt8))} {bytes : List UInt8}
    (ends : (buildCore outside core).Ensures (· = outcome)) (returned : returnedBytes outcome = some bytes) :
    ∃ built, builtRecord (outside.executeUncommitted core) = some built ∧ bytes = outside.encodeToVec built := by
  have ends : (Program.ofUnwind (outside.executeUncommitted core) >>= fun result =>
      (pure (encodeMetadata outside result) : Program (List (SendIndexBuildProgressCallback Callback Context Gate))
        (Except LanceError (List UInt8)))).Ensures (· = outcome) := ends []
  cases built : outside.executeUncommitted core with
  | panicked payload =>
    rw [built] at ends
    obtain rfl : Unwind.panicked payload = outcome := ends
    cases returned
  | returned result =>
    rw [built] at ends
    obtain rfl : Unwind.returned (encodeMetadata outside result) = outcome := ends
    cases result with
    | error error => cases returned
    | ok record =>
      refine ⟨record, rfl, ?_⟩
      unfold encodeMetadata refuseIf at returned
      by_cases failed : outside.malloc (outside.encodeToVec record).length = false
      · simp [bind, Except.bind, failed, returnedBytes] at returned
      · simpa [bind, Except.bind, failed, returnedBytes, pure, Except.pure, eq_comm] using returned

end Builders

section Runs

variable {codec : MetadataCodec Rest} {fleet before after : Fleet Callback Context Gate Value}

/-- What any sequence of calls keeps. Lance has been asked for a builder's segment only where the
builder has been executed, and by what the builder then asked; it was asked once. -/
structure Fleet.Invariant (codec : MetadataCodec Rest) (fleet : Fleet Callback Context Gate Value) : Prop where
  origins : fleet.origins = fleet.builders.map LanceIndexSegmentBuilder.dataset
  covers : ∀ builder ∈ fleet.builders, Covers builder.dataset builder.fragmentIds
  asked : ∀ entry ∈ fleet.asked, ∃ builder, fleet.builders[entry.1]? = some builder ∧ builder.executed = true ∧
    builder.core = .ok entry.2
  once : (fleet.asked.map Prod.fst).Nodup
  built : (fleet.built.map Prod.fst).Sublist (fleet.asked.map Prod.fst)
  returned : (fleet.payloads.map Prod.fst).Sublist (fleet.built.map Prod.fst)
  payloads : ∀ entry ∈ fleet.payloads, ∃ record, (entry.1, record) ∈ fleet.built ∧ entry.2 = codec.bytes record

theorem Fleet.invariant_new (handle : LanceDataset) :
    (Fleet.new handle : Fleet Callback Context Gate Value).Invariant codec where
  origins := rfl
  covers := List.forall_mem_nil _
  asked := List.forall_mem_nil _
  once := List.nodup_nil
  built := List.Sublist.refl _
  returned := List.Sublist.refl _
  payloads := List.forall_mem_nil _

namespace Fleet.Invariant

variable {builder next : SegmentBuilder Callback Context Gate Value} {index : Nat}

theorem create (invariant : fleet.Invariant codec) (fresh : Fresh fleet.handle.snapshot.value builder) :
    (fleet.create builder).Invariant codec where
  origins := by
    have snapshot : fleet.handle.inner.value = builder.dataset := fresh.snapshot.symm
    simp [Fleet.create, invariant.origins, snapshot]
  covers other member := by
    rcases List.mem_append.mp member with old | new
    · exact invariant.covers other old
    · obtain rfl := List.mem_singleton.mp new
      exact fresh.snapshot ▸ fresh.covers
  asked entry member := by
    obtain ⟨other, present, executed, requested⟩ := invariant.asked entry member
    refine ⟨other, ?_, executed, requested⟩
    exact (List.getElem?_append_left (List.getElem?_eq_some_iff.mp present).1).trans present
  once := invariant.once
  built := invariant.built
  returned := invariant.returned
  payloads := invariant.payloads

/-- A call may change what it likes of a builder that has not been executed, except for its snapshot and
its fragments. -/
theorem replace (invariant : fleet.Invariant codec) (present : fleet.builders[index]? = some builder)
    (dataset : next.dataset = builder.dataset) (fragments : next.fragmentIds = builder.fragmentIds)
    (frozen : builder.executed = true → next.executed = true ∧ next.core = builder.core) :
    (fleet.replace index next).Invariant codec where
  origins := by
    obtain ⟨inside, same⟩ := List.getElem?_eq_some_iff.mp present
    have kept : (fleet.builders.map LanceIndexSegmentBuilder.dataset).set index next.dataset =
        fleet.builders.map LanceIndexSegmentBuilder.dataset := by
      apply List.ext_getElem (by simp)
      intro position first second
      by_cases here : index = position
      · subst here
        simp [same, dataset]
      · simp [here]
    rw [Fleet.replace, List.map_set, kept]
    exact invariant.origins
  covers other member := by
    rcases List.mem_or_eq_of_mem_set member with old | rfl
    · exact invariant.covers other old
    · rw [dataset, fragments]
      exact invariant.covers builder (List.mem_of_getElem? present)
  asked entry member := by
    obtain ⟨other, there, executed, requested⟩ := invariant.asked entry member
    by_cases here : entry.1 = index
    · rw [here, present] at there
      obtain rfl := Option.some.inj there
      obtain ⟨still, same⟩ := frozen executed
      refine ⟨next, ?_, still, same.trans requested⟩
      rw [here, Fleet.replace, List.getElem?_set_self (List.getElem?_eq_some_iff.mp present).1]
    · refine ⟨other, ?_, executed, requested⟩
      rw [Fleet.replace, List.getElem?_set_ne (Ne.symm here)]
      exact there
  once := invariant.once
  built := invariant.built
  returned := invariant.returned
  payloads := invariant.payloads

/-- An execution marks its builder. -/
theorem mark (invariant : fleet.Invariant codec) (present : fleet.builders[index]? = some builder) :
    (fleet.replace index { builder with executed := true }).Invariant codec :=
  invariant.replace present rfl rfl fun _ => ⟨rfl, rfl⟩

/-- No request has been made for a builder that has not been executed. -/
theorem unasked (invariant : fleet.Invariant codec) (present : fleet.builders[index]? = some builder)
    (unexecuted : builder.executed = false) : index ∉ fleet.asked.map Prod.fst := by
  intro member
  obtain ⟨entry, asked, rfl⟩ := List.mem_map.mp member
  obtain ⟨other, there, executed, _⟩ := invariant.asked entry asked
  rw [present] at there
  obtain rfl := Option.some.inj there
  rw [unexecuted] at executed
  cases executed

theorem execute (invariant : fleet.Invariant codec) {core : SegmentCore Callback Context Gate Value}
    {built : Option SegmentRecord} {bytes : Option (List UInt8)} (present : fleet.builders[index]? = some builder)
    (executed : builder.executed = true) (requested : builder.core = .ok core)
    (unasked : index ∉ fleet.asked.map Prod.fst)
    (returned : ∀ payload ∈ bytes, ∃ record ∈ built, payload = codec.bytes record) :
    (fleet.record index core built bytes).Invariant codec where
  origins := invariant.origins
  covers := invariant.covers
  asked entry member := by
    rcases List.mem_append.mp member with old | new
    · exact invariant.asked entry old
    · obtain rfl := List.mem_singleton.mp new
      exact ⟨builder, present, executed, requested⟩
  once := by
    rw [Fleet.record, List.map_append, List.nodup_append]
    exact ⟨invariant.once, List.nodup_singleton _, by
      intro position old other new same
      obtain rfl := List.mem_singleton.mp new
      exact unasked (same ▸ old)⟩
  built := by
    rw [Fleet.record, List.map_append, List.map_append]
    refine invariant.built.append ?_
    cases built <;> simp
  returned := by
    rw [Fleet.record, List.map_append, List.map_append]
    refine invariant.returned.append ?_
    cases bytes with
    | none => exact List.nil_sublist _
    | some payload =>
      obtain ⟨record, made, _⟩ := returned payload rfl
      simp [Option.mem_def.mp made]
  payloads entry member := by
    rcases List.mem_append.mp member with old | new
    · obtain ⟨record, made, same⟩ := invariant.payloads entry old
      exact ⟨record, List.mem_append_left _ made, same⟩
    · obtain ⟨payload, given, rfl⟩ := Option.map_eq_some_iff.mp (Option.mem_toList.mp new)
      obtain ⟨record, made, same⟩ := returned payload given
      refine ⟨record, List.mem_append_right _ ?_, same⟩
      rw [Option.mem_def.mp made]
      exact List.mem_singleton_self _

end Fleet.Invariant

variable [Target] {library : VectorLibrary Value} {arrow : ModelCrate Value} {memory : SchemaMemory}

theorem Fleet.invariant_step {event : FleetEvent} (invariant : before.Invariant codec)
    (step : FleetStep codec library arrow memory before event after) : after.Invariant codec := by
  cases step with
  | newScalar created => exact invariant.create (fresh_newScalar created)
  | newVector created => exact invariant.create (fresh_newVector created)
  | @setProgress fleet index builder next callback ctx gate present installed =>
    obtain ⟨unexecuted, _⟩ := setProgressCallback_ok installed
    cases callback with
    | none => cases installed
    | some callback =>
      rw [setProgressCallbackInner, if_neg (by simp [unexecuted])] at installed
      obtain rfl := Except.ok.inj installed
      exact invariant.replace present rfl rfl fun executed => by simp [unexecuted] at executed
  | refuse present refused =>
    obtain rfl := execute_error refused
    exact invariant.mark present
  | unbuilt present begun _ =>
    obtain ⟨_, rfl, _⟩ := execute_ok begun
    exact invariant.mark present
  | @execute fleet index builder next outsNull running core outcome outside present begun requested encodes ends =>
    obtain ⟨unexecuted, rfl, _⟩ := execute_ok begun
    rw [execute_body begun requested] at ends
    have fresh := invariant.unasked present unexecuted
    have marked : (before.replace index { builder with executed := true }).builders[index]? =
        some { builder with executed := true } :=
      List.getElem?_set_self (List.getElem?_eq_some_iff.mp present).1
    refine (invariant.mark present).execute marked rfl requested fresh fun payload given => ?_
    obtain ⟨record, made, encoded⟩ := returnedBytes_buildCore ends given
    exact ⟨record, made, by rw [encoded, encodes]⟩
  | commit committed => exact ⟨invariant.origins, invariant.covers, invariant.asked, invariant.once, invariant.built,
      invariant.returned, invariant.payloads⟩
  | mutate call => exact ⟨invariant.origins, invariant.covers, invariant.asked, invariant.once, invariant.built,
      invariant.returned, invariant.payloads⟩

/-- A commit of records gives Lance all of them in their order, or leaves the handle as it is and
names the first that is out of range. -/
def CommitsAll (codec : MetadataCodec Rest) (upstream : CommitUpstream) (handle : LanceDataset)
    (indexName column : String) (slots : SegmentSlots) (records : List SegmentRecord) : Prop :=
  ((∀ record ∈ records, codec.InRange (codec.ofMetadata record)) →
    (commitIndexSegmentsInner codec upstream (.text indexName) (.text column) slots (some handle)).2 =
        some (commitSegments upstream handle indexName column records).2 ∧
      ((commitIndexSegmentsInner codec upstream (.text indexName) (.text column) slots (some handle)).1 =
          .returned (.ok 0) ↔
        (commitSegments upstream handle indexName column records).1 = .returned (.ok ()))) ∧
  (¬(∀ record ∈ records, codec.InRange (codec.ofMetadata record)) → ∃ error,
    commitIndexSegmentsInner codec upstream (.text indexName) (.text column) slots (some handle) =
      (.returned (.error error), some handle) ∧ Refused codec upstream 0 records error)

omit [Target] in
theorem exists_records (invariant : fleet.Invariant codec) {sent : List (Nat × List UInt8)}
    (known : ∀ entry ∈ sent, entry ∈ fleet.payloads) : ∃ records,
      List.Forall₂ (fun entry record => (entry.1, record) ∈ fleet.built) sent records ∧
        sent.map Prod.snd = records.map codec.bytes ∧ ∀ record ∈ records, ∃ index, (index, record) ∈ fleet.built := by
  induction sent with
  | nil => exact ⟨[], .nil, rfl, List.forall_mem_nil _⟩
  | cons entry rest ih =>
    obtain ⟨first, others⟩ := List.forall_mem_cons.mp known
    obtain ⟨record, built, same⟩ := invariant.payloads entry first
    obtain ⟨records, made, bytes, sources⟩ := ih others
    exact ⟨record :: records, .cons built made, by rw [List.map_cons, List.map_cons, same, bytes],
      List.forall_mem_cons.mpr ⟨⟨entry.1, built⟩, sources⟩⟩

/-- After any sequence of calls. Lance is asked for a builder's segment at most once, over distinct
fragments of the snapshot the builder was created from. Whichever of the returned bytes are sent, in
whatever order, they are committed as the records that Lance built for them, all or none. -/
theorem fleet_commits {handle : LanceDataset} {events : List FleetEvent}
    (run : Run (FleetStep codec library arrow memory) (.new handle) events fleet)
    (carries : ∀ entry ∈ fleet.built, codec.Carries entry.2) :
    (fleet.asked.map Prod.fst).Nodup ∧ (fleet.built.map Prod.fst).Nodup ∧
    (∀ index core, (index, core) ∈ fleet.asked →
      fleet.origins[index]? = some core.dataset ∧ Covers core.dataset core.fragments) ∧
    ∀ sent : List (Nat × List UInt8), (∀ entry ∈ sent, entry ∈ fleet.payloads) → ∃ records,
      List.Forall₂ (fun entry record => (entry.1, record) ∈ fleet.built) sent records ∧
      ∀ upstream indexName column slots, slots.Show (sent.map Prod.snd) → indexName ≠ "" → column ≠ "" →
        CommitsAll codec upstream fleet.handle indexName column slots records := by
  have invariant := run.invariant (Fleet.invariant_new handle) Fleet.invariant_step
  refine ⟨invariant.once, invariant.once.sublist invariant.built, fun index core member => ?_, fun sent known => ?_⟩
  · obtain ⟨builder, present, _, requested⟩ := invariant.asked _ member
    obtain ⟨dataset, _, fragments, _⟩ := core_dataset requested
    rw [dataset, fragments, invariant.origins, List.getElem?_map, present]
    exact ⟨rfl, invariant.covers builder (List.mem_of_getElem? present)⟩
  · obtain ⟨records, made, bytes, sources⟩ := exists_records invariant known
    have carried : ∀ record ∈ records, codec.Carries record := by
      intro record member
      obtain ⟨index, built⟩ := sources record member
      exact carries _ built
    refine ⟨records, made, fun upstream indexName column slots shown named placed => ?_⟩
    rw [bytes] at shown
    exact commitIndexSegmentsInner_show carried shown named placed

end Runs

section Sample

/-- A build that returns the sample segment. -/
def sampleBuild : BuildOutside Unit Unit Unit (Option Nat) (List (Option Nat)) SegmentRecord where
  executeUncommitted _ := .returned (.ok sampleSegment)
  encodeToVec := sampleCodec.bytes
  malloc _ := true

def sampleCommit : CommitUpstream where
  commitExistingIndexSegments _ _ _ dataset := (.returned (.ok ()), { dataset with version := dataset.version + 1 })
  display error := error.message
  held := []
  allocator := .bump

def sampleScalarBuilder : SegmentBuilder Unit Unit Unit Nat :=
  .new LanceDataset.sampleHandle.snapshot.value "id" (some "id_idx") (.scalar .bTree none) none none

def sampleCore : SegmentCore Unit Unit Unit Nat where
  dataset := LanceDataset.sampleHandle.snapshot.value
  columns := ["id"]
  indexType := .bTree
  params := .scalar .bTree none
  name := some "id_idx"
  fragments := none
  indexUuid := none
  progress := none
  train := none

/-- One builder, executed. -/
def sampleFleet : Fleet Unit Unit Unit Nat :=
  (((Fleet.new LanceDataset.sampleHandle).create sampleScalarBuilder).replace 0
    { sampleScalarBuilder with executed := true }).record 0 sampleCore (some sampleSegment) (some [10])

theorem sampleFleet_reached : ∃ events, Run
    (@FleetStep _ _ _ _ _ target64 sampleCodec sampleLibrary sampleCrate sampleSchemas)
    (.new LanceDataset.sampleHandle) events sampleFleet := by
  let _ := target64
  have constructed : newScalarBuilderInner (some LanceDataset.sampleHandle.snapshot.value) (.text "id")
      (.text "id_idx") 1 .null (none : Option (LanceIndexSegmentBuildOptions Nat)) = .ok sampleScalarBuilder := rfl
  have created : FleetStep sampleCodec sampleLibrary sampleCrate sampleSchemas
      (.new LanceDataset.sampleHandle) .created ((Fleet.new LanceDataset.sampleHandle).create sampleScalarBuilder) :=
    .newScalar constructed
  have begun : executeUncommittedInner sampleBuild (some sampleScalarBuilder) false =
      (.ok ⟨none, ({ sampleScalarBuilder with executed := true }).build sampleBuild⟩,
        some { sampleScalarBuilder with executed := true }) := rfl
  have ends : (({ sampleScalarBuilder with executed := true }).build sampleBuild).Ensures
      (· = Unwind.returned (Except.ok [10])) := fun _ => rfl
  have executed : FleetStep sampleCodec sampleLibrary sampleCrate sampleSchemas
      ((Fleet.new LanceDataset.sampleHandle).create sampleScalarBuilder) .executed sampleFleet :=
    .execute rfl begun (show sampleScalarBuilder.core = .ok sampleCore from rfl) rfl ends
  exact ⟨_, (Run.single created).snoc executed⟩

/-- One segment is built for the fleet's builder, and its bytes commit to one more version. -/
theorem fleet_commits_sample :
    (sampleFleet.asked.map Prod.fst).Nodup ∧
      @CommitsAll _ target64 sampleCodec sampleCommit sampleFleet.handle "id_idx" "id"
        ⟨some [samplePointer], some [1], 1⟩ [sampleSegment] := by
  let _ := target64
  obtain ⟨events, run⟩ := sampleFleet_reached
  have carries : ∀ entry ∈ sampleFleet.built, sampleCodec.Carries entry.2 := by
    intro entry member
    obtain rfl := List.mem_singleton.mp member
    exact sampleCodec_carries
  obtain ⟨once, _, _, commits⟩ := fleet_commits run carries
  obtain ⟨records, made, committed⟩ := commits sampleFleet.payloads fun _ => id
  obtain rfl : records = [sampleSegment] := by
    cases made with
    | cons first rest =>
      cases rest
      obtain rfl := (Prod.mk.inj (List.mem_singleton.mp first)).2
      rfl
  refine ⟨once, committed sampleCommit "id_idx" "id" _ ⟨⟨_, rfl, ?_⟩, rfl, rfl, by decide, by decide⟩ (by decide)
    (by decide)⟩
  exact .cons samplePointer_shows .nil

end Sample

end LanceC.Index
