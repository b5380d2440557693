import LanceC.Blob.BlobFile
import LanceC.Logic.Transition

/-! A byte file with a cursor, as lance.h describes it, and that a blob handle is one. -/

namespace LanceC.Blob

open Logic Machine

namespace BlobCall

def dst : BlobCall → Nat
  | read dst _ | readUpTo dst _ | readRange _ dst _ => dst
  | seek _ | tell => 0

/-- What the caller says its buffer holds. -/
def capacity : BlobCall → Nat
  | read _ length | readUpTo _ length | readRange _ _ length => length
  | seek _ | tell => 0

end BlobCall

/-- Reading `count` bytes moves the cursor past them; from beyond the end it may also come back to the end. -/
def Consumed (size position count after : Nat) : Prop := after = position + count ∨ size < position ∧ after = size

/-- A call that succeeds: the bytes it puts at the start of the buffer, the number it stores, and where it leaves
the cursor. -/
structure Effect where
  written : List Byte
  stored : Option Nat
  next : Nat → Prop

/-- What the contract demands of a call; `none` is an error. -/
def demand (content : List Byte) (position : Nat) (slotGiven : Bool) : BlobCall → Option Effect
  | .read dst dstLen =>
    let rest := content.drop position
    if rest.length ≤ dstLen ∧ (dst = 0 → rest.length = 0) then
      some ⟨rest, none, Consumed content.length position rest.length⟩
    else none
  | .readUpTo dst len =>
    let bytes := (content.drop position).take len
    if slotGiven ∧ (dst = 0 → len = 0) then
      some ⟨bytes, some bytes.length, Consumed content.length position bytes.length⟩
    else none
  | .readRange offset dst len =>
    if u64Max < offset + len then none
    else if len = 0 then some ⟨[], none, (· = position)⟩
    else if dst = 0 ∨ content.length < offset + len then none
    else some ⟨(content.drop offset).take len, none, (· = position)⟩
  | .seek pos => some ⟨[], none, (· = pos)⟩
  | .tell => if slotGiven then some ⟨[], some position, (· = position)⟩ else none

/-- The calls for which bytes have to be fetched from storage. -/
def Fetches (content : List Byte) (position : Nat) : BlobCall → Prop
  | .read _ _ | .readUpTo _ _ => position < content.length
  | .readRange _ _ len => len ≠ 0
  | .seek _ | .tell => False

namespace BlobRecord

structure Refused (record : BlobRecord) : Prop where
  code : record.code = -1
  memory : record.memoryAfter = record.memory
  slot : record.slotAfter = record.slot

structure Performed (record : BlobRecord) (effect : Effect) : Prop where
  code : record.code = 0
  memory : record.memoryAfter = record.memory.write record.call.dst effect.written
  slot : record.slotAfter = effect.stored.elim record.slot fun value => record.slot.map fun _ => value

end BlobRecord

/-- A step of the reference file: what the contract demands, unless bytes have to be fetched and storage fails. -/
def FileStep (content : List Byte) (position : Nat) (record : BlobRecord) (after : Nat) : Prop :=
  match demand content position record.slot.isSome record.call, record.fetchError with
  | none, _ => record.Refused ∧ after = position
  | some effect, none => record.Performed effect ∧ effect.next after
  | some _, some _ => Fetches content position record.call ∧ record.Refused ∧ after = position

/-- What is known of Lance's handle: it reads the bytes from its cursor or of the given range, no more than it is
asked for and none beyond the end, and a call that fails leaves the cursor where it was. -/
structure BlobContract {σ : Type} (file : BlobFile σ) (content : List Byte) (cursor : σ → Nat) : Prop where
  size : ∀ blob, file.size blob = content.length
  tell : ∀ blob, (file.tell blob).1 = .ok (cursor blob) ∧ cursor (file.tell blob).2 = cursor blob
  seek : ∀ pos blob, (file.seek pos blob).1 = .ok () ∧ cursor (file.seek pos blob).2 = pos
  read : ∀ blob bytes, (file.read blob).1 = .ok bytes → bytes = content.drop (cursor blob) ∧
    Consumed content.length (cursor blob) bytes.length (cursor (file.read blob).2)
  readUpTo : ∀ len blob bytes, (file.readUpTo len blob).1 = .ok bytes →
    bytes = (content.drop (cursor blob)).take len ∧
    Consumed content.length (cursor blob) bytes.length (cursor (file.readUpTo len blob).2)
  readRange : ∀ start stop blob bytes, (file.readRange start stop blob).1 = .ok bytes →
    stop ≤ content.length ∧ bytes = (content.drop start).take (stop - start) ∧
      cursor (file.readRange start stop blob).2 = cursor blob
  exhausted : ∀ blob, content.length ≤ cursor blob →
    (∃ bytes, (file.read blob).1 = .ok bytes) ∧ ∀ len, ∃ bytes, (file.readUpTo len blob).1 = .ok bytes
  readFailed : ∀ blob error, (file.read blob).1 = .error error → cursor (file.read blob).2 = cursor blob
  readUpToFailed : ∀ len blob error, (file.readUpTo len blob).1 = .error error →
    cursor (file.readUpTo len blob).2 = cursor blob
  readRangeFailed : ∀ start stop blob error, (file.readRange start stop blob).1 = .error error →
    cursor (file.readRange start stop blob).2 = cursor blob

section Calls

variable {σ : Type} {file : BlobFile σ} {content : List Byte} {cursor : σ → Nat} {blob : σ} {memory : Memory}
variable {slot : Option Nat}

/-- The call, which may be under way, returns, and does what the reference file does where storage does this. -/
def Follows (content : List Byte) (cursor : σ → Nat) (call : BlobCall) (position : Nat) (memory : Memory)
    (slot : Option Nat) (fetchError : Option LanceError) (outcome : Unwind (Except LanceError Int) × CallState σ) :
    Prop :=
  ∃ result blob' memory' slot', outcome = (.returned result, ⟨some blob', memory', slot'⟩) ∧
    FileStep content position ⟨call, memory, slot, fetchError, neg (.returned result), memory', slot'⟩ (cursor blob')

theorem upstream_of_ok {α : Type} {call : σ → Except LanceError α × σ} {value : α}
    (returned : (call blob).1 = .ok value) :
    upstream call ⟨some blob, memory, slot⟩ = (.returned (.ok value), ⟨some (call blob).2, memory, slot⟩) := by
  simp [upstream, returned]

theorem upstream_of_error {α : Type} {call : σ → Except LanceError α × σ} {error : LanceError}
    (failed : (call blob).1 = .error error) :
    upstream call ⟨some blob, memory, slot⟩ = (.returned (.error error), ⟨some (call blob).2, memory, slot⟩) := by
  simp [upstream, failed]

theorem refuse_of_not {condition : Prop} [Decidable condition] {message : String} {state : CallState σ}
    (passes : ¬condition) : refuse condition message state = (.returned (.ok ()), state) := by
  simp [refuse, refuseIf, passes, Body.ofExcept, Body.ofUnwind]

theorem refuse_of {condition : Prop} [Decidable condition] {message : String} {state : CallState σ}
    (holds : condition) :
    refuse condition message state = (.returned (.error (.invalidInput message)), state) := by
  simp [refuse, refuseIf, holds, Body.ofExcept, Body.ofUnwind]

section Outcomes

variable {call : BlobCall} {position : Nat} {outcome : Unwind (Except LanceError Int) × CallState σ}
variable {fetchError : Option LanceError}

theorem Follows.after {next : Unwind (Except LanceError Int) × CallState σ} (same : outcome = next)
    (follows : Follows content cursor call position memory slot fetchError next) :
    Follows content cursor call position memory slot fetchError outcome := same ▸ follows

/-- An error is what the contract demands, or storage has failed. -/
theorem Follows.refused {error : LanceError} (failed : outcome = (.returned (.error error), ⟨some blob, memory, slot⟩))
    (kept : cursor blob = position)
    (allowed : demand content position slot.isSome call = none ∨
      Fetches content position call ∧ fetchError.isSome = true) :
    Follows content cursor call position memory slot fetchError outcome := by
  refine ⟨.error error, blob, memory, slot, failed, ?_⟩
  unfold FileStep
  cases demanded : demand content position slot.isSome call with
  | none => exact ⟨⟨rfl, rfl, rfl⟩, kept⟩
  | some effect =>
    rw [demanded] at allowed
    obtain ⟨fetches, given⟩ := allowed.resolve_left nofun
    obtain ⟨storage, rfl⟩ := Option.isSome_iff_exists.mp given
    exact ⟨fetches, ⟨rfl, rfl, rfl⟩, kept⟩

theorem Follows.performed {effect : Effect}
    (returned : outcome = (.returned (.ok 0), ⟨some blob, memory.write call.dst effect.written,
      effect.stored.elim slot fun value => slot.map fun _ => value⟩))
    (demanded : demand content position slot.isSome call = some effect) (fetched : fetchError = none)
    (next : effect.next (cursor blob)) :
    Follows content cursor call position memory slot fetchError outcome := by
  refine ⟨.ok 0, blob, _, _, returned, ?_⟩
  rw [FileStep, demanded, fetched]
  exact ⟨⟨rfl, rfl, rfl⟩, next⟩

end Outcomes

theorem copyFromSlice_of_length {dst len : Nat} {bytes : List Byte} (same : bytes.length = len) :
    copyFromSlice dst len bytes ⟨some blob, memory, slot⟩ =
      (.returned (.ok ()), ⟨some blob, memory.write dst bytes, slot⟩) :=
  if_pos same

/-- The bytes go to the start of the buffer; for none there is no slice. -/
theorem copy_then {α : Type} {dst : Nat} {bytes : List Byte} {next : Unit → Accessor σ α} :
    (if (!bytes.isEmpty) = true then copyFromSlice dst bytes.length bytes >>= next else next ())
        ⟨some blob, memory, slot⟩ = next () ⟨some blob, memory.write dst bytes, slot⟩ := by
  cases bytes with
  | nil =>
    rw [Memory.write_nil]
    rfl
  | cons first rest =>
    change (copyFromSlice dst _ _ >>= next) _ = _
    exact Body.bind_of_ok (copyFromSlice_of_length rfl)

variable (file content cursor blob memory slot) in
/-- From a live handle, the call does what the reference file does. -/
def Refines (call : BlobCall) : Prop :=
  Follows content cursor call (cursor blob) memory slot (call.fetchError file blob)
    (call.inner file ⟨some blob, memory, slot⟩)

variable (contract : BlobContract file content cursor)
include contract

theorem seek_refines (pos : Nat) : Refines file content cursor blob memory slot (.seek pos) := by
  obtain ⟨moved, there⟩ := contract.seek pos blob
  exact .performed (Body.bind_of_ok (upstream_of_ok moved)) rfl rfl there

theorem tell_refines : Refines file content cursor blob memory slot .tell := by
  obtain ⟨told, there⟩ := contract.tell blob
  cases slot with
  | none => exact .refused rfl rfl (.inl rfl)
  | some value => exact .performed (Body.bind_of_ok (upstream_of_ok told)) rfl rfl there

theorem read_refines (dst dstLen : Nat) : Refines file content cursor blob memory slot (.read dst dstLen) := by
  obtain ⟨told, kept⟩ := contract.tell blob
  have rest : (content.drop (cursor blob)).length = file.size blob - cursor blob := by
    rw [List.length_drop, contract.size]
  refine .after (Body.bind_of_ok rfl) ?_
  refine .after (Body.bind_of_ok (upstream_of_ok told)) ?_
  by_cases small : dstLen < file.size blob - cursor blob
  · refine .refused (Body.bind_of_error (refuse_of small)) kept (.inl ?_)
    rw [demand, if_neg (by omega)]
  refine .after (Body.bind_of_ok (refuse_of_not small)) ?_
  by_cases missing : dst = 0 ∧ file.size blob - cursor blob > 0
  · refine .refused (Body.bind_of_error (refuse_of missing)) kept (.inl ?_)
    rw [demand, if_neg (by omega)]
  refine .after (Body.bind_of_ok (refuse_of_not missing)) ?_
  cases fetched : (file.read (file.tell blob).2).1 with
  | error error =>
    refine .refused (Body.bind_of_error (upstream_of_error fetched)) ((contract.readFailed _ _ fetched).trans kept)
      (.inr ⟨Nat.lt_of_not_le fun beyond => ?_, by simp only [BlobCall.fetchError, fetched, errorOf, Option.isSome]⟩)
    obtain ⟨⟨bytes, read⟩, _⟩ := contract.exhausted (file.tell blob).2 (kept ▸ beyond)
    cases fetched.symm.trans read
  | ok bytes =>
    obtain ⟨rfl, consumed⟩ := contract.read _ _ fetched
    have answered : BlobCall.fetchError file blob (.read dst dstLen) = none := by
      simp only [BlobCall.fetchError, fetched, errorOf]
    rw [kept] at consumed fetched
    have demanded : demand content (cursor blob) slot.isSome (.read dst dstLen) =
        some ⟨content.drop (cursor blob), none, Consumed content.length (cursor blob) _⟩ := if_pos (by omega)
    exact .performed ((Body.bind_of_ok (upstream_of_ok fetched)).trans copy_then) demanded answered consumed

theorem readUpTo_refines (dst len : Nat) : Refines file content cursor blob memory slot (.readUpTo dst len) := by
  refine .after (Body.bind_of_ok rfl) ?_
  refine .after (Body.bind_of_ok rfl) ?_
  cases slot with
  | none => exact .refused (Body.bind_of_error (refuse_of rfl)) rfl (.inl (by simp [demand]))
  | some value =>
    refine .after (Body.bind_of_ok (refuse_of_not (by simp))) ?_
    by_cases missing : dst = 0 ∧ len > 0
    · refine .refused (Body.bind_of_error (refuse_of missing)) rfl (.inl (if_neg ?_))
      simp
      omega
    refine .after (Body.bind_of_ok (refuse_of_not missing)) ?_
    cases fetched : (file.readUpTo len blob).1 with
    | error error =>
      refine .refused (Body.bind_of_error (upstream_of_error fetched)) (contract.readUpToFailed _ _ _ fetched)
        (.inr ⟨Nat.lt_of_not_le fun beyond => ?_, by simp only [BlobCall.fetchError, fetched, errorOf, Option.isSome]⟩)
      obtain ⟨bytes, read⟩ := (contract.exhausted blob beyond).2 len
      cases fetched.symm.trans read
    | ok bytes =>
      obtain ⟨rfl, consumed⟩ := contract.readUpTo _ _ _ fetched
      have demanded : demand content (cursor blob) true (.readUpTo dst len) =
          some ⟨(content.drop (cursor blob)).take len, some _, Consumed content.length (cursor blob) _⟩ :=
        if_pos ⟨rfl, by omega⟩
      have answered : BlobCall.fetchError file blob (.readUpTo dst len) = none := by
        simp only [BlobCall.fetchError, fetched, errorOf]
      exact .performed ((Body.bind_of_ok (upstream_of_ok fetched)).trans copy_then) demanded answered consumed

theorem readRange_refines (offset dst len : Nat) :
    Refines file content cursor blob memory slot (.readRange offset dst len) := by
  refine .after (Body.bind_of_ok rfl) ?_
  cases sum : checkedAddU64 offset len with
  | none =>
    have overflows : u64Max < offset + len := by
      by_contra fits
      cases sum.symm.trans (checkedAddU64_eq_some.mpr ⟨rfl, Nat.not_lt.mp fits⟩)
    exact .refused rfl rfl (.inl (if_pos overflows))
  | some stop =>
    obtain ⟨rfl, fits⟩ := checkedAddU64_eq_some.mp sum
    have reduced : demand content (cursor blob) slot.isSome (.readRange offset dst len) = _ :=
      if_neg (Nat.not_lt.mpr fits)
    by_cases empty : len = 0
    · subst empty
      refine .performed ?_ (reduced.trans (if_pos rfl)) (by simp only [BlobCall.fetchError, sum, ↓reduceIte]) rfl
      rw [Memory.write_nil]
      rfl
    have reduced := reduced.trans (if_neg empty)
    refine .after (congrFun (if_neg empty) _) ?_
    by_cases missing : dst = 0
    · exact .refused (Body.bind_of_error (refuse_of missing)) rfl (.inl (reduced.trans (if_pos (.inl missing))))
    refine .after (Body.bind_of_ok (refuse_of_not missing)) ?_
    cases fetched : (file.readRange offset (offset + len) blob).1 with
    | error error =>
      exact .refused (Body.bind_of_error (upstream_of_error fetched)) (contract.readRangeFailed _ _ _ _ fetched)
        (.inr ⟨empty, by simp only [BlobCall.fetchError, sum, empty, ↓reduceIte, fetched, errorOf, Option.isSome]⟩)
    | ok bytes =>
      obtain ⟨inside, rfl, kept⟩ := contract.readRange _ _ _ _ fetched
      have answered : BlobCall.fetchError file blob (.readRange offset dst len) = none := by
        simp only [BlobCall.fetchError, sum, empty, ↓reduceIte, fetched, errorOf]
      rw [Nat.add_sub_cancel_left] at fetched
      have whole : ((content.drop offset).take len).length = len := by
        rw [List.length_take, List.length_drop]
        omega
      have within : ¬(dst = 0 ∨ content.length < offset + len) := by omega
      exact .performed ((Body.bind_of_ok (upstream_of_ok fetched)).trans
        (Body.bind_of_ok (copyFromSlice_of_length whole))) (reduced.trans (if_neg within)) answered kept

theorem call_refines (call : BlobCall) : Refines file content cursor blob memory slot call := by
  cases call with
  | read dst dstLen => exact read_refines contract dst dstLen
  | readUpTo dst len => exact readUpTo_refines contract dst len
  | readRange offset dst len => exact readRange_refines contract offset dst len
  | seek pos => exact seek_refines contract pos
  | tell => exact tell_refines contract

end Calls

section Reference

variable {content : List Byte} {position after : Nat} {record : BlobRecord}

/-- What the contract promises of a call in particular. -/
structure CallFacts (content : List Byte) (position : Nat) (record : BlobRecord) (after : Nat) : Prop where
  confined : ∀ address, ¬Memory.InBuffer record.call.dst record.call.capacity address →
    record.memoryAfter address = record.memory address
  readExhausted : ∀ dst dstLen, record.call = .read dst dstLen → content.length ≤ position →
    record.code = 0 ∧ record.memoryAfter = record.memory
  readUpToExhausted : ∀ dst len, record.call = .readUpTo dst len → record.slot.isSome = true →
    (dst = 0 → len = 0) →
    content.length ≤ position → record.code = 0 ∧ record.memoryAfter = record.memory ∧ record.slotAfter = some 0
  rangeRefused : ∀ offset dst len, record.call = .readRange offset dst len → len ≠ 0 →
    u64Max < offset + len ∨ content.length < offset + len → record.code = -1
  rangeKeeps : ∀ offset dst len, record.call = .readRange offset dst len → after = position
  failed : record.code ≠ 0 → after = position ∧ record.memoryAfter = record.memory ∧ record.slotAfter = record.slot

/-- A call that succeeds had an effect that the contract demands; any other leaves everything alone. -/
theorem fileStep_cases (step : FileStep content position record after) :
    (∃ effect, demand content position record.slot.isSome record.call = some effect ∧ record.Performed effect ∧
      effect.next after) ∨ record.Refused ∧ after = position ∧
        (demand content position record.slot.isSome record.call = none ∨
          Fetches content position record.call ∧ record.fetchError.isSome = true) := by
  unfold FileStep at step
  split at step
  · next demanded => exact .inr ⟨step.1, step.2, .inl demanded⟩
  · next effect demanded _ => exact .inl ⟨effect, demanded, step.1, step.2⟩
  · next failed => exact .inr ⟨step.2.1, step.2.2, .inr ⟨step.1, by rw [failed]; rfl⟩⟩

section Demands

variable {slotGiven : Bool} {call : BlobCall} {effect : Effect} {dst len offset : Nat}

/-- The bytes of an effect fit into the buffer, and there are none for a NULL one. -/
theorem written_fits (demanded : demand content position slotGiven call = some effect) :
    effect.written.length ≤ call.capacity ∧ (effect.written ≠ [] → call.dst ≠ 0) := by
  cases call with
  | read dst dstLen =>
    obtain ⟨⟨fits, null⟩, same⟩ := Option.ite_none_right_eq_some.mp demanded
    obtain rfl := Option.some.inj same
    exact ⟨fits, fun nonempty missing => nonempty (List.eq_nil_of_length_eq_zero (null missing))⟩
  | readUpTo dst len =>
    obtain ⟨⟨_, null⟩, same⟩ := Option.ite_none_right_eq_some.mp demanded
    obtain rfl := Option.some.inj same
    refine ⟨List.length_take_le _ _, fun nonempty missing => nonempty ?_⟩
    rw [null missing, List.take_zero]
  | readRange offset dst len =>
    obtain ⟨_, demanded⟩ := Option.ite_none_left_eq_some.mp demanded
    split at demanded
    · obtain rfl := Option.some.inj demanded
      exact ⟨Nat.zero_le _, fun nonempty => absurd rfl nonempty⟩
    · obtain ⟨allowed, same⟩ := Option.ite_none_left_eq_some.mp demanded
      obtain rfl := Option.some.inj same
      exact ⟨List.length_take_le _ _, fun _ missing => allowed (.inl missing)⟩
  | seek pos =>
    obtain rfl := Option.some.inj demanded
    exact ⟨Nat.zero_le _, fun nonempty => absurd rfl nonempty⟩
  | tell =>
    obtain ⟨_, same⟩ := Option.ite_none_right_eq_some.mp demanded
    obtain rfl := Option.some.inj same
    exact ⟨Nat.zero_le _, fun nonempty => absurd rfl nonempty⟩

/-- At or past the end there is nothing to read. -/
theorem demand_read_exhausted (beyond : content.length ≤ position) {dstLen : Nat} :
    demand content position slotGiven (.read dst dstLen) =
      some ⟨[], none, Consumed content.length position 0⟩ := by
  simp [demand, List.drop_of_length_le beyond]

theorem demand_readUpTo_exhausted (beyond : content.length ≤ position) (null : dst = 0 → len = 0) :
    demand content position true (.readUpTo dst len) =
      some ⟨[], some 0, Consumed content.length position 0⟩ := by
  simpa [demand, List.drop_of_length_le beyond] using null

theorem demand_readRange_beyond (nonempty : len ≠ 0) (beyond : u64Max < offset + len ∨ content.length < offset + len) :
    demand content position slotGiven (.readRange offset dst len) = none := by
  rcases beyond with overflows | passes
  · exact if_pos overflows
  · simp [demand, nonempty, passes]

theorem next_readRange (demanded : demand content position slotGiven (.readRange offset dst len) = some effect) :
    effect.next = (· = position) := by
  obtain ⟨_, demanded⟩ := Option.ite_none_left_eq_some.mp demanded
  split at demanded
  · obtain rfl := Option.some.inj demanded
    rfl
  · obtain ⟨_, same⟩ := Option.ite_none_left_eq_some.mp demanded
    obtain rfl := Option.some.inj same
    rfl

end Demands

/-- Where nothing has to be fetched, an effect that is demanded takes place. -/
theorem performed_of_demand {effect : Effect} (step : FileStep content position record after)
    (demanded : demand content position record.slot.isSome record.call = some effect)
    (ready : ¬Fetches content position record.call) : record.Performed effect := by
  rcases fileStep_cases step with ⟨other, same, performed, _⟩ | ⟨_, _, none | ⟨fetches, _⟩⟩
  · rwa [Option.some.inj (demanded.symm.trans same)]
  · cases demanded.symm.trans none
  · exact absurd fetches ready

theorem callFacts_of_fileStep (step : FileStep content position record after) :
    CallFacts content position record after := by
  refine ⟨fun address outside => ?_, fun dst dstLen called beyond => ?_, fun dst len called given null beyond => ?_,
    fun offset dst len called nonempty beyond => ?_, fun offset dst len called => ?_, fun code => ?_⟩
  · rcases fileStep_cases step with ⟨effect, demanded, performed, _⟩ | ⟨refused, _⟩
    · obtain ⟨fits, given⟩ := written_fits demanded
      rw [performed.memory, Memory.write_outside given fits outside]
    · rw [refused.memory]
  · have performed := performed_of_demand step (called ▸ demand_read_exhausted beyond)
      (called ▸ Nat.not_lt.mpr beyond)
    exact ⟨performed.code, performed.memory.trans Memory.write_nil⟩
  · obtain ⟨value, filled⟩ := Option.isSome_iff_exists.mp given
    have performed := performed_of_demand step (given ▸ called ▸ demand_readUpTo_exhausted beyond null)
      (called ▸ Nat.not_lt.mpr beyond)
    refine ⟨performed.code, performed.memory.trans Memory.write_nil, performed.slot.trans ?_⟩
    rw [filled]
    rfl
  · rcases fileStep_cases step with ⟨effect, demanded, _⟩ | ⟨refused, _⟩
    · rw [called, demand_readRange_beyond nonempty beyond] at demanded
      cases demanded
    · exact refused.code
  · rcases fileStep_cases step with ⟨effect, demanded, _, next⟩ | ⟨_, same, _⟩
    · rw [called] at demanded
      rwa [next_readRange demanded] at next
    · exact same
  · rcases fileStep_cases step with ⟨effect, _, performed, _⟩ | ⟨refused, same, _⟩
    · exact absurd performed.code code
    · exact ⟨same, refused.memory, refused.slot⟩

end Reference

section Refinement

variable {σ : Type} {file : BlobFile σ} {content : List Byte} {cursor : σ → Nat}

/-- What the caller decides of a call: its arguments, its memory and its slot. -/
def BlobRecord.request (record : BlobRecord) : BlobCall × Memory × Option Nat :=
  (record.call, record.memory, record.slot)

theorem fileStep_of_blobStep (contract : BlobContract file content cursor) {blob blob' : σ} {record : BlobRecord}
    (step : BlobStep file blob record blob') : FileStep content (cursor blob) record (cursor blob') := by
  obtain ⟨call, memory, slot, fetchError, code, memoryAfter, slotAfter⟩ := record
  obtain ⟨result, returned, storage, rfl⟩ := step
  obtain rfl : fetchError = call.fetchError file blob := storage
  obtain ⟨other, reached, _, _, same, followed⟩ := @call_refines _ _ _ _ blob memory slot contract call
  obtain ⟨sameResult, sameState⟩ := Prod.mk.inj (returned.symm.trans same)
  obtain rfl := Unwind.returned.inj sameResult
  obtain ⟨sameBlob, rfl, rfl⟩ := CallState.mk.inj sameState
  obtain rfl := Option.some.inj sameBlob
  exact followed

theorem exists_blobStep (contract : BlobContract file content cursor) (blob : σ)
    (request : BlobCall × Memory × Option Nat) :
    ∃ record blob', record.request = request ∧ BlobStep file blob record blob' := by
  obtain ⟨call, memory, slot⟩ := request
  obtain ⟨result, blob', memory', slot', returned, _⟩ := @call_refines _ _ _ _ blob memory slot contract call
  exact ⟨⟨call, memory, slot, call.fetchError file blob, neg (.returned result), memory', slot'⟩, blob', rfl, result,
    returned, rfl, rfl⟩

/-- Every sequence of calls on a handle returns, and it is a run of the reference file on the same cursor. -/
theorem blobFile_refines (contract : BlobContract file content cursor) (blob : σ) :
    (∀ requests, ∃ records blob', records.map BlobRecord.request = requests ∧
      Run (BlobStep file) blob records blob') ∧
    ∀ records blob', Run (BlobStep file) blob records blob' →
      Run (fun position record after => FileStep content position record after ∧ CallFacts content position record after)
        (cursor blob) records (cursor blob') := by
  refine ⟨Run.exists_of_total BlobRecord.request (exists_blobStep contract) blob, fun records blob' run => ?_⟩
  refine run.simulate cursor fun step => ?_
  have followed := fileStep_of_blobStep contract step
  exact ⟨followed, callFacts_of_fileStep followed⟩

end Refinement

section Sample

/-- A blob in memory, which is its cursor. -/
def memoryBlob (content : List Byte) : BlobFile Nat where
  size _ := content.length
  tell cursor := (.ok cursor, cursor)
  seek pos _ := (.ok (), pos)
  read cursor := (.ok (content.drop cursor), cursor + (content.drop cursor).length)
  readUpTo len cursor := (.ok ((content.drop cursor).take len), cursor + ((content.drop cursor).take len).length)
  readRange start stop cursor :=
    if stop ≤ content.length then (.ok ((content.drop start).take (stop - start)), cursor)
    else (.error (.invalidInput s!"range end {stop} exceeds blob size {content.length}"), cursor)

theorem memoryBlob_contract (content : List Byte) : BlobContract (memoryBlob content) content id where
  size _ := rfl
  tell _ := ⟨rfl, rfl⟩
  seek _ _ := ⟨rfl, rfl⟩
  read blob bytes fetched := by
    obtain rfl := Except.ok.inj fetched
    exact ⟨rfl, .inl rfl⟩
  readUpTo len blob bytes fetched := by
    obtain rfl := Except.ok.inj fetched
    exact ⟨rfl, .inl rfl⟩
  readRange start stop blob bytes fetched := by
    unfold memoryBlob at fetched ⊢
    dsimp only at fetched ⊢
    split at fetched
    · next inside =>
      obtain rfl := Except.ok.inj fetched
      exact ⟨inside, rfl, by rw [if_pos inside]⟩
    · cases fetched
  exhausted _ _ := ⟨⟨_, rfl⟩, fun _ => ⟨_, rfl⟩⟩
  readFailed _ _ failed := by cases failed
  readUpToFailed _ _ _ failed := by cases failed
  readRangeFailed start stop blob error failed := by
    unfold memoryBlob
    dsimp only
    split <;> rfl

/-- A buffer that is too small, two that hold what is read, and calls beyond the end. -/
def sampleRecords : List BlobRecord :=
  let zero : Memory := fun _ => 0
  [⟨.read 16 3, zero, none, none, -1, zero, none⟩,
    ⟨.readUpTo 16 3, zero, some 7, none, 0, zero.write 16 [1, 2, 3], some 3⟩,
    ⟨.read 16 1, zero, none, none, 0, zero.write 16 [4], none⟩,
    ⟨.seek 6, zero, none, none, 0, zero, none⟩,
    ⟨.read 0 0, zero, none, none, 0, zero, none⟩,
    ⟨.readRange u64Max 16 2, zero, none, none, -1, zero, none⟩]

theorem blobFile_refines_sample :
    sampleRecords.map BlobRecord.code = [-1, 0, 0, 0, 0, -1] ∧
      Run (fun position record after =>
        FileStep [1, 2, 3, 4] position record after ∧ CallFacts [1, 2, 3, 4] position record after)
        0 sampleRecords 6 := by
  have small : Run (BlobStep (memoryBlob [1, 2, 3, 4])) 0 (sampleRecords.take 1) 0 :=
    .single ⟨_, rfl, rfl, rfl⟩
  have part : Run (BlobStep (memoryBlob [1, 2, 3, 4])) 0 (sampleRecords.take 2) 3 :=
    small.append (.single ⟨_, rfl, rfl, rfl⟩)
  have rest : Run (BlobStep (memoryBlob [1, 2, 3, 4])) 0 (sampleRecords.take 3) 4 :=
    part.append (.single ⟨_, rfl, rfl, rfl⟩)
  have beyond : Run (BlobStep (memoryBlob [1, 2, 3, 4])) 0 (sampleRecords.take 4) 6 :=
    rest.append (.single ⟨_, rfl, rfl, rfl⟩)
  have nothing : Run (BlobStep (memoryBlob [1, 2, 3, 4])) 0 (sampleRecords.take 5) 6 :=
    beyond.append (.single ⟨_, rfl, rfl, rfl⟩)
  exact ⟨rfl, (blobFile_refines (memoryBlob_contract [1, 2, 3, 4]) 0).2 sampleRecords 6
    (nothing.append (.single ⟨_, rfl, rfl, rfl⟩))⟩

end Sample

end LanceC.Blob
