import LanceC.Logic.Transition
import Mathlib.Data.List.Nodup

/-! Linearizability of an object behind a reader-writer lock, whose writers copy it, work on
the copy and store that. -/

namespace LanceC.Logic

universe u

variable {Id Op Answer Value : Type u}

/-- What an operation does with the object. -/
inductive Access (Value Answer : Type u) where
  | refuse (answer : Answer)
  | read (look : Value → Answer)
  | write (work : Value → Answer × Value)

/-- The operation alone. -/
def Access.apply : Access Value Answer → Value → Answer × Value
  | refuse answer, value => (answer, value)
  | read look, value => (look value, value)
  | write work, value => work value

/-- What a caller sees of an operation. -/
inductive CallEvent (Id Op Answer : Type u) where
  | invoke (id : Id) (op : Op)
  | respond (id : Id) (answer : Answer)

structure Entry (Id Op Answer : Type u) where
  id : Id
  op : Op
  answer : Answer

/-- The operations one after another. -/
inductive Sequential (apply : Op → Value → Answer × Value) : Value → List (Entry Id Op Answer) → Value → Prop where
  | nil (value : Value) : Sequential apply value [] value
  | snoc {first middle last : Value} {entries : List (Entry Id Op Answer)} {id : Id} {op : Op} {answer : Answer}
      (before : Sequential apply first entries middle) (applied : apply op middle = (answer, last)) :
      Sequential apply first (entries ++ [⟨id, op, answer⟩]) last

/-- A sequential order explains a history: every answer is the one given in that order, which
keeps apart what the history does. -/
structure Linearizes (apply : Op → Value → Answer × Value) (first : Value) (history : List (CallEvent Id Op Answer))
    (order : List (Entry Id Op Answer)) (last : Value) : Prop where
  once : (order.map Entry.id).Nodup
  legal : Sequential apply first order last
  invoked : ∀ entry ∈ order, .invoke entry.id entry.op ∈ history
  answered : ∀ id answer, .respond id answer ∈ history → ∃ op, ⟨id, op, answer⟩ ∈ order
  realTime : ∀ earlier answer later op, [.respond earlier answer, .invoke later op].Sublist history →
    later ∈ order.map Entry.id → [earlier, later].Sublist (order.map Entry.id)

theorem pair_sublist_snoc {α : Type*} {items : List α} {first second last : α} :
    [first, second].Sublist (items ++ [last]) ↔ [first, second].Sublist items ∨ first ∈ items ∧ second = last := by
  rw [List.sublist_append_iff]
  constructor
  · rintro ⟨left, right, same, inside, tail⟩
    rcases List.sublist_cons_iff.mp tail with empty | ⟨rest, rfl, none⟩
    · cases List.sublist_nil.mp empty
      rw [List.append_nil] at same
      exact .inl (same ▸ inside)
    · cases List.sublist_nil.mp none
      have split : [first] ++ [second] = left ++ [last] := same
      obtain ⟨rfl, last⟩ := List.append_inj' split rfl
      cases last
      exact .inr ⟨List.singleton_sublist.mp inside, rfl⟩
  · rintro (inside | ⟨member, rfl⟩)
    · exact ⟨[first, second], [], by simp, inside, List.nil_sublist _⟩
    · exact ⟨[first], [second], rfl, List.singleton_sublist.mpr member, List.Sublist.refl _⟩

namespace Linearizes

variable {apply : Op → Value → Answer × Value} {first last next : Value} {history : List (CallEvent Id Op Answer)}
  {order : List (Entry Id Op Answer)} {id : Id} {op : Op} {answer : Answer}

theorem empty (value : Value) : Linearizes apply value ([] : List (CallEvent Id Op Answer)) [] value where
  once := List.nodup_nil
  legal := .nil value
  invoked := List.forall_mem_nil _
  answered _ _ member := by cases member
  realTime _ _ _ _ _ member := by cases member

theorem invoke (holds : Linearizes apply first history order last) (fresh : ∀ op, .invoke id op ∉ history) :
    Linearizes apply first (history ++ [.invoke id op]) order last where
  once := holds.once
  legal := holds.legal
  invoked entry member := List.mem_append_left _ (holds.invoked entry member)
  answered other given member := by
    rcases List.mem_append.mp member with old | new
    · exact holds.answered other given old
    · cases List.mem_singleton.mp new
  realTime earlier given later asked before member := by
    rcases pair_sublist_snoc.mp before with old | ⟨_, same⟩
    · exact holds.realTime earlier given later asked old member
    · cases same
      obtain ⟨entry, inside, rfl⟩ := List.mem_map.mp member
      exact absurd (holds.invoked entry inside) (fresh entry.op)

theorem respond (holds : Linearizes apply first history order last) (done : ∃ op, ⟨id, op, answer⟩ ∈ order) :
    Linearizes apply first (history ++ [.respond id answer]) order last where
  once := holds.once
  legal := holds.legal
  invoked entry member := List.mem_append_left _ (holds.invoked entry member)
  answered other given member := by
    rcases List.mem_append.mp member with old | new
    · exact holds.answered other given old
    · cases List.mem_singleton.mp new
      exact done
  realTime earlier given later asked before member := by
    rcases pair_sublist_snoc.mp before with old | ⟨_, same⟩
    · exact holds.realTime earlier given later asked old member
    · cases same

/-- An operation takes effect between its invocation and its answer. -/
theorem commit (holds : Linearizes apply first history order last) (invoked : .invoke id op ∈ history)
    (pending : id ∉ order.map Entry.id) (applied : apply op last = (answer, next)) :
    Linearizes apply first history (order ++ [⟨id, op, answer⟩]) next where
  once := by
    rw [List.map_append, List.map_singleton, List.nodup_append]
    refine ⟨holds.once, List.nodup_singleton _, fun other member another new same => ?_⟩
    rw [same, List.mem_singleton.mp new] at member
    exact pending member
  legal := .snoc holds.legal applied
  invoked entry member := by
    rcases List.mem_append.mp member with old | new
    · exact holds.invoked entry old
    · cases List.mem_singleton.mp new
      exact invoked
  answered other given member := by
    obtain ⟨asked, inside⟩ := holds.answered other given member
    exact ⟨asked, List.mem_append_left _ inside⟩
  realTime earlier given later asked before member := by
    rw [List.map_append, List.map_singleton] at member ⊢
    rcases List.mem_append.mp member with old | new
    · exact (holds.realTime earlier given later asked before old).trans (List.sublist_append_left _ _)
    · have responded : .respond earlier given ∈ history := before.subset List.mem_cons_self
      obtain ⟨done, inside⟩ := holds.answered earlier given responded
      exact pair_sublist_snoc.mpr (.inr ⟨List.mem_map_of_mem inside, List.mem_singleton.mp new⟩)

end Linearizes

/-- Where an operation has got to; the four phases from `exclusive` to `stored` hold the lock as a
writer, `shared` holds it as a reader. -/
inductive Phase (Op Answer Value : Type u) where
  | idle
  | invoked (op : Op)
  | shared (op : Op)
  | exclusive (op : Op)
  | copied (op : Op) (copy : Value)
  | worked (op : Op) (answer : Answer) (next : Value)
  | stored (answer : Answer)
  | answered (answer : Answer)
  | finished

namespace Phase

def IsShared : Phase Op Answer Value → Prop
  | shared _ => True
  | _ => False

def IsExclusive : Phase Op Answer Value → Prop
  | exclusive _ | copied _ _ | worked _ _ _ | stored _ => True
  | _ => False

/-- The operation that has not taken effect yet. -/
def pending : Phase Op Answer Value → Option Op
  | invoked op | shared op | exclusive op | copied op _ | worked op _ _ => some op
  | _ => none

/-- The answer of one that has. -/
def answer : Phase Op Answer Value → Option Answer
  | stored answer | answered answer => some answer
  | _ => none

end Phase

structure LockedObject (Id Op Answer Value : Type u) where
  value : Value
  phase : Id → Phase Op Answer Value

namespace LockedObject

def fresh (value : Value) : LockedObject Id Op Answer Value := ⟨value, fun _ => .idle⟩

variable [DecidableEq Id]

def move (object : LockedObject Id Op Answer Value) (id : Id) (phase : Phase Op Answer Value) :
    LockedObject Id Op Answer Value :=
  { object with phase := Function.update object.phase id phase }

end LockedObject

/-- A step shows its callers an event, gives an operation its effect, or neither. -/
inductive LockLabel (Id Op Answer : Type u) where
  | event (event : CallEvent Id Op Answer)
  | commit (entry : Entry Id Op Answer)
  | internal

def LockLabel.event? : LockLabel Id Op Answer → Option (CallEvent Id Op Answer)
  | event seen => some seen
  | _ => none

def LockLabel.entry? : LockLabel Id Op Answer → Option (Entry Id Op Answer)
  | commit effect => some effect
  | _ => none

/-- One step of one operation. The lock is free for a reader where no writer holds it, and for a
writer where nobody does. -/
inductive LockStep [DecidableEq Id] (access : Op → Access Value Answer) :
    LockedObject Id Op Answer Value → LockLabel Id Op Answer → LockedObject Id Op Answer Value → Prop where
  | invoke {object : LockedObject Id Op Answer Value} {id : Id} {op : Op} (idle : object.phase id = .idle) :
      LockStep access object (.event (.invoke id op)) (object.move id (.invoked op))
  | refuse {object : LockedObject Id Op Answer Value} {id : Id} {op : Op} {answer : Answer}
      (here : object.phase id = .invoked op) (refused : access op = .refuse answer) :
      LockStep access object (.commit ⟨id, op, answer⟩) (object.move id (.answered answer))
  | share {object : LockedObject Id Op Answer Value} {id : Id} {op : Op} {look : Value → Answer}
      (here : object.phase id = .invoked op) (reads : access op = .read look)
      (free : ∀ other, ¬(object.phase other).IsExclusive) :
      LockStep access object .internal (object.move id (.shared op))
  | look {object : LockedObject Id Op Answer Value} {id : Id} {op : Op} {look : Value → Answer}
      (here : object.phase id = .shared op) (reads : access op = .read look) :
      LockStep access object (.commit ⟨id, op, look object.value⟩) (object.move id (.answered (look object.value)))
  | lock {object : LockedObject Id Op Answer Value} {id : Id} {op : Op} {work : Value → Answer × Value}
      (here : object.phase id = .invoked op) (writes : access op = .write work)
      (free : ∀ other, ¬(object.phase other).IsExclusive ∧ ¬(object.phase other).IsShared) :
      LockStep access object .internal (object.move id (.exclusive op))
  | copy {object : LockedObject Id Op Answer Value} {id : Id} {op : Op} (here : object.phase id = .exclusive op) :
      LockStep access object .internal (object.move id (.copied op object.value))
  | work {object : LockedObject Id Op Answer Value} {id : Id} {op : Op} {copy next : Value} {answer : Answer}
      {work : Value → Answer × Value} (here : object.phase id = .copied op copy) (writes : access op = .write work)
      (worked : work copy = (answer, next)) : LockStep access object .internal (object.move id (.worked op answer next))
  | store {object : LockedObject Id Op Answer Value} {id : Id} {op : Op} {answer : Answer} {next : Value}
      (here : object.phase id = .worked op answer next) :
      LockStep access object (.commit ⟨id, op, answer⟩) { object.move id (.stored answer) with value := next }
  | release {object : LockedObject Id Op Answer Value} {id : Id} {answer : Answer}
      (here : object.phase id = .stored answer) :
      LockStep access object .internal (object.move id (.answered answer))
  | respond {object : LockedObject Id Op Answer Value} {id : Id} {answer : Answer}
      (here : object.phase id = .answered answer) :
      LockStep access object (.event (.respond id answer)) (object.move id .finished)

/-- What the phase of an operation says about the past and the object. -/
structure PhaseSound (access : Op → Access Value Answer) (value : Value) (history : List (CallEvent Id Op Answer))
    (order : List (Entry Id Op Answer)) (id : Id) (phase : Phase Op Answer Value) : Prop where
  idle : phase = .idle → ∀ op, .invoke id op ∉ history
  pending : ∀ op, phase.pending = some op → .invoke id op ∈ history ∧ id ∉ order.map Entry.id
  answered : ∀ answer, phase.answer = some answer → ∃ op, ⟨id, op, answer⟩ ∈ order
  copied : ∀ op copy, phase = .copied op copy → copy = value
  worked : ∀ op answer next, phase = .worked op answer next → (access op).apply value = (answer, next)

/-- A writer is alone. -/
structure Exclusion (phase : Id → Phase Op Answer Value) : Prop where
  alone : ∀ id other, (phase id).IsExclusive → (phase other).IsExclusive → id = other
  unshared : ∀ id other, (phase id).IsExclusive → ¬(phase other).IsShared

structure LockInvariant (access : Op → Access Value Answer) (first : Value) (object : LockedObject Id Op Answer Value)
    (history : List (CallEvent Id Op Answer)) (order : List (Entry Id Op Answer)) : Prop where
  linearizes : Linearizes (fun op => (access op).apply) first history order object.value
  sound : ∀ id, PhaseSound access object.value history order id (object.phase id)
  exclusion : Exclusion object.phase

section Steps

variable {access : Op → Access Value Answer} {first value : Value} {history later : List (CallEvent Id Op Answer)}
  {order more : List (Entry Id Op Answer)} {id : Id} {phase : Phase Op Answer Value}
  {object next : LockedObject Id Op Answer Value} {label : LockLabel Id Op Answer}

namespace PhaseSound

/-- What other operations do leaves an operation's phase sound. -/
theorem grow (sound : PhaseSound access value history order id phase) (silent : ∀ op, .invoke id op ∉ later)
    (absent : id ∉ more.map Entry.id) : PhaseSound access value (history ++ later) (order ++ more) id phase where
  idle same op member := by
    rcases List.mem_append.mp member with old | new
    · exact sound.idle same op old
    · exact silent op new
  pending op same := by
    obtain ⟨invoked, pending⟩ := sound.pending op same
    refine ⟨List.mem_append_left _ invoked, fun member => ?_⟩
    rw [List.map_append] at member
    exact (List.mem_append.mp member).elim pending absent
  answered answer same := by
    obtain ⟨op, member⟩ := sound.answered answer same
    exact ⟨op, List.mem_append_left _ member⟩
  copied := sound.copied
  worked := sound.worked

/-- Only a writer depends on the value. -/
theorem revalue (sound : PhaseSound access value history order id phase) (free : ¬phase.IsExclusive)
    (other : Value) : PhaseSound access other history order id phase where
  idle := sound.idle
  pending := sound.pending
  answered := sound.answered
  copied op copy same := by
    rw [same] at free
    exact absurd trivial free
  worked op answer next same := by
    rw [same] at free
    exact absurd trivial free

/-- The phase of an operation that has not taken effect; what it works on is up to date. -/
theorem ofPending {op : Op} (given : phase.pending = some op) (invoked : .invoke id op ∈ history)
    (pending : id ∉ order.map Entry.id) (copied : ∀ op copy, phase = .copied op copy → copy = value)
    (worked : ∀ op answer next, phase = .worked op answer next → (access op).apply value = (answer, next)) :
    PhaseSound access value history order id phase where
  idle same := by
    rw [same] at given
    cases given
  pending other same := by
    cases given.symm.trans same
    exact ⟨invoked, pending⟩
  answered answer same := by
    cases phase <;> simp_all [Phase.pending, Phase.answer]
  copied := copied
  worked := worked

/-- The phase of one that has. -/
theorem ofAnswer {op : Op} {answer : Answer} (given : phase.answer = some answer)
    (member : ⟨id, op, answer⟩ ∈ order) : PhaseSound access value history order id phase where
  idle same := by
    rw [same] at given
    cases given
  pending other same := by
    cases phase <;> simp_all [Phase.pending, Phase.answer]
  answered other same := by
    cases given.symm.trans same
    exact ⟨op, member⟩
  copied op copy same := by
    rw [same] at given
    cases given
  worked op answer next same := by
    rw [same] at given
    cases given

end PhaseSound

theorem Exclusion.update [DecidableEq Id] {phases : Id → Phase Op Answer Value} (exclusion : Exclusion phases)
    (exclusive : phase.IsExclusive →
      (phases id).IsExclusive ∨ ∀ other, ¬(phases other).IsExclusive ∧ ¬(phases other).IsShared)
    (shared : phase.IsShared → ∀ other, ¬(phases other).IsExclusive) : Exclusion (Function.update phases id phase) where
  alone one other first second := by
    by_cases mine : one = id
    · by_cases same : other = id
      · rw [mine, same]
      · rw [mine, Function.update_self] at first
        rw [Function.update_of_ne same] at second
        rcases exclusive first with held | free
        · exact mine.trans (exclusion.alone id other held second)
        · exact absurd second (free other).1
    · rw [Function.update_of_ne mine] at first
      by_cases same : other = id
      · rw [same, Function.update_self] at second
        rcases exclusive second with held | free
        · exact (exclusion.alone one id first held).trans same.symm
        · exact absurd first (free one).1
      · rw [Function.update_of_ne same] at second
        exact exclusion.alone one other first second
  unshared one other held reads := by
    by_cases mine : one = id
    · by_cases same : other = id
      · rw [mine, Function.update_self] at held
        rw [same, Function.update_self] at reads
        cases phase <;> simp_all [Phase.IsExclusive, Phase.IsShared]
      · rw [mine, Function.update_self] at held
        rw [Function.update_of_ne same] at reads
        rcases exclusive held with before | free
        · exact exclusion.unshared id other before reads
        · exact (free other).2 reads
    · rw [Function.update_of_ne mine] at held
      by_cases same : other = id
      · rw [same, Function.update_self] at reads
        exact shared reads one held
      · rw [Function.update_of_ne same] at reads
        exact exclusion.unshared one other held reads

namespace LockInvariant

theorem fresh (value : Value) : LockInvariant access value
    (.fresh value : LockedObject Id Op Answer Value) [] [] where
  linearizes := .empty value
  sound _ :=
    { idle := fun _ op => List.not_mem_nil
      pending := fun op same => by cases same
      answered := fun answer same => by cases same
      copied := fun op copy same => by cases same
      worked := fun op answer next same => by cases same }
  exclusion := ⟨fun _ _ holds => holds.elim, fun _ _ holds => holds.elim⟩

variable [DecidableEq Id]

/-- One operation moves on, and only a writer changes the value. -/
theorem move (invariant : LockInvariant access first object history order) {reached : Value}
    (linearizes : Linearizes (fun op => (access op).apply) first (history ++ later) (order ++ more) reached)
    (mine : PhaseSound access reached (history ++ later) (order ++ more) id phase)
    (silent : ∀ other, other ≠ id → ∀ op, .invoke other op ∉ later)
    (absent : ∀ other, other ≠ id → other ∉ more.map Entry.id)
    (written : reached = object.value ∨ (object.phase id).IsExclusive)
    (exclusive : phase.IsExclusive → (object.phase id).IsExclusive ∨
      ∀ other, ¬(object.phase other).IsExclusive ∧ ¬(object.phase other).IsShared)
    (shared : phase.IsShared → ∀ other, ¬(object.phase other).IsExclusive) :
    LockInvariant access first ⟨reached, Function.update object.phase id phase⟩ (history ++ later) (order ++ more) where
  linearizes := linearizes
  sound other := by
    by_cases same : other = id
    · rw [same]
      simpa using mine
    · have before := (invariant.sound other).grow (silent other same) (absent other same)
      simp only [Function.update_of_ne same]
      rcases written with kept | held
      · exact kept ▸ before
      · exact before.revalue (fun writes => same (invariant.exclusion.alone other id writes held)) reached
  exclusion := invariant.exclusion.update exclusive shared

/-- An operation that has not taken effect yet stays so. -/
theorem moveInternal (invariant : LockInvariant access first object history order) {op : Op}
    (given : (object.phase id).pending = some op) (still : phase.pending = some op)
    (copied : ∀ op copy, phase = .copied op copy → copy = object.value)
    (worked : ∀ op answer next, phase = .worked op answer next → (access op).apply object.value = (answer, next))
    (exclusive : phase.IsExclusive → (object.phase id).IsExclusive ∨
      ∀ other, ¬(object.phase other).IsExclusive ∧ ¬(object.phase other).IsShared)
    (shared : phase.IsShared → ∀ other, ¬(object.phase other).IsExclusive) :
    LockInvariant access first (object.move id phase) (history ++ []) (order ++ []) := by
  obtain ⟨invoked, pending⟩ := (invariant.sound id).pending op given
  exact invariant.move (by simpa using invariant.linearizes)
    (by simpa using PhaseSound.ofPending still invoked pending copied worked) (fun _ _ _ => List.not_mem_nil)
    (fun _ _ => List.not_mem_nil) (.inl rfl) exclusive shared

/-- An operation takes effect. -/
theorem moveCommit (invariant : LockInvariant access first object history order) {op : Op} {answer : Answer}
    {reached : Value} (given : (object.phase id).pending = some op) (done : phase.answer = some answer)
    (applied : (access op).apply object.value = (answer, reached))
    (written : reached = object.value ∨ (object.phase id).IsExclusive)
    (exclusive : phase.IsExclusive → (object.phase id).IsExclusive) (shared : ¬phase.IsShared) :
    LockInvariant access first ⟨reached, Function.update object.phase id phase⟩ (history ++ [])
      (order ++ [⟨id, op, answer⟩]) := by
  obtain ⟨invoked, pending⟩ := (invariant.sound id).pending op given
  have linearizes := invariant.linearizes.commit invoked pending applied
  exact invariant.move (by simpa using linearizes) (.ofAnswer done (List.mem_append_right _ List.mem_cons_self))
    (fun _ _ _ => List.not_mem_nil) (fun other different => by simpa using different) written
    (fun held => .inl (exclusive held)) (fun reads => absurd reads shared)

/-- A caller sees an event. -/
theorem moveEvent (invariant : LockInvariant access first object history order) {event : CallEvent Id Op Answer}
    (linearizes : Linearizes (fun op => (access op).apply) first (history ++ [event]) order object.value)
    (mine : PhaseSound access object.value (history ++ [event]) order id phase)
    (silent : ∀ other, other ≠ id → ∀ op, .invoke other op ≠ event) (exclusive : ¬phase.IsExclusive)
    (shared : ¬phase.IsShared) : LockInvariant access first (object.move id phase) (history ++ [event]) (order ++ []) :=
  invariant.move (by simpa using linearizes) (by simpa using mine)
    (fun other different op member => silent other different op (List.mem_singleton.mp member))
    (fun _ _ => List.not_mem_nil) (.inl rfl) (fun held => absurd held exclusive) (fun reads => absurd reads shared)

/-- An answered operation goes on to a phase without a claim of its own. -/
theorem moveAnswered (invariant : LockInvariant access first object history order) {answer : Answer}
    (given : (object.phase id).answer = some answer) (done : phase.answer = some answer) (exclusive : ¬phase.IsExclusive)
    (shared : ¬phase.IsShared) : LockInvariant access first (object.move id phase) (history ++ []) (order ++ []) := by
  obtain ⟨op, member⟩ := (invariant.sound id).answered answer given
  exact invariant.move (by simpa using invariant.linearizes) (.ofAnswer done (List.mem_append_left _ member))
    (fun _ _ _ => List.not_mem_nil) (fun _ _ => List.not_mem_nil) (.inl rfl) (fun held => absurd held exclusive)
    (fun reads => absurd reads shared)

theorem step (invariant : LockInvariant access first object history order)
    (taken : LockStep access object label next) :
    LockInvariant access first next (history ++ label.event?.toList) (order ++ label.entry?.toList) := by
  cases taken with
  | @invoke id op idle =>
    have fresh := (invariant.sound id).idle idle
    have pending : id ∉ order.map Entry.id := by
      intro member
      obtain ⟨entry, inside, rfl⟩ := List.mem_map.mp member
      exact fresh entry.op (invariant.linearizes.invoked entry inside)
    exact invariant.moveEvent (invariant.linearizes.invoke fresh)
      (.ofPending rfl (List.mem_append_right _ List.mem_cons_self) pending
        (fun _ _ same => by cases same) (fun _ _ _ same => by cases same))
      (fun other different asked same => different (by cases same; rfl)) (fun held => held) (fun reads => reads)
  | @refuse id op answer here refused =>
    exact invariant.moveCommit (by rw [here]; rfl) rfl (by rw [refused]; rfl) (.inl rfl) (fun held => held.elim)
      (fun reads => reads)
  | @share id op look here reads free =>
    exact invariant.moveInternal (by rw [here]; rfl) rfl (fun _ _ same => by cases same)
      (fun _ _ _ same => by cases same) (fun held => held.elim) (fun _ => free)
  | @look id op look here reads =>
    exact invariant.moveCommit (by rw [here]; rfl) rfl (by rw [reads]; rfl) (.inl rfl) (fun held => held.elim)
      (fun reads => reads)
  | @lock id op work here writes free =>
    exact invariant.moveInternal (by rw [here]; rfl) rfl (fun _ _ same => by cases same)
      (fun _ _ _ same => by cases same) (fun _ => .inr free) (fun reads => reads.elim)
  | @copy id op here =>
    exact invariant.moveInternal (by rw [here]; rfl) rfl (fun _ _ same => by cases same; rfl)
      (fun _ _ _ same => by cases same) (fun _ => .inl (by rw [here]; trivial)) (fun reads => reads.elim)
  | @work id op copy result answer work here writes worked =>
    have current := (invariant.sound id).copied op copy here
    exact invariant.moveInternal (by rw [here]; rfl) rfl (fun _ _ same => by cases same)
      (fun _ _ _ same => by cases same; rw [writes, ← current]; exact worked)
      (fun _ => .inl (by rw [here]; trivial)) (fun reads => reads.elim)
  | @store id op answer result here =>
    exact invariant.moveCommit (by rw [here]; rfl) rfl ((invariant.sound id).worked op answer result here)
      (.inr (by rw [here]; trivial)) (fun _ => by rw [here]; trivial) (fun reads => reads)
  | @release id answer here =>
    exact invariant.moveAnswered (by rw [here]; rfl) rfl (fun held => held) (fun reads => reads)
  | @respond id answer here =>
    have done := (invariant.sound id).answered answer (by rw [here]; rfl)
    exact invariant.moveEvent (invariant.linearizes.respond done)
      { idle := fun same => by cases same
        pending := fun _ same => by cases same
        answered := fun _ same => by cases same
        copied := fun _ _ same => by cases same
        worked := fun _ _ _ same => by cases same }
      (fun other _ _ same => by cases same) (fun held => held) (fun reads => reads)

theorem run {labels : List (LockLabel Id Op Answer)} {last : LockedObject Id Op Answer Value}
    (run : Run (LockStep access) (.fresh first) labels last) :
    LockInvariant access first last (labels.filterMap LockLabel.event?) (labels.filterMap LockLabel.entry?) := by
  induction run with
  | refl => exact fresh _
  | @snoc middle last labels label _ taken ih =>
    have next := ih.step taken
    rw [List.filterMap_append, List.filterMap_append]
    cases label <;> exact next

end LockInvariant

/-- However the steps of the operations interleave, what their callers see is explained by running
the operations one after another, each at one moment between its invocation and its answer. -/
theorem linearizable [DecidableEq Id] {labels : List (LockLabel Id Op Answer)}
    {last : LockedObject Id Op Answer Value} (run : Run (LockStep access) (.fresh first) labels last) :
    ∃ order, Linearizes (fun op => (access op).apply) first (labels.filterMap LockLabel.event?) order last.value :=
  ⟨_, (LockInvariant.run run).linearizes⟩

end Steps

end LanceC.Logic
