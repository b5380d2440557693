import LanceC.Scanner.PollWaker

/-! What retirement leaves behind. A registration is tracked by the registry until
close takes it over, is then cancelled, and cannot start its callback any more; and
a callback that has started is waited for. -/

namespace LanceC.Scanner

open Logic

variable {Context Token : Type}

namespace Role

variable {role : Role Token}

/-- The wake has been admitted and has not yet gone through its last section. -/
def Inside (role : Role Token) : Prop :=
  role.step = some .admitted ∨ role.step = some .inCallback ∨ role.step = some .leaving

/-- The registration has not yet been made into a waker. -/
def Registering (role : Role Token) : Prop := role = .registering ∨ role = .cancelling

theorem step_goTo {now next : WakeStep} (wakes : role.step = some now) : (role.goTo next).step = some next := by
  cases role <;> simp_all [step, goTo]

theorem not_registering {now : WakeStep} (wakes : role.step = some now) : ¬role.Registering := by
  rintro (same | same) <;> simp [same, step] at wakes

theorem waker_made : ¬(waker : Role Token).Registering := by
  rintro (same | same) <;> cases same

theorem Inside.not_registering (inside : role.Inside) : ¬role.Registering := by
  rcases inside with inside | inside | inside <;> exact Role.not_registering inside

end Role

namespace WakerSystem

section Invariant

variable (system : WakerSystem Context Token)

/-- Who will have seen to it that a waker's context is cancelled. -/
def Tracked (context : Context) : Prop :=
  match system.retirement with
  | .notCalled => context ∈ system.registry.registrations
  | .cancelling todo _ => context ∈ todo ∨ (system.state context).cancelled = true
  | .waiting _ | .returned => (system.state context).cancelled = true

/-- Retirement has not been called or has still to wait for the context. -/
def Awaited (context : Context) : Prop :=
  match system.retirement with
  | .notCalled => True
  | .cancelling _ all => context ∈ all
  | .waiting todo => context ∈ todo
  | .returned => False

structure Invariant : Prop where
  allocated : ∀ token hold, system.hold token = some hold → hold.context ∈ system.allocated
  fresh : ∀ context, (system.state context).fired = true → context ∈ system.allocated
  borrowed : ∀ user context from' at', system.hold user = some ⟨context, .borrowing from' at'⟩ →
    system.hold from' = some ⟨context, .waker⟩
  alone : ∀ token hold other held, system.hold token = some hold → system.hold other = some held →
    hold.context = held.context → hold.role.Registering → token = other
  single : ∀ token hold other held, system.hold token = some hold → system.hold other = some held →
    hold.context = held.context → hold.role.Inside → held.role.Inside → token = other
  inside : ∀ token hold, system.hold token = some hold → hold.role.Inside →
    (system.state hold.context).active = true ∧ (system.state hold.context).fired = true ∧
      system.Awaited hold.context
  tracked : ∀ token hold, system.hold token = some hold → ¬hold.role.Registering → system.Tracked hold.context
  pending : ∀ token hold, system.hold token = some hold → hold.role = .cancelling → system.retirement ≠ .notCalled
  retired : system.registry.retired = true ↔ system.retirement ≠ .notCalled
  todo : ∀ todo all, system.retirement = .cancelling todo all → todo ⊆ all

end Invariant

variable {system : WakerSystem Context Token} {token : Token} {context : Context}

/-- What may take a token's place. -/
structure Fits (system : WakerSystem Context Token) (token : Token) (next : Hold Context Token) : Prop where
  allocated : next.context ∈ system.allocated
  borrowed : ∀ from' at', next.role = .borrowing from' at' →
    from' ≠ token ∧ system.hold from' = some ⟨next.context, .waker⟩
  alone : ∀ other held, other ≠ token → system.hold other = some held → held.context = next.context →
    ¬held.role.Registering ∧ ¬next.role.Registering
  single : next.role.Inside → ∀ other held, other ≠ token → system.hold other = some held →
    held.context = next.context → ¬held.role.Inside
  inside : next.role.Inside → (system.state next.context).active = true ∧
    (system.state next.context).fired = true ∧ system.Awaited next.context
  tracked : ¬next.role.Registering → system.Tracked next.context
  pending : next.role = .cancelling → system.retirement ≠ .notCalled

section Steps

variable [DecidableEq Token]

/-- What holds of every token in someone's hands, after one has changed hands. -/
theorem of_setHold {next : Option (Hold Context Token)} {P : Hold Context Token → Prop}
    (new : ∀ hold ∈ next, P hold)
    (old : ∀ user hold, system.hold user = some hold → P hold) (user : Token) (hold : Hold Context Token)
    (found : (system.setHold token next).hold user = some hold) : P hold := by
  rw [hold_setHold] at found
  split at found
  · exact new hold found
  · exact old user hold found

/-- One token changes hands, and nobody borrows it. -/
theorem Invariant.setHold (invariant : system.Invariant) (unborrowed : system.Unborrowed token)
    {next : Option (Hold Context Token)} (fits : ∀ hold ∈ next, system.Fits token hold) :
    (system.setHold token next).Invariant where
  allocated := of_setHold (fun hold found => (fits hold found).allocated) invariant.allocated
  fresh := invariant.fresh
  borrowed := by
    intro user context from' at' found
    rw [hold_setHold] at found ⊢
    split at found
    · obtain ⟨away, lender⟩ := (fits _ found).borrowed from' at' rfl
      rw [if_neg away]
      exact lender
    · have away : from' ≠ token := by
        rintro rfl
        exact unborrowed user _ found at' rfl
      rw [if_neg away]
      exact invariant.borrowed user context from' at' found
  alone := by
    intro user hold other held found foundOther same registering
    rw [hold_setHold] at found foundOther
    split at found <;> split at foundOther
    · next here there => rw [here, there]
    · next here there =>
      exact absurd registering ((fits hold found).alone other held there foundOther same.symm).2
    · next here there =>
      exact absurd registering ((fits held foundOther).alone user hold here found same).1
    · exact invariant.alone user hold other held found foundOther same registering
  single := by
    intro user hold other held found foundOther same inside insideOther
    rw [hold_setHold] at found foundOther
    split at found <;> split at foundOther
    · next here there => rw [here, there]
    · next here there =>
      exact absurd insideOther ((fits hold found).single inside other held there foundOther same.symm)
    · next here there =>
      exact absurd inside ((fits held foundOther).single insideOther user hold here found same)
    · exact invariant.single user hold other held found foundOther same inside insideOther
  inside := of_setHold (fun hold found => (fits hold found).inside) invariant.inside
  tracked := of_setHold (fun hold found => (fits hold found).tracked) invariant.tracked
  pending := of_setHold (fun hold found => (fits hold found).pending) invariant.pending
  retired := invariant.retired
  todo := invariant.todo

end Steps

/-- One context's state changes: never out of cancellation, and not under a wake
that is inside. -/
theorem Invariant.setState [DecidableEq Context] (invariant : system.Invariant) (context : Context)
    (state : CWakerState)
    (fired : state.fired = true → context ∈ system.allocated)
    (held : ∀ user hold, system.hold user = some hold → hold.context = context →
      ((system.state context).cancelled = true → state.cancelled = true) ∧
        (hold.role.Inside → state.active = true ∧ state.fired = true)) :
    (system.setState context state).Invariant where
  allocated := invariant.allocated
  fresh := by
    intro other firedOther
    rw [state_setState] at firedOther
    split at firedOther
    · next here => exact here ▸ fired firedOther
    · exact invariant.fresh other firedOther
  borrowed := invariant.borrowed
  alone := invariant.alone
  single := invariant.single
  inside := by
    intro user hold found inside
    obtain ⟨active, hasFired, awaited⟩ := invariant.inside user hold found inside
    by_cases here : hold.context = context
    · obtain ⟨active, hasFired⟩ := (held user hold found here).2 inside
      exact ⟨by simpa [here] using active, by simpa [here] using hasFired, awaited⟩
    · exact ⟨by simpa [here] using active, by simpa [here] using hasFired, awaited⟩
  tracked := by
    intro user hold found made
    have before := invariant.tracked user hold found made
    by_cases here : hold.context = context
    · have keeps := (held user hold found here).1
      subst here
      unfold Tracked at before ⊢
      simp only [retirement_setState, registry_setState, state_setState, if_true]
      split
      · next called => simpa [called] using before
      · next called => exact (by simpa [called] using before : _ ∨ _).imp_right keeps
      · next called => exact keeps (by simpa [called] using before)
      · next called => exact keeps (by simpa [called] using before)
    · simpa [Tracked, here] using before
  pending := invariant.pending
  retired := invariant.retired
  todo := invariant.todo

/-- The registry changes, or retirement goes on. -/
theorem Invariant.retirement (invariant : system.Invariant) (registry : PollWakerRegistryState Context)
    (retirement : Retirement Context)
    (inside : ∀ user hold, system.hold user = some hold → hold.role.Inside →
      { system with registry, retirement }.Awaited hold.context)
    (tracked : ∀ user hold, system.hold user = some hold → ¬hold.role.Registering →
      { system with registry, retirement }.Tracked hold.context)
    (called : system.retirement ≠ .notCalled → retirement ≠ .notCalled)
    (retired : registry.retired = true ↔ retirement ≠ .notCalled)
    (todo : ∀ todo all, retirement = .cancelling todo all → todo ⊆ all) :
    { system with registry, retirement }.Invariant where
  allocated := invariant.allocated
  fresh := invariant.fresh
  borrowed := invariant.borrowed
  alone := invariant.alone
  single := invariant.single
  inside := by
    intro user hold found isInside
    obtain ⟨active, fired, -⟩ := invariant.inside user hold found isInside
    exact ⟨active, fired, inside user hold found isInside⟩
  tracked := tracked
  pending := fun user hold found cancelling => called (invariant.pending user hold found cancelling)
  retired := retired
  todo := todo

theorem Invariant.unborrowed (invariant : system.Invariant) (noWaker : ∀ context, system.hold token ≠ some ⟨context, .waker⟩) :
    system.Unborrowed token := by
  rintro user ⟨context, role⟩ found at' rfl
  exact noWaker context (invariant.borrowed user context token at' found)

/-- A wake goes on: what it needs to be inside is said by `enters`. -/
theorem Invariant.fits_goTo (invariant : system.Invariant) {hold : Hold Context Token} {now next : WakeStep}
    (found : system.hold token = some hold) (wakes : hold.role.step = some now)
    (enters : (hold.role.goTo next).Inside → (system.state hold.context).active = true ∧
      (system.state hold.context).fired = true ∧ system.Awaited hold.context ∧
        ∀ other held, other ≠ token → system.hold other = some held → held.context = hold.context →
          ¬held.role.Inside) :
    system.Fits token ⟨hold.context, hold.role.goTo next⟩ where
  allocated := invariant.allocated token hold found
  borrowed := by
    intro from' at' borrows
    obtain ⟨context, role⟩ := hold
    have lender : system.hold from' = some ⟨context, .waker⟩ := by
      cases role with
      | borrowing lender step =>
        obtain ⟨rfl, -⟩ : lender = from' ∧ next = at' := by simpa [Role.goTo] using borrows
        exact invariant.borrowed token context lender step found
      | _ => simp [Role.goTo] at borrows
    refine ⟨?_, lender⟩
    rintro rfl
    have same : (⟨context, role⟩ : Hold Context Token) = ⟨context, .waker⟩ :=
      Option.some.inj (found.symm.trans lender)
    rw [same] at wakes
    cases wakes
  alone := by
    intro other held away foundOther same
    refine ⟨fun registering => ?_, Role.not_registering (Role.step_goTo wakes)⟩
    exact away (invariant.alone other held token hold foundOther found same registering)
  single := fun isInside => (enters isInside).2.2.2
  inside := fun isInside => ⟨(enters isInside).1, (enters isInside).2.1, (enters isInside).2.2.1⟩
  tracked := fun _ => invariant.tracked token hold found (Role.not_registering wakes)
  pending := fun cancelling => absurd (.inr cancelling) (Role.not_registering (Role.step_goTo wakes))

/-- A wake that is already inside, or does not get there. -/
theorem Invariant.fits_keeping (invariant : system.Invariant) {hold : Hold Context Token} {now next : WakeStep}
    (found : system.hold token = some hold) (wakes : hold.role.step = some now)
    (keeps : (hold.role.goTo next).Inside → hold.role.Inside) :
    system.Fits token ⟨hold.context, hold.role.goTo next⟩ := by
  refine invariant.fits_goTo found wakes fun isInside => ?_
  obtain ⟨active, fired, awaited⟩ := invariant.inside token hold found (keeps isInside)
  refine ⟨active, fired, awaited, ?_⟩
  intro other held away foundOther same insideOther
  exact away (invariant.single other held token hold foundOther found same insideOther (keeps isInside))

/-- A new use of a waker that there is. -/
theorem Invariant.fits_sharing (invariant : system.Invariant) {lender : Token} {role : Role Token}
    (found : system.hold lender = some ⟨context, .waker⟩) (outside : ¬role.Inside) (made : ¬role.Registering)
    (borrows : ∀ from' at', role = .borrowing from' at' → from' = lender ∧ lender ≠ token) :
    system.Fits token ⟨context, role⟩ where
  allocated := invariant.allocated lender ⟨context, .waker⟩ found
  borrowed := by
    intro from' at' same
    obtain ⟨rfl, away⟩ := borrows from' at' same
    exact ⟨away, found⟩
  alone := by
    intro other held away foundOther same
    refine ⟨fun registering => ?_, made⟩
    obtain rfl := invariant.alone other held lender _ foundOther found same registering
    obtain rfl : held = ⟨context, .waker⟩ := Option.some.inj (foundOther.symm.trans found)
    rcases registering with registering | registering <;> cases registering
  single := fun isInside => absurd isInside outside
  inside := fun isInside => absurd isInside outside
  tracked := fun _ => invariant.tracked lender ⟨context, .waker⟩ found Role.waker_made
  pending := fun cancelling => absurd (.inr cancelling) made

/-- A registration goes on. -/
theorem Invariant.fits_registering (invariant : system.Invariant) {role next : Role Token}
    (found : system.hold token = some ⟨context, role⟩) (registering : role.Registering)
    (isWaker : next = .waker ∨ next = .cancelling) (tracked : next = .waker → system.Tracked context)
    (called : next = .cancelling → system.retirement ≠ .notCalled) : system.Fits token ⟨context, next⟩ where
  allocated := invariant.allocated token ⟨context, role⟩ found
  borrowed := by
    rintro from' at' same
    rcases isWaker with rfl | rfl <;> cases same
  alone := by
    intro other held away foundOther same
    exact absurd (invariant.alone token _ other held found foundOther same.symm registering) (Ne.symm away)
  single := by
    intro isInside
    rcases isWaker with rfl | rfl <;> simp [Role.Inside, Role.step] at isInside
  inside := by
    intro isInside
    rcases isWaker with rfl | rfl <;> simp [Role.Inside, Role.step] at isInside
  tracked := fun made => tracked (isWaker.resolve_right fun same => made (.inr same))
  pending := called

/-- An `Arc`, or the waker it is borrowed from, keeps its context alive. -/
theorem Invariant.live (invariant : system.Invariant) {hold : Hold Context Token}
    (found : system.hold token = some hold) : system.Live hold.context := by
  obtain ⟨context, role⟩ := hold
  cases role with
  | borrowing from' at' =>
    exact .inr ⟨from', ⟨context, .waker⟩, invariant.borrowed token context from' at' found, rfl, nofun⟩
  | _ => exact .inr ⟨token, _, found, rfl, nofun⟩

theorem Invariant.awaited (invariant : system.Invariant) (tracked : system.Tracked context)
    (uncancelled : (system.state context).cancelled = false) : system.Awaited context := by
  cases called : system.retirement with
  | notCalled => simp [Awaited, called]
  | cancelling todo all =>
    simp only [Tracked, called, uncancelled, Bool.false_eq_true, or_false] at tracked
    simpa [Awaited, called] using invariant.todo todo all called tracked
  | waiting todo => simp [Tracked, called, uncancelled] at tracked
  | returned => simp [Tracked, called, uncancelled] at tracked

theorem tracked_of_cancelled (called : system.retirement ≠ .notCalled)
    (cancelled : (system.state context).cancelled = true) : system.Tracked context := by
  unfold Tracked
  split
  · next uncalled => exact absurd uncalled called
  · exact .inr cancelled
  · exact cancelled
  · exact cancelled

theorem Invariant.unborrowed_of_step (invariant : system.Invariant) {hold : Hold Context Token} {now : WakeStep}
    (found : system.hold token = some hold) (wakes : hold.role.step = some now) : system.Unborrowed token := by
  refine invariant.unborrowed fun context waker => ?_
  obtain rfl : hold = ⟨context, .waker⟩ := Option.some.inj (found.symm.trans waker)
  cases wakes

theorem Invariant.goTo [DecidableEq Token] (invariant : system.Invariant) {hold : Hold Context Token}
    {now : WakeStep} (next : WakeStep) (found : system.hold token = some hold) (wakes : hold.role.step = some now)
    (keeps : (hold.role.goTo next).Inside → hold.role.Inside) :
    (system.setHold token (some ⟨hold.context, hold.role.goTo next⟩)).Invariant := by
  refine invariant.setHold (invariant.unborrowed_of_step found wakes) ?_
  rintro _ ⟨⟩
  exact invariant.fits_keeping found wakes keeps

section Steps

variable [DecidableEq Context]

theorem Invariant.cancel (invariant : system.Invariant) (context : Context) :
    (system.setState context (system.state context).cancel).Invariant := by
  refine invariant.setState context _ (fun fired => invariant.fresh context fired) ?_
  rintro user hold found rfl
  refine ⟨fun _ => rfl, fun isInside => ?_⟩
  obtain ⟨active, fired, -⟩ := invariant.inside user hold found isInside
  exact ⟨active, fired⟩

variable [DecidableEq Token]

theorem Invariant.allocate (invariant : system.Invariant) (unallocated : context ∉ system.allocated)
    (free : system.hold token = none) :
    { (system.setState context .default).setHold token (some ⟨context, .registering⟩) with
      allocated := context :: system.allocated }.Invariant := by
  have unheld : ∀ user hold, system.hold user = some hold → hold.context ≠ context := by
    rintro user hold found rfl
    exact unallocated (invariant.allocated user hold found)
  have allocated : { system with allocated := context :: system.allocated }.Invariant :=
    { invariant with
      allocated := fun user hold found => List.mem_cons_of_mem _ (invariant.allocated user hold found)
      fresh := fun other fired => List.mem_cons_of_mem _ (invariant.fresh other fired) }
  have reset := allocated.setState context .default nofun
    fun user hold found same => absurd same (unheld user hold found)
  refine reset.setHold (reset.unborrowed fun other waker => ?_) ?_
  · cases free.symm.trans waker
  · rintro _ ⟨⟩
    exact {
      allocated := List.mem_cons_self
      borrowed := nofun
      alone := fun other held _ foundOther same => absurd same (unheld other held foundOther)
      single := fun isInside => by simp [Role.Inside, Role.step] at isInside
      inside := fun isInside => by simp [Role.Inside, Role.step] at isInside
      tracked := fun made => absurd (.inl rfl) made
      pending := nofun }

theorem Invariant.register (invariant : system.Invariant) {alive : Context → Bool}
    {registry : PollWakerRegistryState Context} (found : system.hold token = some ⟨context, .registering⟩)
    (alive_iff : ∀ context, alive context = true ↔ system.Live context)
    (registered : system.registry.register alive context = (false, registry)) :
    { system.setHold token (some ⟨context, .waker⟩) with registry }.Invariant := by
  unfold PollWakerRegistryState.register at registered
  split at registered
  · cases registered
  · next open' =>
    obtain rfl : { system.registry with registrations := system.registry.registrations.filter alive ++ [context] } =
        registry := (Prod.mk.inj registered).2
    have uncalled : system.retirement = .notCalled := by
      by_contra called
      exact open' (invariant.retired.mpr called)
    have pushed := invariant.retirement
      { system.registry with registrations := system.registry.registrations.filter alive ++ [context] }
      system.retirement (fun user hold holds isInside => (invariant.inside user hold holds isInside).2.2)
      (by
        intro user hold holds made
        have tracked := invariant.tracked user hold holds made
        simp only [Tracked, uncalled] at tracked ⊢
        have alive := (alive_iff hold.context).mpr (invariant.live holds)
        exact List.mem_append_left _ (List.mem_filter.mpr ⟨tracked, alive⟩))
      id invariant.retired invariant.todo
    refine pushed.setHold (pushed.unborrowed fun other waker => ?_) ?_
    · cases found.symm.trans waker
    · rintro _ ⟨⟩
      exact pushed.fits_registering found (.inl rfl) (.inl rfl) (fun _ => by simp [Tracked, uncalled]) nofun

omit [DecidableEq Context] in
theorem Invariant.registerRetired (invariant : system.Invariant) {alive : Context → Bool}
    {registry : PollWakerRegistryState Context} (found : system.hold token = some ⟨context, .registering⟩)
    (refused : system.registry.register alive context = (true, registry)) :
    { system.setHold token (some ⟨context, .cancelling⟩) with registry }.Invariant := by
  unfold PollWakerRegistryState.register at refused
  split at refused
  · next retired =>
    obtain rfl : { system.registry with registrations := system.registry.registrations.filter alive } = registry :=
      (Prod.mk.inj refused).2
    have called := invariant.retired.mp retired
    have pruned := invariant.retirement
      { system.registry with registrations := system.registry.registrations.filter alive }
      system.retirement (fun user hold holds isInside => (invariant.inside user hold holds isInside).2.2)
      (by
        intro user hold holds made
        have tracked := invariant.tracked user hold holds made
        cases stage : system.retirement with
        | notCalled => exact absurd stage called
        | _ => simpa [Tracked, stage] using tracked)
      id invariant.retired invariant.todo
    refine pruned.setHold (pruned.unborrowed fun other waker => ?_) ?_
    · cases found.symm.trans waker
    · rintro _ ⟨⟩
      exact pruned.fits_registering found (.inl rfl) (.inr rfl) nofun fun _ => called
  · cases refused

theorem Invariant.letIn (invariant : system.Invariant) {hold : Hold Context Token} {state : CWakerState}
    (found : system.hold token = some hold) (entering : hold.role.step = some .entering)
    (admitted : (system.state hold.context).letIn = some state) :
    ((system.setState hold.context state).setHold token (some ⟨hold.context, hold.role.goTo .admitted⟩)).Invariant := by
  unfold CWakerState.letIn at admitted
  split at admitted
  · cases admitted
  · next first =>
    obtain rfl := Option.some.inj admitted
    obtain ⟨uncancelled, unfired⟩ : (system.state hold.context).cancelled = false ∧
        (system.state hold.context).fired = false := by simpa using first
    have entered := invariant.setState hold.context
      { system.state hold.context with fired := true, active := true }
      (fun _ => invariant.allocated token hold found) (fun _ _ _ _ => ⟨id, fun _ => ⟨rfl, rfl⟩⟩)
    refine entered.setHold (entered.unborrowed_of_step found entering) ?_
    rintro _ ⟨⟩
    refine entered.fits_goTo found entering fun _ => ⟨by simp, by simp, ?_, ?_⟩
    · exact invariant.awaited (invariant.tracked token hold found (Role.not_registering entering)) uncancelled
    · intro other held away foundOther same isInside
      have fired := (invariant.inside other held foundOther isInside).2.1
      rw [same, unfired] at fired
      cases fired

theorem Invariant.quiesce (invariant : system.Invariant) {hold : Hold Context Token}
    (found : system.hold token = some hold) (leaving : hold.role.step = some .leaving) :
    ((system.setState hold.context (system.state hold.context).quiesce).setHold token
      (some ⟨hold.context, hold.role.goTo .returning⟩)).Invariant := by
  have left := invariant.goTo .returning found leaving fun _ => .inr (.inr leaving)
  refine left.setState hold.context (system.state hold.context).quiesce
    (fun fired => invariant.fresh hold.context fired) ?_
  intro user held foundOther same
  refine ⟨id, fun isInside => ?_⟩
  rw [hold_setHold] at foundOther
  split at foundOther
  · obtain rfl := Option.some.inj foundOther
    simp [Role.Inside, Role.step_goTo leaving] at isInside
  · next away =>
    exact absurd (invariant.single user held token hold foundOther found same isInside (.inr (.inr leaving))) away

omit [DecidableEq Context] [DecidableEq Token] in
theorem Invariant.retire (invariant : system.Invariant) {alive : Context → Bool} {registrations : List Context}
    {registry : PollWakerRegistryState Context} (uncalled : system.retirement = .notCalled)
    (alive_iff : ∀ context, alive context = true ↔ system.Live context)
    (retired : system.registry.retire alive = (registrations, registry)) :
    { system with registry, retirement := .cancelling registrations registrations }.Invariant := by
  obtain ⟨rfl, rfl⟩ := Prod.mk.inj retired
  have upgraded : ∀ user hold, system.hold user = some hold → ¬hold.role.Registering →
      hold.context ∈ system.registry.registrations.filter alive := by
    intro user hold found made
    have tracked := invariant.tracked user hold found made
    simp only [Tracked, uncalled] at tracked
    exact List.mem_filter.mpr ⟨tracked, (alive_iff hold.context).mpr (invariant.live found)⟩
  refine invariant.retirement _ _ ?_ ?_ (by simp) (by simp) ?_
  · exact fun user hold found isInside => upgraded user hold found isInside.not_registering
  · exact fun user hold found made => .inl (upgraded user hold found made)
  · rintro todo all ⟨⟩
    exact List.Subset.refl _

variable {before after : WakerSystem Context Token} {event : WakerEvent Context}

theorem invariant_step (invariant : before.Invariant) (step : WakerStep before event after) : after.Invariant := by
  cases step with
  | allocate unallocated free => exact invariant.allocate unallocated free
  | register found alive_iff registered => exact invariant.register found alive_iff registered
  | registerRetired found alive_iff refused => exact invariant.registerRetired found refused
  | @cancelRegistration context token found =>
    have cancelled := invariant.cancel context
    have noWaker : ∀ other, before.hold token ≠ some ⟨other, .waker⟩ := by simp [found]
    refine cancelled.setHold (cancelled.unborrowed noWaker) ?_
    rintro _ ⟨⟩
    have called := invariant.pending token _ found rfl
    exact cancelled.fits_registering found (.inr rfl) (.inl rfl)
      (fun _ => tracked_of_cancelled called (by simp [CWakerState.cancel])) nofun
  | @clone context token fresh found free =>
    refine invariant.setHold (invariant.unborrowed (by simp [free])) ?_
    rintro _ ⟨⟩
    exact invariant.fits_sharing found (by simp [Role.Inside, Role.step]) Role.waker_made nofun
  | drop found unborrowed => exact invariant.setHold unborrowed nofun
  | wake found unborrowed =>
    refine invariant.setHold unborrowed ?_
    rintro _ ⟨⟩
    exact invariant.fits_sharing found (by simp [Role.Inside, Role.step]) (by simp [Role.Registering]) nofun
  | @wakeByRef context lender user found free =>
    refine invariant.setHold (invariant.unborrowed (by simp [free])) ?_
    rintro _ ⟨⟩
    refine invariant.fits_sharing found (by simp [Role.Inside, Role.step]) (by simp [Role.Registering]) ?_
    rintro from' at' ⟨⟩
    refine ⟨rfl, ?_⟩
    rintro rfl
    simp [free] at found
  | letIn found entering admitted => exact invariant.letIn found entering admitted
  | skip found entering refused =>
    exact invariant.goTo _ found entering (by simp [Role.Inside, Role.step_goTo entering])
  | callbackStarts found admitted => exact invariant.goTo _ found admitted fun _ => .inl admitted
  | callbackEnds found inCallback => exact invariant.goTo _ found inCallback fun _ => .inr (.inl inCallback)
  | quiesce found leaving => exact invariant.quiesce found leaving
  | wakeReturns found returning => exact invariant.setHold (invariant.unborrowed_of_step found returning) nofun
  | retire uncalled alive_iff retired => exact invariant.retire uncalled alive_iff retired
  | @cancel context todo all cancelling =>
    have cancelled := invariant.cancel context
    refine cancelled.retirement _ _ ?_ ?_ (by simp) ?_ ?_
    · intro user hold found isInside
      simpa [Awaited, cancelling] using (cancelled.inside user hold found isInside).2.2
    · intro user hold found made
      have tracked := cancelled.tracked user hold found made
      simp only [Tracked, retirement_setState, cancelling, List.mem_cons] at tracked ⊢
      rcases tracked with (here | later) | done
      · exact .inr (by simp [here, CWakerState.cancel])
      · exact .inl later
      · exact .inr done
    · simpa [cancelling] using invariant.retired
    · rintro _ _ ⟨⟩
      exact fun other member => invariant.todo _ _ cancelling (List.mem_cons_of_mem _ member)
  | @beginWaiting all cancelling =>
    refine invariant.retirement _ _ ?_ ?_ (by simp) ?_ nofun
    · intro user hold found isInside
      simpa [Awaited, cancelling] using (invariant.inside user hold found isInside).2.2
    · intro user hold found made
      simpa [Tracked, cancelling] using invariant.tracked user hold found made
    · simpa [cancelling] using invariant.retired
  | @quiescent context todo waiting quiet =>
    refine invariant.retirement _ _ ?_ ?_ (by simp) ?_ nofun
    · intro user hold found isInside
      obtain ⟨active, -, awaited⟩ := invariant.inside user hold found isInside
      simp only [Awaited, waiting, List.mem_cons] at awaited ⊢
      refine awaited.resolve_left ?_
      rintro rfl
      simp [quiet] at active
    · intro user hold found made
      simpa [Tracked, waiting] using invariant.tracked user hold found made
    · simpa [waiting] using invariant.retired
  | retireReturns waiting =>
    refine invariant.retirement _ _ ?_ ?_ (by simp) ?_ nofun
    · intro user hold found isInside
      simpa [Awaited, waiting] using (invariant.inside user hold found isInside).2.2
    · intro user hold found made
      simpa [Tracked, waiting] using invariant.tracked user hold found made
    · simpa [waiting] using invariant.retired

/-- Having fired is for good. -/
theorem fired_step (invariant : before.Invariant) (step : WakerStep before event after) (context : Context)
    (fired : (before.state context).fired = true) : (after.state context).fired = true := by
  cases step with
  | @allocate fresh token unallocated free =>
    have away : context ≠ fresh := by
      rintro rfl
      exact unallocated (invariant.fresh context fired)
    simpa [away] using fired
  | @cancelRegistration other =>
    by_cases here : context = other <;> simp_all [CWakerState.cancel]
  | @cancel other =>
    by_cases here : context = other <;> simp_all [CWakerState.cancel]
  | @quiesce token hold =>
    by_cases here : context = hold.context <;> simp_all [CWakerState.quiesce]
  | @letIn token hold state found entering admitted =>
    have isFired : state.fired = true := by
      unfold CWakerState.letIn at admitted
      split at admitted
      · cases admitted
      · obtain rfl := Option.some.inj admitted
        rfl
    by_cases here : context = hold.context <;> simp_all
  | _ => exact fired

omit [DecidableEq Context] in
theorem hold_of_setHold {next : Option (Hold Context Token)} {user : Token} {hold : Hold Context Token}
    (found : (system.setHold token next).hold user = some hold)
    (other : ∀ held ∈ next, held.role.step ≠ some .admitted) (admitted : hold.role.step = some .admitted) :
    system.hold user = some hold := by
  rw [hold_setHold] at found
  split at found
  · exact absurd admitted (other hold found)
  · exact found

/-- A wake is admitted only while its context has not fired. -/
theorem admitted_step (step : WakerStep before event after) {token : Token} {hold : Hold Context Token}
    (found : after.hold token = some hold) (admitted : hold.role.step = some .admitted) :
    before.hold token = some hold ∨ (before.state hold.context).fired = false := by
  cases step with
  | letIn _ entering passed =>
    rw [hold_setHold] at found
    split at found
    · obtain rfl := Option.some.inj found
      unfold CWakerState.letIn at passed
      split at passed
      · cases passed
      · next first =>
        simp only [Bool.or_eq_true, not_or, Bool.not_eq_true] at first
        exact .inr first.2
    · exact .inl found
  | allocate | register | registerRetired | cancelRegistration | clone | wake | wakeByRef =>
    exact .inl (hold_of_setHold found (by rintro _ ⟨⟩; simp [Role.step]) admitted)
  | drop | wakeReturns => exact .inl (hold_of_setHold found nofun admitted)
  | skip _ now | callbackStarts _ now | callbackEnds _ now | quiesce _ now =>
    exact .inl (hold_of_setHold found (by rintro _ ⟨⟩; simp [Role.step_goTo now]) admitted)
  | retire | cancel | beginWaiting | quiescent | retireReturns => exact .inl found

/-- The callback of the context has started, and does so no more. -/
def Spent (context : Context) (system : WakerSystem Context Token) : Prop :=
  (system.state context).fired = true ∧
    ∀ token hold, system.hold token = some hold → hold.context = context → hold.role.step ≠ some .admitted

theorem spent_step (invariant : before.Invariant) (step : WakerStep before event after)
    (spent : before.Spent context) :
    after.Spent context := by
  refine ⟨fired_step invariant step context spent.1, ?_⟩
  rintro token hold found rfl admitted
  rcases admitted_step step found admitted with old | unfired
  · exact spent.2 token hold old rfl admitted
  · simp [spent.1] at unfired

theorem callbackStarts_step (invariant : before.Invariant) (step : WakerStep before (.callbackStarts context) after) :
    ¬before.Spent context ∧ after.Spent context := by
  have kept := fired_step invariant step context
  cases step with
  | @callbackStarts token hold found admitted =>
    obtain ⟨-, fired, -⟩ := invariant.inside token hold found (.inl admitted)
    refine ⟨fun spent => spent.2 token hold found rfl admitted, kept fired, ?_⟩
    intro user held foundAfter same admittedAfter
    have before := hold_of_setHold foundAfter (by rintro _ ⟨⟩; simp [Role.step_goTo admitted]) admittedAfter
    obtain rfl := invariant.single user held token hold before found same (.inl admittedAfter) (.inl admitted)
    rw [hold_setHold, if_pos rfl] at foundAfter
    obtain rfl := Option.some.inj foundAfter
    simp [Role.step_goTo admitted] at admittedAfter

/-- Retirement has returned, and all that was to follow from it holds. -/
def Quiesced (system : WakerSystem Context Token) : Prop := system.Invariant ∧ system.retirement = .returned

omit [DecidableEq Context] [DecidableEq Token] in
theorem Quiesced.outside (quiesced : system.Quiesced) {hold : Hold Context Token}
    (found : system.hold token = some hold) : ¬hold.role.Inside := by
  intro inside
  have awaited := (quiesced.1.inside token hold found inside).2.2
  simp [Awaited, quiesced.2] at awaited

theorem quiesced_step (quiesced : before.Quiesced) (step : WakerStep before event after) : after.Quiesced := by
  refine ⟨invariant_step quiesced.1 step, ?_⟩
  have returned := quiesced.2
  cases step <;> simp_all

theorem callback_of_quiesced (quiesced : before.Quiesced) (step : WakerStep before event after) :
    event ≠ .callbackStarts context := by
  rintro rfl
  cases step with
  | callbackStarts found admitted => exact quiesced.outside found (.inl admitted)

omit [DecidableEq Context] [DecidableEq Token] in
theorem invariant_new : (new : WakerSystem Context Token).Invariant where
  allocated := nofun
  fresh := nofun
  borrowed := nofun
  alone := nofun
  single := nofun
  inside := nofun
  tracked := nofun
  pending := nofun
  retired := by simp [new]
  todo := nofun

/-- The callback of a registration starts at most once, and after retirement has
returned none is running and none starts any more. -/
theorem retire_and_wait_quiesces {trace : List (WakerEvent Context)} (run : Run WakerStep new trace system) :
    (∀ context, trace.countP (fun event => event = .callbackStarts context) ≤ 1) ∧
      (system.retirement = .returned → ∀ later last, Run WakerStep system later last →
        (∀ context, .callbackStarts context ∉ later) ∧
          ∀ token hold, last.hold token = some hold → hold.role.step ≠ some .inCallback) := by
  constructor
  · intro context
    refine run.countP_le_one (Spent context) _ invariant_new invariant_step spent_step ?_
    intro before event after invariant step starts
    obtain rfl : event = .callbackStarts context := by simpa using starts
    exact callbackStarts_step invariant step
  · intro returned later last more
    have quiesced : system.Quiesced := ⟨run.invariant invariant_new invariant_step, returned⟩
    constructor
    · intro context member
      exact more.forall_labels (fun event => event ≠ .callbackStarts context) quiesced quiesced_step
        callback_of_quiesced _ member rfl
    · intro token hold found inCallback
      exact (more.invariant quiesced quiesced_step).outside found (.inr (.inl inCallback))

/-- A waker that is registered while nothing else goes on. -/
def sampleMade : WakerSystem Unit Unit :=
  { (new.setState () .default).setHold () (some ⟨(), .registering⟩) with allocated := [()] }

def sampleRegistered : WakerSystem Unit Unit :=
  { sampleMade.setHold () (some ⟨(), .waker⟩) with registry := ⟨false, [()]⟩ }

def sampleRetiring (retirement : Retirement Unit) : WakerSystem Unit Unit :=
  { sampleRegistered with registry := ⟨true, []⟩, retirement }

def sampleCancelled (retirement : Retirement Unit) : WakerSystem Unit Unit :=
  { sampleRegistered.setState () CWakerState.default.cancel with registry := ⟨true, []⟩, retirement }

theorem retire_and_wait_quiesces_sample :
    ∃ trace, ∃ system : WakerSystem Unit Unit, Run WakerStep new trace system ∧ system.retirement = .returned ∧
      ∀ later last, Run WakerStep system later last →
        (∀ context, .callbackStarts context ∉ later) ∧
          ∀ token hold, last.hold token = some hold → hold.role.step ≠ some .inCallback := by
  have made : WakerStep new .other sampleMade := .allocate List.not_mem_nil rfl
  have aliveMade : ∀ context, true = true ↔ sampleMade.Live context := fun _ =>
    iff_of_true rfl (.inr ⟨(), _, rfl, rfl, nofun⟩)
  have registered : WakerStep sampleMade .other sampleRegistered :=
    @WakerStep.register Unit Unit _ _ sampleMade () () (fun _ => true) ⟨false, [()]⟩ rfl aliveMade rfl
  have aliveRegistered : ∀ context, true = true ↔ sampleRegistered.Live context := fun _ =>
    iff_of_true rfl (.inr ⟨(), _, rfl, rfl, nofun⟩)
  have retired : WakerStep sampleRegistered .other (sampleRetiring (.cancelling [()] [()])) :=
    @WakerStep.retire Unit Unit _ _ sampleRegistered (fun _ => true) [()] ⟨true, []⟩ rfl aliveRegistered rfl
  have cancelled : WakerStep (sampleRetiring (.cancelling [()] [()])) .other (sampleCancelled (.cancelling [] [()])) :=
    .cancel rfl
  have waits : WakerStep (sampleCancelled (.cancelling [] [()])) .other (sampleCancelled (.waiting [()])) :=
    .beginWaiting rfl
  have quiescent : WakerStep (sampleCancelled (.waiting [()])) .other (sampleCancelled (.waiting [])) :=
    .quiescent rfl rfl
  have returned : WakerStep (sampleCancelled (.waiting [])) .other (sampleCancelled .returned) :=
    .retireReturns rfl
  have run := (((((Run.single made).snoc registered).snoc retired).snoc cancelled).snoc waits).snoc quiescent
    |>.snoc returned
  exact ⟨_, _, run, rfl, (retire_and_wait_quiesces run).2 rfl⟩

end Steps

end WakerSystem

end LanceC.Scanner
