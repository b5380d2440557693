/-! Fused sources: what a source yields is passed on until its first failure, which is
reported once; after it there is nothing more. -/

namespace LanceC.Logic

universe u

variable {Failure Value Out : Type} {State : Type u}

/-- Some attempt before the `n`-th has failed. -/
def Blown (attempts : Nat → Except Failure Value) (n : Nat) : Prop :=
  ∃ i < n, ∃ failure, attempts i = .error failure

/-- The `k`-th attempt is the first to fail. -/
def FirstFailure (attempts : Nat → Except Failure Value) (k : Nat) : Prop :=
  ¬Blown attempts k ∧ ∃ failure, attempts k = .error failure

section Blown

variable {attempts : Nat → Except Failure Value} {n m : Nat}

theorem not_blown_zero : ¬Blown attempts 0 := by
  rintro ⟨i, before, _⟩
  exact Nat.not_lt_zero i before

theorem Blown.mono (blown : Blown attempts n) (later : n ≤ m) : Blown attempts m := by
  obtain ⟨i, before, failed⟩ := blown
  exact ⟨i, Nat.lt_of_lt_of_le before later, failed⟩

theorem blown_succ : Blown attempts (n + 1) ↔ Blown attempts n ∨ ∃ failure, attempts n = .error failure := by
  constructor
  · rintro ⟨i, before, failed⟩
    rcases Nat.lt_succ_iff_lt_or_eq.mp before with earlier | rfl
    · exact .inl ⟨i, earlier, failed⟩
    · exact .inr failed
  · rintro (blown | failed)
    · exact blown.mono (Nat.le_succ n)
    · exact ⟨n, Nat.lt_succ_self n, failed⟩

/-- Whatever has failed has failed for the first time once. -/
theorem Blown.exists_first (blown : Blown attempts n) : ∃ k < n, FirstFailure attempts k := by
  induction n with
  | zero => exact absurd blown not_blown_zero
  | succ n ih =>
    by_cases earlier : Blown attempts n
    · obtain ⟨k, before, first⟩ := ih earlier
      exact ⟨k, Nat.lt_succ_of_lt before, first⟩
    · exact ⟨n, Nat.lt_succ_self n, earlier, (blown_succ.mp blown).resolve_left earlier⟩

theorem FirstFailure.blown (first : FirstFailure attempts n) (later : n < m) : Blown attempts m :=
  ⟨n, later, first.2⟩

end Blown

/-- A machine that fuses its source. `Live n` describes its states before the `n`-th
call as long as no attempt has failed, `Dead k` those after the failure of the `k`-th. -/
structure Fuses (attempts : Nat → Except Failure Value) (pass : Value → Out) (report : Failure → Out)
    (ended : Out) (next : Nat → State → Out × State) (Live Dead : Nat → State → Prop) : Prop where
  passes {n : Nat} {state : State} {value : Value} (live : Live n state) (attempt : attempts n = .ok value) :
    (next n state).1 = pass value ∧ Live (n + 1) (next n state).2
  reports {n : Nat} {state : State} {failure : Failure} (live : Live n state) (attempt : attempts n = .error failure) :
    (next n state).1 = report failure ∧ Dead n (next n state).2
  ends {k : Nat} (n : Nat) {state : State} (dead : Dead k state) :
    (next n state).1 = ended ∧ Dead k (next n state).2

/-- The state before the `n`-th call. -/
def stateAt (next : Nat → State → Out × State) (start : State) : Nat → State
  | 0 => start
  | n + 1 => (next n (stateAt next start n)).2

/-- What the `n`-th call returns. -/
def outputAt (next : Nat → State → Out × State) (start : State) (n : Nat) : Out :=
  (next n (stateAt next start n)).1

namespace Fuses

variable {attempts : Nat → Except Failure Value} {pass : Value → Out} {report : Failure → Out} {ended : Out}
variable {next : Nat → State → Out × State} {Live Dead : Nat → State → Prop} {start : State} {n k : Nat}

theorem live (fuses : Fuses attempts pass report ended next Live Dead) (starts : Live 0 start)
    (intact : ¬Blown attempts n) : Live n (stateAt next start n) := by
  induction n with
  | zero => exact starts
  | succ n ih =>
    have earlier := ih fun blown => intact (blown.mono (Nat.le_succ n))
    cases attempt : attempts n with
    | ok value => exact (fuses.passes earlier attempt).2
    | error failure => exact absurd ⟨n, Nat.lt_succ_self n, failure, attempt⟩ intact

theorem dead (fuses : Fuses attempts pass report ended next Live Dead) (starts : Live 0 start)
    (first : FirstFailure attempts k) (later : k < n) : Dead k (stateAt next start n) := by
  induction n with
  | zero => exact absurd later (Nat.not_lt_zero k)
  | succ n ih =>
    rcases Nat.lt_succ_iff_lt_or_eq.mp later with earlier | rfl
    · exact (fuses.ends n (ih earlier)).2
    · obtain ⟨failure, attempt⟩ := first.2
      exact (fuses.reports (fuses.live starts first.1) attempt).2

theorem outputAt_ok (fuses : Fuses attempts pass report ended next Live Dead) (starts : Live 0 start)
    (intact : ¬Blown attempts n) {value : Value} (attempt : attempts n = .ok value) :
    outputAt next start n = pass value :=
  (fuses.passes (fuses.live starts intact) attempt).1

theorem outputAt_error (fuses : Fuses attempts pass report ended next Live Dead) (starts : Live 0 start)
    (intact : ¬Blown attempts n) {failure : Failure} (attempt : attempts n = .error failure) :
    outputAt next start n = report failure :=
  (fuses.reports (fuses.live starts intact) attempt).1

theorem outputAt_ended (fuses : Fuses attempts pass report ended next Live Dead) (starts : Live 0 start)
    (blown : Blown attempts n) : outputAt next start n = ended := by
  obtain ⟨k, later, first⟩ := blown.exists_first
  exact (fuses.ends n (fuses.dead starts first later)).1

end Fuses

end LanceC.Logic
