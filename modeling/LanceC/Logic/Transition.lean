import Mathlib.Order.RelClasses

/-! Runs of a labelled transition system, and what a run inherits from its steps. -/

namespace LanceC.Logic

universe u v

variable {State : Type u} {Label : Type v} {step : State → Label → State → Prop}

/-- A finite run and its labels, first to last. -/
inductive Run (step : State → Label → State → Prop) : State → List Label → State → Prop where
  | refl (state : State) : Run step state [] state
  | snoc {first middle last : State} {labels : List Label} {label : Label} :
      Run step first labels middle → step middle label last → Run step first (labels ++ [label]) last

namespace Run

variable {first middle last : State} {labels earlier later : List Label}

theorem single {label : Label} (taken : step first label last) : Run step first [label] last :=
  .snoc (.refl first) taken

theorem append (before : Run step first earlier middle) (after : Run step middle later last) :
    Run step first (earlier ++ later) last := by
  induction after with
  | refl => simpa using before
  | snoc _ taken ih =>
    rw [← List.append_assoc]
    exact .snoc ih taken

/-- Steps that an abstraction of the state can follow make runs that it can follow. -/
theorem simulate {Abstract : Type*} {abstractStep : Abstract → Label → Abstract → Prop}
    (run : Run step first labels last)
    (abstraction : State → Abstract)
    (follows : ∀ {before label after}, step before label after →
      abstractStep (abstraction before) label (abstraction after)) :
    Run abstractStep (abstraction first) labels (abstraction last) := by
  induction run with
  | refl => exact .refl _
  | snoc _ taken ih => exact .snoc ih (follows taken)

/-- Where every request is answered in every state, so is every sequence of requests. -/
theorem exists_of_total {Request : Type*} (request : Label → Request)
    (total : ∀ state asked, ∃ label next, request label = asked ∧ step state label next) (start : State)
    (asked : List Request) : ∃ labels last, labels.map request = asked ∧ Run step start labels last := by
  induction asked generalizing start with
  | nil => exact ⟨[], start, rfl, .refl start⟩
  | cons next later ih =>
    obtain ⟨label, reached, rfl, taken⟩ := total start next
    obtain ⟨labels, last, rfl, run⟩ := ih reached
    exact ⟨label :: labels, last, rfl, (single taken).append run⟩

/-- What the first state satisfies and every step keeps holds at the end. -/
theorem invariant {Holds : State → Prop} (run : Run step first labels last) (start : Holds first)
    (kept : ∀ {before label after}, Holds before → step before label after → Holds after) : Holds last := by
  induction run with
  | refl => exact start
  | snoc _ taken ih => exact kept ih taken

/-- A property that only certain labels bring about, and none takes away, holds at
the end exactly when it held at the start or such a label occurred. -/
theorem raised_iff {Holds : State → Prop} (run : Run step first labels last) (Raised : State → Prop)
    (Raises : Label → Prop) (start : Holds first)
    (kept : ∀ {before label after}, Holds before → step before label after → Holds after)
    (stepwise : ∀ {before label after}, Holds before → step before label after →
      (Raised after ↔ Raised before ∨ Raises label)) :
    Raised last ↔ Raised first ∨ ∃ label ∈ labels, Raises label := by
  induction run with
  | refl => simp
  | snoc before taken ih =>
    have here := before.invariant start kept
    rw [stepwise here taken, ih]
    simp only [List.mem_append, List.mem_singleton]
    constructor
    · rintro ((already | ⟨label, member, raises⟩) | raises)
      · exact .inl already
      · exact .inr ⟨label, .inl member, raises⟩
      · exact .inr ⟨_, .inr rfl, raises⟩
    · rintro (already | ⟨label, member | same, raises⟩)
      · exact .inl (.inl already)
      · exact .inl (.inr ⟨label, member, raises⟩)
      · exact .inr (same ▸ raises)

/-- What an invariant forbids or demands of a label is so of every label of a run. -/
theorem forall_labels {Holds : State → Prop} (run : Run step first labels last) (Fine : Label → Prop)
    (start : Holds first)
    (kept : ∀ {before label after}, Holds before → step before label after → Holds after)
    (fine : ∀ {before label after}, Holds before → step before label after → Fine label) :
    ∀ label ∈ labels, Fine label := by
  induction run with
  | refl => simp
  | snoc before taken ih =>
    intro label member
    rcases List.mem_append.mp member with old | new
    · exact ih label old
    · rw [List.mem_singleton.mp new]
      exact fine (before.invariant start kept) taken

/-- A label that spends something which is never got back occurs at most once. -/
theorem countP_le_one {Holds : State → Prop} (run : Run step first labels last) (Spent : State → Prop)
    (chosen : Label → Bool) (start : Holds first)
    (kept : ∀ {before label after}, Holds before → step before label after → Holds after)
    (stays : ∀ {before label after}, Holds before → step before label after → Spent before → Spent after)
    (spends : ∀ {before label after}, Holds before → step before label after → chosen label = true →
      ¬Spent before ∧ Spent after) : labels.countP chosen ≤ 1 := by
  have counted : labels.countP chosen ≤ 1 ∧ (0 < labels.countP chosen → Spent last) := by
    induction run with
    | refl => simp
    | @snoc middle last labels label before taken ih =>
      have here := before.invariant start kept
      rw [List.countP_append, List.countP_singleton]
      split
      · next picked =>
        obtain ⟨unspent, spent⟩ := spends here taken picked
        have none : labels.countP chosen = 0 := by
          by_contra some
          exact unspent (ih.2 (Nat.pos_of_ne_zero some))
        exact ⟨by omega, fun _ => spent⟩
      · exact ⟨ih.1, fun some => stays here taken (ih.2 some)⟩
  exact counted.1

end Run

section Termination

variable {Process Position : Type} {below : Position → Position → Prop}

/-- One of the active processes moves down, all others stay where they are. -/
def Descends (below : Position → Position → Prop) (active : List Process)
    (after before : Process → Position) : Prop :=
  ∃ process ∈ active, below (after process) (before process) ∧
    ∀ other, other ≠ process → after other = before other

/-- Finitely many processes that each have to stop also stop together. -/
theorem wellFounded_descends (wellFounded : WellFounded below) (active : List Process) :
    WellFounded (Descends below active) := by
  induction active with
  | nil => exact ⟨fun start => ⟨_, fun after ⟨process, member, _⟩ => absurd member List.not_mem_nil⟩⟩
  | cons first rest ih =>
    refine Subrelation.wf ?_ (InvImage.wf (fun positions => (positions first, positions)) (wellFounded.prod_lex ih))
    rintro after before ⟨process, member, down, others⟩
    by_cases same : process = first
    · subst same
      exact .left _ _ down
    · have stays : after first = before first := others first (Ne.symm same)
      have later : process ∈ rest := (List.mem_cons.mp member).resolve_left same
      have descends : Descends below rest after before := ⟨process, later, down, others⟩
      show Prod.Lex below (Descends below rest) (after first, after) (before first, before)
      rw [stays]
      exact .right _ descends

end Termination

end LanceC.Logic
