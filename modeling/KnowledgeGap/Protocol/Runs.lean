import Mathlib.Tactic.Common

namespace Protocol

variable {σ α : Type}

def run (step : σ → α → σ) (s : σ) (actions : List α) : σ := actions.foldl step s

@[simp] theorem run_nil (step : σ → α → σ) (s : σ) : run step s [] = s := rfl

@[simp] theorem run_cons (step : σ → α → σ) (s : σ) (a : α) (actions : List α) :
    run step s (a :: actions) = run step (step s a) actions := rfl

/-- What every single step preserves, every run preserves. -/
theorem run_invariant {step : σ → α → σ} {Inv : σ → Prop}
    (preserve : ∀ s a, Inv s → Inv (step s a)) (actions : List α) (s : σ) (start : Inv s) :
    Inv (run step s actions) := by
  induction actions generalizing s with
  | nil => exact start
  | cons a actions ih => exact ih (step s a) (preserve s a start)

/-- Every action of a run is allowed in the state it finds. -/
def Along (step : σ → α → σ) (Allowed : σ → α → Prop) : σ → List α → Prop
  | _, [] => True
  | s, a :: actions => Allowed s a ∧ Along step Allowed (step s a) actions

instance decidableAlong (step : σ → α → σ) (Allowed : σ → α → Prop) [∀ s a, Decidable (Allowed s a)] :
    ∀ s actions, Decidable (Along step Allowed s actions)
  | _, [] => inferInstanceAs (Decidable True)
  | s, a :: actions =>
    have := decidableAlong step Allowed (step s a) actions
    inferInstanceAs (Decidable (_ ∧ _))

@[simp] theorem run_append (step : σ → α → σ) (s : σ) (first rest : List α) :
    run step s (first ++ rest) = run step (run step s first) rest := List.foldl_append

theorem along_append {step : σ → α → σ} {Allowed : σ → α → Prop} {s : σ} {first rest : List α} :
    Along step Allowed s (first ++ rest) ↔ Along step Allowed s first ∧ Along step Allowed (run step s first) rest := by
  induction first generalizing s with
  | nil => simp [Along]
  | cons a first ih => simp [Along, ih, and_assoc]

theorem along_of_forall {step : σ → α → σ} {Allowed : σ → α → Prop} {actions : List α} (all : ∀ a ∈ actions, ∀ s, Allowed s a) (s : σ) :
    Along step Allowed s actions := by
  induction actions generalizing s with
  | nil => trivial
  | cons a actions ih =>
    exact ⟨all a List.mem_cons_self s, ih (fun a listed => all a (List.mem_cons_of_mem _ listed)) (step s a)⟩

theorem run_invariant_along {step : σ → α → σ} {Inv : σ → Prop} {Allowed : σ → α → Prop}
    (preserve : ∀ s a, Inv s → Allowed s a → Inv (step s a)) (actions : List α) (s : σ)
    (along : Along step Allowed s actions) (start : Inv s) : Inv (run step s actions) := by
  induction actions generalizing s with
  | nil => exact start
  | cons a actions ih => exact ih (step s a) along.2 (preserve s a start along.1)

/-- Where a step keeps a property exactly when it is allowed, a run never leaves the property exactly when all its
    steps are allowed. -/
theorem along_iff_kept {step : σ → α → σ} {Base Kept : σ → Prop} {Allowed : σ → α → Prop}
    (base : ∀ s a, Base s → Base (step s a)) (exact_ : ∀ s a, Base s → Kept s → (Kept (step s a) ↔ Allowed s a))
    (actions : List α) (s : σ) (start : Base s) (kept : Kept s) :
    (∀ first rest, actions = first ++ rest → Kept (run step s first)) ↔ Along step Allowed s actions := by
  induction actions generalizing s with
  | nil =>
    refine ⟨fun _ => trivial, ?_⟩
    intro _ first rest split
    rw [(List.append_eq_nil_iff.mp split.symm).1]
    exact kept
  | cons a actions ih =>
    have next := base s a start
    constructor
    · intro always
      have here : Kept (step s a) := always [a] actions rfl
      refine ⟨(exact_ s a start kept).mp here, (ih (step s a) next here).mp ?_⟩
      intro first rest split
      exact always (a :: first) rest (by rw [split]; rfl)
    · intro along first rest split
      have here : Kept (step s a) := (exact_ s a start kept).mpr along.1
      cases first with
      | nil => exact kept
      | cons b first =>
        rw [List.cons_append, List.cons.injEq] at split
        rw [← split.1]
        exact (ih (step s a) next here).mpr along.2 first rest split.2

/-- What holds of every action in the state it finds. -/
theorem along_iff_every {step : σ → α → σ} {Allowed : σ → α → Prop} {s : σ} {actions : List α} :
    Along step Allowed s actions ↔ ∀ first a rest, actions = first ++ a :: rest → Allowed (run step s first) a := by
  constructor
  · intro along first a rest split
    rw [split, along_append] at along
    exact along.2.1
  · intro every
    induction actions generalizing s with
    | nil => trivial
    | cons a actions ih =>
      refine ⟨every [] a actions rfl, ih ?_⟩
      intro first b rest split
      exact every (a :: first) b rest (by rw [split]; rfl)

/-- Where two conditions on an action mean the same in every state that a run reaches, they mean the same of the run. -/
theorem along_congr {step : σ → α → σ} {Inv : σ → Prop} {Good Allowed : σ → α → Prop}
    (same : ∀ s a, Inv s → (Good s a ↔ Allowed s a)) (preserve : ∀ s a, Inv s → Allowed s a → Inv (step s a))
    (actions : List α) (s : σ) (start : Inv s) : Along step Good s actions ↔ Along step Allowed s actions := by
  induction actions generalizing s with
  | nil => exact Iff.rfl
  | cons a actions ih =>
    constructor
    · intro along
      have allowed := (same s a start).mp along.1
      exact ⟨allowed, (ih (step s a) (preserve s a start allowed)).mp along.2⟩
    · intro along
      exact ⟨(same s a start).mpr along.1, (ih (step s a) (preserve s a start along.1)).mpr along.2⟩

end Protocol
