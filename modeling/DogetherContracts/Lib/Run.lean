import Mathlib

/-! # Runs of a total step function

A machine is a step function `σ → τ → σ`: a rejected input leaves the state as
it was. A run folds a list of inputs. Beside the state a run may carry a
history, computed from the states and inputs it passes through; a tally is the
history that adds up one number per step. -/
namespace DogetherContracts.Run

variable {σ τ γ : Type*}

def run (step : σ → τ → σ) (s : σ) (ts : List τ) : σ := ts.foldl step s

@[simp] theorem run_nil (step : σ → τ → σ) (s : σ) : run step s [] = s := rfl

@[simp] theorem run_cons (step : σ → τ → σ) (s : σ) (t : τ) (ts : List τ) :
    run step s (t :: ts) = run step (step s t) ts := rfl

theorem run_append (step : σ → τ → σ) (s : σ) (ts us : List τ) :
    run step s (ts ++ us) = run step (run step s ts) us := List.foldl_append

@[simp] theorem run_snoc (step : σ → τ → σ) (s : σ) (ts : List τ) (t : τ) :
    run step s (ts ++ [t]) = step (run step s ts) t := by
  rw [run_append]
  rfl

/-- The history of a run: `note` sees the old history, the state before the
step and the step's input. -/
def history (step : σ → τ → σ) (note : γ → σ → τ → γ) : γ → σ → List τ → γ
  | g, _, [] => g
  | g, s, t :: ts => history step note (note g s t) (step s t) ts

@[simp] theorem history_nil (step : σ → τ → σ) (note : γ → σ → τ → γ) (g : γ) (s : σ) :
    history step note g s [] = g := rfl

@[simp] theorem history_snoc (step : σ → τ → σ) (note : γ → σ → τ → γ) (g : γ) (s : σ)
    (ts : List τ) (t : τ) :
    history step note g s (ts ++ [t]) = note (history step note g s ts) (run step s ts) t := by
  induction ts generalizing g s with
  | nil => rfl
  | cons u us ih => exact ih (note g s u) (step s u)

/-- The sum of one number per step of a run. -/
def tally (step : σ → τ → σ) (weight : σ → τ → ℕ) (s : σ) (ts : List τ) : ℕ :=
  history step (fun n s t => n + weight s t) 0 s ts

@[simp] theorem tally_nil (step : σ → τ → σ) (weight : σ → τ → ℕ) (s : σ) :
    tally step weight s [] = 0 := rfl

@[simp] theorem tally_snoc (step : σ → τ → σ) (weight : σ → τ → ℕ) (s : σ) (ts : List τ) (t : τ) :
    tally step weight s (ts ++ [t]) = tally step weight s ts + weight (run step s ts) t :=
  history_snoc step _ 0 s ts t

/-- Every step of the run meets `P`. -/
def Along (step : σ → τ → σ) (P : σ → τ → Prop) : σ → List τ → Prop
  | _, [] => True
  | s, t :: ts => P s t ∧ Along step P (step s t) ts

instance (step : σ → τ → σ) (P : σ → τ → Prop) [∀ s t, Decidable (P s t)] :
    (s : σ) → (ts : List τ) → Decidable (Along step P s ts)
  | _, [] => .isTrue trivial
  | s, t :: ts =>
    have := instDecidableAlong step P (step s t) ts
    inferInstanceAs (Decidable (_ ∧ _))

theorem along_snoc {step : σ → τ → σ} {P : σ → τ → Prop} {s : σ} {ts : List τ} {t : τ} :
    Along step P s (ts ++ [t]) ↔ Along step P s ts ∧ P (run step s ts) t := by
  induction ts generalizing s with
  | nil =>
      constructor
      · intro h
        exact ⟨trivial, h.1⟩
      · intro h
        exact ⟨h.2, trivial⟩
  | cons u us ih =>
      rw [List.cons_append, Along, ih, Along, run_cons, and_assoc]

theorem along_forall {κ : Type*} {step : σ → τ → σ} {P : κ → σ → τ → Prop} {s : σ} {ts : List τ} :
    Along step (fun s t => ∀ k, P k s t) s ts ↔ ∀ k, Along step (P k) s ts := by
  induction ts generalizing s with
  | nil =>
      constructor
      · intro _ _
        exact trivial
      · intro _
        exact trivial
  | cons t ts ih =>
      simp only [Along, ih]
      exact forall_and.symm

/-- What holds of every step holds of the steps of a run. -/
theorem along_of_forall {step : σ → τ → σ} {P : σ → τ → Prop} (h : ∀ s t, P s t) (s : σ)
    (ts : List τ) : Along step P s ts := by
  induction ts generalizing s with
  | nil => exact trivial
  | cons t ts ih => exact ⟨h s t, ih (step s t)⟩

/-- Nothing was added up exactly when no step added anything. -/
theorem tally_eq_zero_iff {step : σ → τ → σ} {weight : σ → τ → ℕ} {s : σ} {ts : List τ} :
    tally step weight s ts = 0 ↔ Along step (fun s t => weight s t = 0) s ts := by
  induction ts using List.reverseRecOn with
  | nil => exact iff_of_true rfl trivial
  | append_singleton ts t ih => rw [tally_snoc, Nat.add_eq_zero_iff, ih, along_snoc]

/-- An invariant of every step that meets `P` is an invariant of every run
whose steps meet `P`; the history is carried along. -/
theorem along_rule {step : σ → τ → σ} {note : γ → σ → τ → γ} {P : σ → τ → Prop}
    (Inv : σ → γ → Prop) {s : σ} {g : γ} (start : Inv s g)
    (keep : ∀ s g t, Inv s g → P s t → Inv (step s t) (note g s t))
    {ts : List τ} (along : Along step P s ts) :
    Inv (run step s ts) (history step note g s ts) := by
  induction ts generalizing s g with
  | nil => exact start
  | cons t ts ih => exact ih (keep s g t start along.1) along.2

/-- The same rule when every step keeps the invariant. -/
theorem run_rule {step : σ → τ → σ} {note : γ → σ → τ → γ} (Inv : σ → γ → Prop) {s : σ} {g : γ}
    (start : Inv s g) (keep : ∀ s g t, Inv s g → Inv (step s t) (note g s t)) (ts : List τ) :
    Inv (run step s ts) (history step note g s ts) := by
  induction ts generalizing s g with
  | nil => exact start
  | cons t ts ih => exact ih (keep s g t start)

/-- An invariant of the states alone. -/
theorem run_invariant {step : σ → τ → σ} (Inv : σ → Prop) {s : σ} (start : Inv s)
    (keep : ∀ s t, Inv s → Inv (step s t)) (ts : List τ) : Inv (run step s ts) := by
  induction ts generalizing s with
  | nil => exact start
  | cons t ts ih => exact ih (keep s t start)

/-- The same for runs whose steps all meet `P`. -/
theorem along_invariant {step : σ → τ → σ} {P : σ → τ → Prop} (Inv : σ → Prop) {s : σ}
    (start : Inv s) (keep : ∀ s t, Inv s → P s t → Inv (step s t)) {ts : List τ}
    (along : Along step P s ts) : Inv (run step s ts) := by
  induction ts generalizing s with
  | nil => exact start
  | cons t ts ih => exact ih (keep s t start along.1) along.2

end DogetherContracts.Run
