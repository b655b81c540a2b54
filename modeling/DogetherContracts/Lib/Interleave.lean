import DogetherContracts.Lib.Run

/-! # Interleavings

Steps carry keys, and steps with different keys commute. Then the order in which
the steps of different keys are taken does not matter: as long as each key's steps
come in the same order, the run ends in the same state, and every step of a key
returns the same. -/
namespace DogetherContracts.Run

variable {σ τ κ ω : Type*} [DecidableEq κ]

/-- Each key has the same steps, in the same order. -/
def SameByKey (key : τ → κ) (ts us : List τ) : Prop :=
  ∀ k, ts.filter (fun t => key t = k) = us.filter (fun t => key t = k)

namespace SameByKey

variable {key : τ → κ} {t u : τ} {ts us : List τ}

/-- The first step of one list is, among those of its key, the first of the other. -/
theorem split (same : SameByKey key (t :: ts) us) : ∃ us₁ us₂, us = us₁ ++ t :: us₂ ∧
    (∀ u ∈ us₁, key u ≠ key t) ∧ SameByKey key ts (us₁ ++ us₂) := by
  have own := same (key t)
  rw [List.filter_cons_of_pos (by simp)] at own
  obtain ⟨us₁, us₂, rfl, others, _, _⟩ := List.filter_eq_cons_iff.mp own.symm
  have apart : ∀ u ∈ us₁, key u ≠ key t := by simpa using others
  refine ⟨us₁, us₂, rfl, apart, ?_⟩
  intro k
  have both := same k
  by_cases mine : key t = k
  · have none_before : us₁.filter (fun u => key u = k) = [] := by
      rw [List.filter_eq_nil_iff]
      intro u member
      simpa using mine ▸ apart u member
    rw [List.filter_cons_of_pos (by simpa using mine), List.filter_append, none_before,
      List.nil_append, List.filter_cons_of_pos (by simpa using mine)] at both
    rw [List.filter_append, none_before, List.nil_append]
    exact List.tail_eq_of_cons_eq both
  · rw [List.filter_cons_of_neg (by simpa using mine), List.filter_append,
      List.filter_cons_of_neg (by simpa using mine), ← List.filter_append] at both
    exact both

theorem swap (apart : key t ≠ key u) : SameByKey key (t :: u :: ts) (u :: t :: ts) := by
  intro k
  by_cases mine : key t = k
  · have other : ¬ key u = k := fun same => apart (mine.trans same.symm)
    rw [List.filter_cons_of_pos (by simpa using mine),
      List.filter_cons_of_neg (by simpa using other),
      List.filter_cons_of_neg (by simpa using other),
      List.filter_cons_of_pos (by simpa using mine)]
  · rw [List.filter_cons_of_neg (by simpa using mine), List.filter_cons, List.filter_cons,
      List.filter_cons_of_neg (by simpa using mine)]

theorem nil_right (same : SameByKey key [] us) : us = [] := by
  cases us with
  | nil => rfl
  | cons u us =>
      have own := same (key u)
      rw [List.filter_cons_of_pos (by simp)] at own
      cases own

theorem perm (same : SameByKey key ts us) : ts.Perm us := by
  induction ts generalizing us with
  | nil => rw [same.nil_right]
  | cons t ts ih =>
      obtain ⟨us₁, us₂, rfl, _, rest⟩ := same.split
      exact ((ih rest).cons t).trans List.perm_middle.symm

end SameByKey

/-- The machine together with what each key's steps returned. -/
def logged (step : σ → τ → σ) (returns : σ → τ → ω) (key : τ → κ) (s : σ × (κ → List ω)) (t : τ) :
    σ × (κ → List ω) :=
  (step s.1 t, Function.update s.2 (key t) (s.2 (key t) ++ [returns s.1 t]))

theorem run_logged_fst (step : σ → τ → σ) (returns : σ → τ → ω) (key : τ → κ) (s : σ)
    (log : κ → List ω) (ts : List τ) :
    (run (logged step returns key) (s, log) ts).1 = run step s ts := by
  induction ts generalizing s log with
  | nil => rfl
  | cons t ts ih => exact ih _ _

/-- `Inv s ts` allows the steps `ts`, in any order, and while it holds steps of
different keys commute and do not see each other. -/
structure Independent (step : σ → τ → σ) (returns : σ → τ → ω) (key : τ → κ)
    (Inv : σ → List τ → Prop) : Prop where
  keep : ∀ {s t ts}, Inv s (t :: ts) → Inv (step s t) ts
  perm : ∀ {s ts us}, Inv s ts → ts.Perm us → Inv s us
  commute : ∀ {s t u ts}, Inv s (t :: u :: ts) → key t ≠ key u →
    step (step s t) u = step (step s u) t
  unseen : ∀ {s t u ts}, Inv s (t :: u :: ts) → key t ≠ key u →
    returns (step s t) u = returns s u

namespace Independent

variable {step : σ → τ → σ} {returns : σ → τ → ω} {key : τ → κ} {Inv : σ → List τ → Prop}
  {s : σ} (log : κ → List ω) {t u : τ} {ts us : List τ}

theorem logged_commute (ind : Independent step returns key Inv) (inv : Inv s (t :: u :: ts))
    (apart : key t ≠ key u) :
    logged step returns key (logged step returns key (s, log) t) u =
      logged step returns key (logged step returns key (s, log) u) t := by
  have swapped : Inv s (u :: t :: ts) := ind.perm inv (List.Perm.swap u t ts)
  have unseen := ind.unseen inv apart
  have unseen' := ind.unseen swapped apart.symm
  simp only [logged, Function.update_of_ne apart.symm, Function.update_of_ne apart, unseen, unseen',
    ind.commute inv apart, Function.update_comm apart]

/-- A step moves to the front past the steps of other keys. -/
theorem front (ind : Independent step returns key Inv) (inv : Inv s (us ++ t :: ts))
    (apart : ∀ u ∈ us, key u ≠ key t) :
    run (logged step returns key) (s, log) (us ++ t :: ts) =
      run (logged step returns key) (s, log) (t :: (us ++ ts)) := by
  induction us generalizing s log with
  | nil => rfl
  | cons u us ih =>
      have moved := ih (logged step returns key (s, log) u).2 (ind.keep inv)
        fun u' member => apart u' (List.mem_cons_of_mem u member)
      have first : Inv s (u :: t :: (us ++ ts)) := ind.perm inv (List.perm_middle.cons u)
      have swap := ind.logged_commute log first (apart u List.mem_cons_self)
      rw [List.cons_append, run_cons]
      refine moved.trans ?_
      rw [run_cons, run_cons, List.cons_append, run_cons]
      exact congrArg (run (logged step returns key) · (us ++ ts)) swap

/-- Runs with the same steps for each key end in the same state and have returned
the same for each key. -/
theorem interleavings_agree (ind : Independent step returns key Inv) (inv : Inv s ts)
    (same : SameByKey key ts us) :
    run (logged step returns key) (s, log) ts = run (logged step returns key) (s, log) us := by
  induction ts generalizing s log us with
  | nil => rw [same.nil_right]
  | cons t ts ih =>
      obtain ⟨us₁, us₂, rfl, apart, rest⟩ := same.split
      have other : Inv s (us₁ ++ t :: us₂) := ind.perm inv same.perm
      rw [ind.front log other apart, run_cons, run_cons]
      exact ih _ (ind.keep inv) rest

end Independent
end DogetherContracts.Run
