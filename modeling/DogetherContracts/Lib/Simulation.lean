import DogetherContracts.Lib.Run

/-! # Simulation by an abstraction function

Every step of a machine is a sequence of enabled actions of a more abstract one.
Then every run is a run of the abstract machine, and whatever enabled actions
preserve holds of every state reached. -/
namespace DogetherContracts.Run

variable {σ τ ς υ : Type*}

theorem along_append {step : ς → υ → ς} {P : ς → υ → Prop} {v : ς} {us us' : List υ} :
    Along step P v (us ++ us') ↔ Along step P v us ∧ Along step P (run step v us) us' := by
  induction us generalizing v with
  | nil => exact (and_iff_right trivial).symm
  | cons u us ih =>
      rw [List.cons_append, Along, Along, ih, run_cons, and_assoc]

/-- The actions of a run, step by step. -/
def trace (step : σ → τ → σ) (acts : σ → τ → List υ) (s : σ) (ts : List τ) : List υ :=
  history step (fun us s t => us ++ acts s t) [] s ts

@[simp] theorem trace_nil (step : σ → τ → σ) (acts : σ → τ → List υ) (s : σ) :
    trace step acts s [] = [] := rfl

@[simp] theorem trace_snoc (step : σ → τ → σ) (acts : σ → τ → List υ) (s : σ) (ts : List τ)
    (t : τ) : trace step acts s (ts ++ [t]) = trace step acts s ts ++ acts (run step s ts) t :=
  history_snoc step _ [] s ts t

/-- Every action of a run is an action of one of its steps. -/
theorem mem_trace {step : σ → τ → σ} {acts : σ → τ → List υ} {s : σ} {ts : List τ} {u : υ}
    (member : u ∈ trace step acts s ts) : ∃ s', ∃ t ∈ ts, u ∈ acts s' t := by
  induction ts using List.reverseRecOn with
  | nil => cases member
  | append_singleton ts t ih =>
      rw [trace_snoc] at member
      rcases List.mem_append.mp member with before | last
      · obtain ⟨s', t', listed, acted⟩ := ih before
        exact ⟨s', t', List.mem_append_left _ listed, acted⟩
      · exact ⟨_, t, List.mem_append_right _ (List.mem_singleton.mpr rfl), last⟩

/-- Where `Inv` holds, a step is the enabled actions that `acts` assigns to it. -/
structure Simulation (step : σ → τ → σ) (astep : ς → υ → ς) (Enabled : ς → υ → Prop)
    (Inv : σ → Prop) (abs : σ → ς) (acts : σ → τ → List υ) : Prop where
  keep : ∀ {s}, Inv s → ∀ t, Inv (step s t)
  enabled : ∀ {s}, Inv s → ∀ t, Along astep Enabled (abs s) (acts s t)
  matched : ∀ {s}, Inv s → ∀ t, abs (step s t) = run astep (abs s) (acts s t)

namespace Simulation

variable {step : σ → τ → σ} {astep : ς → υ → ς} {Enabled : ς → υ → Prop} {Inv : σ → Prop}
  {abs : σ → ς} {acts : σ → τ → List υ}

/-- A run is a run of the abstract machine, over enabled actions only. -/
theorem run_matched (sim : Simulation step astep Enabled Inv abs acts) {s : σ} (start : Inv s)
    (ts : List τ) : Along astep Enabled (abs s) (trace step acts s ts) ∧
      abs (run step s ts) = run astep (abs s) (trace step acts s ts) := by
  induction ts using List.reverseRecOn with
  | nil => exact ⟨trivial, rfl⟩
  | append_singleton ts t ih =>
      obtain ⟨along, same⟩ := ih
      have reached : Inv (run step s ts) :=
        run_invariant Inv start (fun _ t inv => sim.keep inv t) ts
      rw [trace_snoc, along_append, run_snoc, run_append, ← same]
      exact ⟨⟨along, sim.enabled reached t⟩, sim.matched reached t⟩

/-- What enabled actions preserve holds of the abstraction of every state reached. -/
theorem transfer (sim : Simulation step astep Enabled Inv abs acts) (AInv : ς → Prop) {s : σ}
    (start : Inv s) (begin : AInv (abs s))
    (preserved : ∀ v u, AInv v → Enabled v u → AInv (astep v u)) (ts : List τ) :
    AInv (abs (run step s ts)) := by
  obtain ⟨along, same⟩ := sim.run_matched start ts
  rw [same]
  exact along_invariant AInv begin preserved along

end Simulation
end DogetherContracts.Run
