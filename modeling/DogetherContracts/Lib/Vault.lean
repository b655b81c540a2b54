import DogetherContracts.Lib.Run
import DogetherContracts.Lib.TimeLock

/-! # Vaults

Accounts deposit amounts, request parts of their stake back, and get what they
requested once a fixed period has passed. A release carries the amount it pays. -/
namespace DogetherContracts.Vault
open Run TimeLock

variable {α T : Type*}

@[ext] structure State (α T : Type*) where
  now : T
  stake : α → ℕ
  pending : α → List (T × ℕ)

inductive Action (α T : Type*) where
  | deposit (a : α) (amount : ℕ)
  | request (a : α) (amount : ℕ)
  | release (a : α) (amount : ℕ)
  | advance (now : T)

/-- The account an action is about. -/
def Action.subject : Action α T → Option α
  | .deposit a _ | .request a _ | .release a _ => some a
  | .advance _ => none

def empty (now : T) : State α T := ⟨now, fun _ => 0, fun _ => []⟩

/-- All that an account has in the vault. -/
def State.holdings (v : State α T) (a : α) : ℕ := v.stake a + total (v.pending a)

variable [LinearOrder T] [Add T]

/-- What is due. -/
def State.matured (v : State α T) (a : α) : ℕ := upTo v.now (v.pending a)

def Enabled (v : State α T) : Action α T → Prop
  | .deposit _ amount => 0 < amount
  | .request a amount => 0 < amount ∧ amount ≤ v.stake a
  | .release a amount => 0 < amount ∧ amount = v.matured a
  | .advance now => v.now ≤ now

/-- Nothing waits for longer than the period. -/
def Timely (period : T) (v : State α T) : Prop := ∀ a, ∀ e ∈ v.pending a, e.1 ≤ v.now + period

theorem timely_empty (period now : T) : Timely period (empty (α := α) now) := by
  intro a e member
  cases member

variable [DecidableEq α]

def step (period : T) (v : State α T) : Action α T → State α T
  | .deposit a amount => { v with stake := Function.update v.stake a (v.stake a + amount) }
  | .request a amount =>
    { v with
      stake := Function.update v.stake a (v.stake a - amount)
      pending := Function.update v.pending a (v.pending a ++ [(v.now + period, amount)]) }
  | .release a _ => { v with pending := Function.update v.pending a (after v.now (v.pending a)) }
  | .advance now => { v with now }

variable {period : T} {v : State α T} {a : α}

theorem Timely.step [AddRightMono T] (timely : Timely period v) {u : Action α T}
    (enabled : Enabled v u) : Timely period (step period v u) := by
  intro b e member
  cases u with
  | deposit a amount => exact timely b e member
  | request a amount =>
      simp only [Vault.step, Function.update_apply] at member ⊢
      split at member
      · next same =>
        rcases List.mem_append.mp member with old | new
        · exact timely a e old
        · rw [List.mem_singleton.mp new]
      · exact timely b e member
  | release a amount =>
      simp only [Vault.step, Function.update_apply] at member ⊢
      split at member
      · exact timely a e (List.mem_filter.mp member).1
      · exact timely b e member
  | advance now =>
      have later : v.now + period ≤ now + period := add_le_add_left enabled period
      exact (timely b e member).trans later

/-- An action about another account leaves an account alone. -/
theorem step_other (period : T) {u : Action α T} (other : u.subject ≠ some a) :
    (step period v u).stake a = v.stake a ∧ (step period v u).pending a = v.pending a := by
  cases u with
  | deposit b amount =>
      have ne : a ≠ b := fun same => other (congrArg some same.symm)
      exact ⟨Function.update_of_ne ne _ _, rfl⟩
  | request b amount =>
      have ne : a ≠ b := fun same => other (congrArg some same.symm)
      exact ⟨Function.update_of_ne ne _ _, Function.update_of_ne ne _ _⟩
  | release b amount =>
      have ne : a ≠ b := fun same => other (congrArg some same.symm)
      exact ⟨rfl, Function.update_of_ne ne _ _⟩
  | advance now => exact ⟨rfl, rfl⟩

theorem run_other (period : T) {us : List (Action α T)} (others : ∀ u ∈ us, u.subject ≠ some a) :
    (run (step period) v us).stake a = v.stake a ∧
      (run (step period) v us).pending a = v.pending a := by
  induction us generalizing v with
  | nil => exact ⟨rfl, rfl⟩
  | cons u us ih =>
      obtain ⟨stake, pending⟩ := step_other period (v := v) (others u List.mem_cons_self)
      obtain ⟨stake', pending'⟩ := ih (v := step period v u)
        fun u' member => others u' (List.mem_cons_of_mem u member)
      rw [run_cons, stake', pending', stake, pending]
      exact ⟨rfl, rfl⟩

/-! What goes in and out of one account. -/

def paidIn (a : α) : Action α T → ℕ
  | .deposit b amount => if b = a then amount else 0
  | .request _ _ | .release _ _ | .advance _ => 0

def paidOut (a : α) : Action α T → ℕ
  | .release b amount => if b = a then amount else 0
  | .deposit _ _ | .request _ _ | .advance _ => 0

theorem step_conserved (period : T) {u : Action α T} (enabled : Enabled v u) (a : α) :
    (step period v u).holdings a + paidOut a u = v.holdings a + paidIn a u := by
  cases u with
  | deposit b amount =>
      by_cases own : b = a
      · subst own
        simp only [step, State.holdings, Function.update_self, paidIn, paidOut, if_true]
        omega
      · simp only [step, State.holdings, Function.update_of_ne (Ne.symm own), paidIn, paidOut,
          if_neg own]
  | request b amount =>
      have held := enabled.2
      by_cases own : b = a
      · subst own
        simp only [step, State.holdings, Function.update_self, paidIn, paidOut, total_snoc]
        omega
      · simp only [step, State.holdings, Function.update_of_ne (Ne.symm own), paidIn, paidOut]
  | release b amount =>
      have due := enabled.2
      by_cases own : b = a
      · subst own
        have split := upTo_add_after v.now (v.pending b)
        simp only [State.matured] at due
        simp only [step, State.holdings, Function.update_self, paidIn, paidOut, if_true]
        omega
      · simp only [step, State.holdings, Function.update_of_ne (Ne.symm own), paidIn, paidOut,
          if_neg own]
  | advance now => rfl

/-- Over a run an account has what went in less what went out. -/
theorem conserved (period : T) {us : List (Action α T)}
    (enabled : Along (step period) Enabled v us) (a : α) :
    (run (step period) v us).holdings a + (us.map (paidOut a)).sum =
      v.holdings a + (us.map (paidIn a)).sum := by
  induction us generalizing v with
  | nil => rfl
  | cons u us ih =>
      have first := step_conserved period enabled.1 a
      have rest := ih enabled.2
      simp only [run_cons, List.map_cons, List.sum_cons]
      omega

/-- An account that requests all of its stake has requested all it has. -/
theorem request_all (period : T) : (step period v (.request a (v.stake a))).stake a = 0 ∧
    (step period v (.request a (v.stake a))).pending a =
      v.pending a ++ [(v.now + period, v.stake a)] := by
  simp only [step, Function.update_self, Nat.sub_self, and_self]

/-- Whatever others do meanwhile, one period after its request everything an account
had is due, and its release leaves nothing. -/
theorem exit {us : List (Action α T)} (timely : Timely period v)
    (others : ∀ u ∈ us, u.subject ≠ some a)
    (passed : v.now + period ≤
      (run (step period) (step period v (.request a (v.stake a))) us).now) :
    let left := run (step period) (step period v (.request a (v.stake a))) us
    left.matured a = v.holdings a ∧
      (step period left (.release a (v.holdings a))).holdings a = 0 := by
  intro left
  obtain ⟨stake, pending⟩ := run_other period (v := step period v (.request a (v.stake a))) others
  obtain ⟨nothing, all⟩ := request_all period (v := v) (a := a)
  rw [nothing] at stake
  rw [all] at pending
  have due : ∀ e ∈ left.pending a, e.1 ≤ left.now := by
    intro e member
    rw [pending] at member
    rcases List.mem_append.mp member with old | new
    · exact (timely a e old).trans passed
    · rw [List.mem_singleton.mp new]
      exact passed
  have everything : upTo left.now (left.pending a) = v.holdings a := by
    rw [upTo_of_le due, pending, total_snoc, State.holdings, Nat.add_comm]
  have none_after : after left.now (left.pending a) = [] := by
    rw [after, List.filter_eq_nil_iff]
    intro e member
    simpa using due e member
  refine ⟨everything, ?_⟩
  simp only [step, State.holdings, Function.update_self, none_after, total_nil, Nat.add_zero]
  exact stake

end DogetherContracts.Vault
