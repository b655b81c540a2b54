import DogetherContracts.Lib.Simulation
import DogetherContracts.Lib.Vault
import DogetherContracts.System.Reachable

/-! # The vault

Seen from an account, the three contracts are one vault: `Pool` deposits, `UnPool`
requests, `ClaimUnPool` releases, and blocks advance the time. The contracts refine
it: each of their runs is a run of the vault, with the amounts of the executed
messages. -/
namespace DogetherContracts.System
open Checked Run

variable {χ : Type} {api : Api} {out : Outside χ} {dep : Deployment api}

/-- The vault of a state: stakes, and claims with the heights they wait for. -/
def vaultOf (w : World χ) : Vault.State CanonicalAddr ℕ where
  now := w.block.height.val
  stake a := (w.staking.readHolder a).balance.val
  pending a := Staking.dues (w.staking.readClaims a)

/-- What a transaction that goes through does to the vault. -/
def txActions (sender : CanonicalAddr) (executed : List (Addr × CosmosMsg)) :
    ExecMsg → List (Vault.Action CanonicalAddr ℕ)
  | .pool .pool => [.deposit sender (amounts bondAmount executed)]
  | .pool (.unPool amount) => [.request sender amount.val]
  | .pool .claimUnPool => [.release sender (amounts burnAmount executed)]
  | _ => []

def actions (out : Outside χ) (dep : Deployment api) (w : World χ) :
    Input χ api → List (Vault.Action CanonicalAddr ℕ)
  | .transaction tx =>
    match runTx out dep w tx with
    | .ok (_, r) => txActions tx.sender.raw r.executed tx.msg
    | .error _ => []
  | .newBlock block =>
    if w.block.height ≤ block.height then [.advance block.height.val] else []
  | .outside _ => []

/-- Rewards and index updates do not touch the vault. -/
theorem vaultOf_same {w w' : World χ} (block : w'.block = w.block)
    (balance : ∀ a, (w'.staking.readHolder a).balance = (w.staking.readHolder a).balance)
    (claims : w'.staking.claims = w.staking.claims) : vaultOf w' = vaultOf w := by
  have pending : (fun a => Staking.dues (w'.staking.readClaims a)) =
      fun a => Staking.dues (w.staking.readClaims a) := by
    funext a
    rw [Staking.readClaims_same claims]
  simp only [vaultOf, block, balance, pending]

section Simulated

variable {w w' : World χ} {tx : Tx api} {executed : List (Addr × CosmosMsg)}

theorem TxEffect.enabled (effect : TxEffect out dep w tx w' executed)
    (byHeight : ∀ a, Staking.ByHeight (w.staking.readClaims a)) (period : ℕ) :
    Along (Vault.step period) Vault.Enabled (vaultOf w)
      (txActions tx.sender.raw executed tx.msg) := by
  cases effect with
  | @pooled _ _ _ _ net _ _ msg pool cw20 staking _ list =>
      have entered : amounts bondAmount executed = net.amount.val := by
        rw [list]
        simp [amounts, bondAmount]
      rw [msg, txActions, entered]
      exact ⟨staking.positive, trivial⟩
  | unPooled msg pool cw20 staking =>
      have held := staking.balance
      rw [msg, txActions]
      exact ⟨⟨staking.positive, by simp only [vaultOf]; omega⟩, trivial⟩
  | @claimed _ amount _ _ _ _ _ _ _ _ msg staking _ _ _ _ list =>
      have released : amounts burnAmount executed = amount.val := by
        rw [list]
        simp [amounts, burnAmount]
      obtain ⟨paid, _⟩ := Staking.partitionClaims_due (byHeight _) staking.partition
      rw [msg, txActions, released]
      exact ⟨⟨staking.positive, paid⟩, trivial⟩
  | redeemed msg =>
      rw [msg]
      exact trivial
  | bought msg =>
      rw [msg]
      exact trivial

theorem TxEffect.matched (effect : TxEffect out dep w tx w' executed)
    (byHeight : ∀ a, Staking.ByHeight (w.staking.readClaims a)) :
    vaultOf w' = run (Vault.step w.staking.config.unbondingPeriod.val) (vaultOf w)
      (txActions tx.sender.raw executed tx.msg) := by
  have block := effect.block
  cases effect with
  | @pooled _ _ _ _ net _ _ msg pool cw20 staking _ list =>
      have entered : amounts bondAmount executed = net.amount.val := by
        rw [list]
        simp [amounts, bondAmount]
      rw [msg, txActions, entered, run_cons, run_nil]
      refine Vault.State.ext ?_ (funext fun b => ?_) (funext fun b => ?_)
      · simp only [vaultOf, Vault.step, block]
      · by_cases own : b = tx.sender.raw
        · simp only [vaultOf, Vault.step, own, Function.update_self,
            staking.settled.readHolder_self, staking.balance]
        · simp only [vaultOf, Vault.step, Function.update_of_ne own,
            staking.settled.readHolder_other own]
      · simp only [vaultOf, Vault.step, Staking.readClaims_same staking.claims]
  | unPooled msg pool cw20 staking =>
      rw [msg, txActions, run_cons, run_nil]
      refine Vault.State.ext ?_ (funext fun b => ?_) (funext fun b => ?_)
      · simp only [vaultOf, Vault.step, block]
      · by_cases own : b = tx.sender.raw
        · have left := staking.balance
          simp only [vaultOf, Vault.step, own, Function.update_self,
            staking.settled.readHolder_self]
          omega
        · simp only [vaultOf, Vault.step, Function.update_of_ne own,
            staking.settled.readHolder_other own]
      · by_cases own : b = tx.sender.raw
        · simp only [vaultOf, Vault.step, own, Function.update_self, staking.readClaims_self,
            Staking.dues_snoc, staking.matures]
        · simp only [vaultOf, Vault.step, Function.update_of_ne own, staking.readClaims_other own]
  | claimed msg staking =>
      obtain ⟨_, left, _⟩ := Staking.partitionClaims_due (byHeight _) staking.partition
      have holders : w'.staking.holders = w.staking.holders := by rw [staking.rest]
      rw [msg, txActions, run_cons, run_nil]
      refine Vault.State.ext ?_ (funext fun b => ?_) (funext fun b => ?_)
      · simp only [vaultOf, Vault.step, block]
      · simp only [vaultOf, Vault.step, Staking.Storage.readHolder, holders]
      · by_cases own : b = tx.sender.raw
        · simp only [vaultOf, Vault.step, own, Function.update_self, staking.readClaims_self, left]
        · simp only [vaultOf, Vault.step, Function.update_of_ne own, staking.readClaims_other own]
  | redeemed msg pool cw20 staking =>
      rw [msg]
      exact vaultOf_same block (fun a => by rw [staking.readHolder]) staking.claims
  | bought msg pool cw20 staking =>
      rw [msg]
      exact vaultOf_same block staking.balance_kept staking.claims

end Simulated

/-- Between transactions, with the unbonding period of the deployment. -/
structure Running (out : Outside χ) (dep : Deployment api) (period : ℕ) (w : World χ) : Prop where
  reachable : Reachable out dep w
  unbonding : w.staking.config.unbondingPeriod.val = period

theorem Stepped.config {w w' : World χ} {input : Input χ api}
    (stepped : Stepped out dep w input w') : w'.staking.config = w.staking.config := by
  cases stepped with
  | refused _ => rfl
  | done _ effect => exact effect.config
  | newBlock _ => rfl
  | oldBlock => rfl
  | outside _ => rfl

theorem Running.step {period : ℕ} {w : World χ} (running : Running out dep period w)
    (input : Input χ api) : Running out dep period (System.step out dep w input) where
  reachable := running.reachable.step input
  unbonding := by
    rw [(running.reachable.stepped input).config]
    exact running.unbonding

/-- Each step is the vault's actions in it; refusals, rewards and tickets are none. -/
theorem simulation (out : Outside χ) (dep : Deployment api) (period : ℕ) :
    Simulation (step out dep) (Vault.step period) Vault.Enabled (Running out dep period) vaultOf
      (actions out dep) where
  keep running input := running.step input
  enabled := by
    intro w running input
    cases input with
    | transaction tx =>
        cases ran : runTx out dep w tx with
        | ok result =>
            simp only [actions, ran]
            exact (runTx_effect running.reachable.wired ran).enabled running.reachable.byHeight _
        | error e =>
            simp only [actions, ran]
            exact trivial
    | newBlock block =>
        rw [actions]
        split
        · next later => exact ⟨later, trivial⟩
        · exact trivial
    | outside x => exact trivial
  matched := by
    intro w running input
    cases input with
    | transaction tx =>
        cases ran : runTx out dep w tx with
        | ok result =>
            have matched := (runTx_effect running.reachable.wired ran).matched
              running.reachable.byHeight
            simp only [actions, step, ran]
            rw [matched, running.unbonding]
        | error e =>
            simp only [actions, step, ran, run_nil]
    | newBlock block =>
        rw [actions, step]
        split
        · rfl
        · rfl
    | outside x => rfl

theorem Deployed.vault {msg : Pool.InstantiateMsg} {m : Cw20.InstantiateMsg} {block : BlockInfo}
    {x : χ} {w : World χ} (d : Deployed dep msg m block x w) :
    vaultOf w = Vault.empty block.height.val := by
  obtain ⟨loterra, staking⟩ := d.staking
  refine Vault.State.ext ?_ (funext fun b => ?_) (funext fun b => ?_)
  · simp only [vaultOf, Vault.empty, d.block]
  · simp only [vaultOf, staking]
    rfl
  · simp only [vaultOf, staking]
    rfl

theorem Running.deployed {deployer : Account api} {msg : Pool.InstantiateMsg}
    {m : Cw20.InstantiateMsg} {block : BlockInfo} {x : χ} {w : World χ}
    (token : msg.messageCw20 = .cw20 m) (empty : m.initialBalances = [])
    (done : deploy out dep deployer msg block x = .ok w) :
    Running out dep msg.unbondingPeriod.val w where
  reachable := .deployed token empty done
  unbonding := by
    obtain ⟨loterra, staking⟩ := (deploy_ok token done).staking
    rw [staking]
    rfl

theorem Reachable.running {w : World χ} (reachable : Reachable out dep w) :
    Running out dep w.staking.config.unbondingPeriod.val w := ⟨reachable, rfl⟩

/-- No claim waits for longer than the unbonding period. -/
theorem Reachable.timely {w : World χ} (reachable : Reachable out dep w) :
    Vault.Timely w.staking.config.unbondingPeriod.val (vaultOf w) := by
  obtain ⟨deployer, msg, m, block, x, w₀, inputs, token, empty, done, rfl⟩ := reachable
  have sim := simulation out dep msg.unbondingPeriod.val
  have running : Running out dep msg.unbondingPeriod.val w₀ := .deployed token empty done
  have period := (run_invariant (Running out dep msg.unbondingPeriod.val) running
    (fun _ input running => running.step input) inputs).unbonding
  rw [period]
  refine sim.transfer (Vault.Timely msg.unbondingPeriod.val) running ?_ ?_ inputs
  · rw [(deploy_ok token done).vault]
    exact Vault.timely_empty _ _
  · intro v u timely enabled
    exact timely.step enabled

/-- Any run of the three contracts is a run of the vault, from the empty vault and
over enabled actions only, and with the vault nothing waits for longer than the
period. -/
theorem system_refines_vault {deployer : Account api} {msg : Pool.InstantiateMsg}
    {m : Cw20.InstantiateMsg} {block : BlockInfo} {x : χ} {w : World χ}
    (token : msg.messageCw20 = .cw20 m) (empty : m.initialBalances = [])
    (deployed : deploy out dep deployer msg block x = .ok w) (inputs : List (Input χ api)) :
    let period := msg.unbondingPeriod.val
    let start := Vault.empty block.height.val
    let acts := trace (step out dep) (actions out dep) w inputs
    let w' := run (step out dep) w inputs
    Along (Vault.step period) Vault.Enabled start acts ∧
      vaultOf w' = run (Vault.step period) start acts ∧ Vault.Timely period (vaultOf w') := by
  intro period start acts w'
  have sim := simulation out dep period
  have running : Running out dep period w := .deployed token empty deployed
  have begin : vaultOf w = start := (deploy_ok token deployed).vault
  obtain ⟨along, same⟩ := sim.run_matched running inputs
  rw [begin] at along same
  have reachable : Reachable out dep w' := running.reachable.run inputs
  have unbonding := (run_invariant (Running out dep period) running
    (fun _ input running => running.step input) inputs).unbonding
  refine ⟨along, same, ?_⟩
  rw [← unbonding]
  exact reachable.timely

theorem sample_refines : ∃ w, Sample.start = .ok w ∧
    let acts := trace (step Sample.out Sample.dep) (actions Sample.out Sample.dep) w Sample.inputs
    acts.length = 5 ∧ Along (Vault.step 100) Vault.Enabled (Vault.empty 1000) acts := by
  obtain ⟨w, deployed, length⟩ : ∃ w, Sample.start = .ok w ∧ (trace (step Sample.out Sample.dep)
      (actions Sample.out Sample.dep) w Sample.inputs).length = 5 := by
    decide +kernel
  obtain ⟨along, _⟩ := system_refines_vault rfl rfl deployed Sample.inputs
  exact ⟨w, deployed, length, along⟩

end DogetherContracts.System
