import DogetherContracts.Cw20.Supply
import DogetherContracts.System.Deployed
import DogetherContracts.System.Transactions

/-! # Steps of a deployed system

The contracts stay wired, and so every step is one of a few: a transaction that
was refused or had one of the five effects, a new block, or a change outside. -/
namespace DogetherContracts.System
open Checked

variable {χ : Type} {api : Api} {out : Outside χ} {dep : Deployment api}

/-- Tokens move only on the balance of the staking contract. -/
theorem Wired.holder_kept {w w' : World χ} (wired : Wired dep w) {balance : Uint128}
    (h : w'.cw20.balances = w.cw20.balances.insert dep.staking.addr balance) :
    ∀ a, a ≠ dep.staking.addr → (w'.cw20.balanceOf a).val = 0 := by
  intro a ne
  rw [Cw20.balanceOf_insert_ne h ne]
  exact wired.holder a ne

/-- Wiring is about configurations and the token alone. -/
theorem Wired.of_same {w w' : World χ} (wired : Wired dep w)
    (stakingAddress : w'.pool.state.stakingAddress = w.pool.state.stakingAddress)
    (cw20Address : w'.pool.state.cw20Address = w.pool.state.cw20Address)
    (cw20 : w'.cw20 = w.cw20) (config : w'.staking.config = w.staking.config) : Wired dep w' where
  stakingAddress := stakingAddress.trans wired.stakingAddress
  cw20Address := cw20Address.trans wired.cw20Address
  minter := by rw [cw20]; exact wired.minter
  admin := by rw [config]; exact wired.admin
  token := by rw [config]; exact wired.token
  holder := by rw [cw20]; exact wired.holder

theorem TxEffect.wired {w w' : World χ} {tx : Tx api} {executed : List (Addr × CosmosMsg)}
    (effect : TxEffect out dep w tx w' executed) (wired : Wired dep w) : Wired dep w' := by
  cases effect with
  | pooled msg pool cw20 staking block list =>
      obtain ⟨balance, _, inserted⟩ := cw20.balances
      exact {
        stakingAddress := by rw [pool.rest]; exact wired.stakingAddress
        cw20Address := by rw [pool.rest]; exact wired.cw20Address
        minter := by rw [cw20.mint]; exact wired.minter
        admin := by rw [staking.settled.config]; exact wired.admin
        token := by rw [staking.settled.config]; exact wired.token
        holder := wired.holder_kept inserted }
  | unPooled msg pool cw20 staking block list =>
      exact wired.of_same (by rw [pool]) (by rw [pool]) cw20 staking.settled.config
  | claimed msg staking cw20 pool before block list =>
      obtain ⟨balance, _, inserted⟩ := cw20.balances
      exact {
        stakingAddress := by rw [pool.rest]; exact wired.stakingAddress
        cw20Address := by rw [pool.rest]; exact wired.cw20Address
        minter := by rw [cw20.mint]; exact wired.minter
        admin := by rw [staking.rest]; exact wired.admin
        token := by rw [staking.rest]; exact wired.token
        holder := wired.holder_kept inserted }
  | redeemed msg pool cw20 staking before block list =>
      exact wired.of_same (by rw [pool.rest]) (by rw [pool.rest]) cw20 staking.config
  | bought msg pool cw20 staking block list =>
      exact wired.of_same (by rw [pool]) (by rw [pool]) cw20 staking.settled.config

theorem Deployed.wired {msg : Pool.InstantiateMsg} {m : Cw20.InstantiateMsg} {block : BlockInfo}
    {x : χ} {w : World χ} (d : Deployed dep msg m block x w) (empty : m.initialBalances = []) :
    Wired dep w := by
  obtain ⟨res, created⟩ := d.cw20
  obtain ⟨mint, _, nothing⟩ := Cw20.instantiate_empty empty created
  obtain ⟨loterra, staking⟩ := d.staking
  exact {
    stakingAddress := d.stakingAddress
    cw20Address := d.cw20Address
    minter := by rw [mint]; rfl
    admin := by rw [staking]; rfl
    token := by rw [staking]; rfl
    holder := fun a _ => by rw [Cw20.Storage.balanceOf, nothing]; rfl }

inductive Stepped (out : Outside χ) (dep : Deployment api) (w : World χ) :
    Input χ api → World χ → Prop
  | refused {tx : Tx api} {e : Fault} (failed : runTx out dep w tx = .error e) :
      Stepped out dep w (.transaction tx) w
  | done {tx : Tx api} {w' : World χ} {r : Receipt} (ran : runTx out dep w tx = .ok (w', r))
      (effect : TxEffect out dep w tx w' r.executed) : Stepped out dep w (.transaction tx) w'
  | newBlock {block : BlockInfo} (later : w.block.height ≤ block.height) :
      Stepped out dep w (.newBlock block) { w with block }
  | oldBlock {block : BlockInfo} : Stepped out dep w (.newBlock block) w
  | outside (x : χ) : Stepped out dep w (.outside x) { w with outside := x }

theorem step_stepped {w : World χ} (wired : Wired dep w) (input : Input χ api) :
    Stepped out dep w input (step out dep w input) := by
  cases input with
  | transaction tx =>
      cases ran : runTx out dep w tx with
      | ok result =>
          simp only [step, ran]
          exact .done ran (runTx_effect wired ran)
      | error e =>
          simp only [step, ran]
          exact .refused ran
  | newBlock block =>
      rw [step]
      split
      · next later => exact .newBlock later
      · exact .oldBlock
  | outside x => exact .outside x

theorem Stepped.wired {w w' : World χ} {input : Input χ api} (s : Stepped out dep w input w')
    (wired : Wired dep w) : Wired dep w' := by
  cases s with
  | refused _ => exact wired
  | done _ effect => exact effect.wired wired
  | newBlock _ => exact wired.of_same rfl rfl rfl rfl
  | oldBlock => exact wired
  | outside x => exact wired.of_same rfl rfl rfl rfl

end DogetherContracts.System
