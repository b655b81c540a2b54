import DogetherContracts.Lib.Run
import DogetherContracts.Staking.Claims
import DogetherContracts.Staking.Solvency
import DogetherContracts.System.Steps

/-! # Backing

The principal in the pool, the stake with the waiting claims, the token supply and
the tokens of the staking contract are one number, in every state between
transactions. -/
namespace DogetherContracts.System
open Checked Run

variable {χ : Type} {api : Api} {out : Outside χ} {dep : Deployment api}

structure Backing (dep : Deployment api) (w : World χ) : Prop where
  wired : Wired dep w
  solvent : ∃ dust, Staking.Solvent w.staking dust
  pool : w.pool.state.totalUstPool.val =
    w.staking.state.totalBalance.val + w.staking.claimsTotal
  supply : w.cw20.tokenInfo.totalSupply.val = w.pool.state.totalUstPool.val
  held : (w.cw20.balanceOf dep.staking.addr).val = w.pool.state.totalUstPool.val

theorem TxEffect.backing {w w' : World χ} {tx : Tx api} {executed : List (Addr × CosmosMsg)}
    (effect : TxEffect out dep w tx w' executed) (b : Backing dep w) : Backing dep w' := by
  have wired := effect.wired b.wired
  obtain ⟨dust, solvent⟩ := b.solvent
  have total := b.pool
  have supply := b.supply
  have held := b.held
  cases effect with
  | pooled msg pool cw20 staking block list =>
      obtain ⟨balance, raised, inserted⟩ := cw20.balances
      have claims := Staking.claimsTotal_same staking.claims
      have minted := cw20.supply
      have added := pool.total
      have bonded := staking.total
      simp only at bonded
      refine ⟨wired, ⟨dust, staking.solvent solvent⟩, by omega, by omega, ?_⟩
      rw [Cw20.balanceOf_insert_eq inserted]
      omega
  | unPooled msg pool cw20 staking block list =>
      have claims := staking.claimsTotal
      have unbonded := staking.total
      refine ⟨wired, ⟨dust, staking.solvent solvent⟩, ?_, ?_, ?_⟩
      · rw [pool]
        omega
      · rw [pool, cw20]
        exact supply
      · rw [pool, cw20]
        exact held
  | claimed msg staking cw20 pool before block list =>
      obtain ⟨balance, lowered, inserted⟩ := cw20.balances
      have claims := staking.claimsTotal
      have burned := cw20.supply
      have removed := pool.total
      have same : w'.staking.state = w.staking.state := by rw [staking.rest]
      simp only at lowered
      refine ⟨wired, ⟨dust, staking.solvent solvent⟩, ?_, by omega, ?_⟩
      · rw [same]
        omega
      · rw [Cw20.balanceOf_insert_eq inserted]
        omega
  | redeemed msg pool cw20 staking before block list =>
      have claims := Staking.claimsTotal_same staking.claims
      refine ⟨wired, ⟨_, staking.solvent solvent⟩, ?_, ?_, ?_⟩
      · rw [pool.total, staking.total, claims]
        exact total
      · rw [pool.total, cw20]
        exact supply
      · rw [pool.total, cw20]
        exact held
  | bought msg pool cw20 staking block list =>
      have claims := Staking.claimsTotal_same staking.claims
      refine ⟨wired, ⟨_, staking.solvent solvent⟩, ?_, ?_, ?_⟩
      · rw [pool, staking.total, claims]
        exact total
      · rw [pool, cw20]
        exact supply
      · rw [pool, cw20]
        exact held

theorem step_backing (w : World χ) (input : Input χ api) (b : Backing dep w) :
    Backing dep (step out dep w input) := by
  have stepped : Stepped out dep w input (step out dep w input) := step_stepped b.wired input
  have wired := stepped.wired b.wired
  generalize step out dep w input = w' at stepped wired
  cases stepped with
  | refused _ => exact b
  | done _ effect => exact effect.backing b
  | newBlock _ => exact ⟨wired, b.solvent, b.pool, b.supply, b.held⟩
  | oldBlock => exact b
  | outside x => exact ⟨wired, b.solvent, b.pool, b.supply, b.held⟩

theorem Deployed.backing {msg : Pool.InstantiateMsg} {m : Cw20.InstantiateMsg} {block : BlockInfo}
    {x : χ} {w : World χ} (d : Deployed dep msg m block x w) (empty : m.initialBalances = []) :
    Backing dep w := by
  obtain ⟨res, created⟩ := d.cw20
  obtain ⟨_, supply, nothing⟩ := Cw20.instantiate_empty empty created
  obtain ⟨loterra, staking⟩ := d.staking
  refine ⟨d.wired empty, ⟨0, ?_⟩, ?_, ?_, ?_⟩
  · rw [staking]
    exact Staking.Solvent.initial _
  · rw [staking, d.empty, Staking.Storage.claimsTotal_initial]
    rfl
  · rw [supply, d.empty]
  · rw [Cw20.Storage.balanceOf, nothing, d.empty]
    rfl

theorem run_backing {deployer : Account api} {msg : Pool.InstantiateMsg} {m : Cw20.InstantiateMsg}
    {block : BlockInfo} {x : χ} {w : World χ} (token : msg.messageCw20 = .cw20 m)
    (empty : m.initialBalances = []) (deployed : deploy out dep deployer msg block x = .ok w)
    (inputs : List (Input χ api)) : Backing dep (run (step out dep) w inputs) :=
  run_invariant (Backing dep) ((deploy_ok token deployed).backing empty) step_backing inputs

/-! None of the subtractions that would abort a withdrawal or an un-pooling can. -/

section Subtractions

variable {w : World χ}

theorem Backing.unbond (b : Backing dep w) {a : CanonicalAddr} {amount : Uint128}
    (staked : amount.val ≤ (w.staking.readHolder a).balance.val) :
    ∃ rest, w.staking.state.totalBalance.sub overflow amount = .ok rest := by
  obtain ⟨_, solvent⟩ := b.solvent
  have part := w.staking.balance_le_balances a
  have total := solvent.staked
  exact Word.sub_of_le (by omega)

/-- A withdrawal burns no more than is held, and its reply takes no more out of
the pool than is in it. -/
theorem Backing.withdraw (b : Backing dep w) {env : Env} {info : MessageInfo} {cap : Option Uint128}
    {address : String} {staking : Staking.Storage} {res : Response}
    (h : Staking.handleWithdrawStake api env info w.staking cap address = .ok (staking, res)) :
    ∃ amount, res.messages = [⟨.execute dep.cw20.addr (.cw20 (.burn amount)) [], none⟩] ∧
      Pool.findInEvents "wasm" "withdraw" (wasmEvents dep.staking.addr res.attributes) =
        some amount.toString ∧ Uint128.parse amount.toString = .ok amount ∧
      (∃ burned, Cw20.executeBurn ⟨dep.staking.addr, []⟩ w.cw20 amount = .ok burned) ∧
      ∃ rest, w.pool.state.totalUstPool.sub Fault.panic amount = .ok rest := by
  obtain ⟨a, amount, waiting, target, done, rfl⟩ := Staking.handleWithdrawStake_ok h
  obtain rfl : target = dep.cw20.addr := Account.humanize_ok (b.wired.token ▸ done.cw20)
  have released := done.claimsTotal
  have total := b.pool
  have supply := b.supply
  have held := b.held
  refine ⟨amount, rfl, rfl, Uint128.parse_toString amount, ?_, Word.sub_of_le (by omega)⟩
  exact Cw20.executeBurn_of_le done.positive (by simp only; omega) (by omega)

end Subtractions

/-- In every state between transactions the four counters agree, and no checked
subtraction of an un-pooling or a withdrawal fails. -/
theorem deployment_backed {deployer : Account api} {msg : Pool.InstantiateMsg}
    {m : Cw20.InstantiateMsg} {block : BlockInfo} {x : χ} {w : World χ}
    (token : msg.messageCw20 = .cw20 m) (empty : m.initialBalances = [])
    (deployed : deploy out dep deployer msg block x = .ok w) (inputs : List (Input χ api)) :
    let w' := run (step out dep) w inputs
    (w'.pool.state.totalUstPool.val =
        w'.staking.state.totalBalance.val + w'.staking.claimsTotal ∧
      w'.cw20.tokenInfo.totalSupply.val = w'.pool.state.totalUstPool.val ∧
      (w'.cw20.balanceOf dep.staking.addr).val = w'.pool.state.totalUstPool.val ∧
      w'.staking.state.totalBalance.val = w'.staking.balances) ∧
    (∀ a (amount : Uint128), amount.val ≤ (w'.staking.readHolder a).balance.val →
      ∃ rest, w'.staking.state.totalBalance.sub overflow amount = .ok rest) ∧
    ∀ env info cap address staking res,
      Staking.handleWithdrawStake api env info w'.staking cap address = .ok (staking, res) →
      ∃ amount, res.messages = [⟨.execute dep.cw20.addr (.cw20 (.burn amount)) [], none⟩] ∧
        Pool.findInEvents "wasm" "withdraw" (wasmEvents dep.staking.addr res.attributes) =
          some amount.toString ∧ Uint128.parse amount.toString = .ok amount ∧
        (∃ burned, Cw20.executeBurn ⟨dep.staking.addr, []⟩ w'.cw20 amount = .ok burned) ∧
        ∃ rest, w'.pool.state.totalUstPool.sub Fault.panic amount = .ok rest := by
  intro w'
  have b : Backing dep w' := run_backing token empty deployed inputs
  obtain ⟨_, solvent⟩ := b.solvent
  refine ⟨⟨b.pool, b.supply, b.held, solvent.staked⟩, ?_, ?_⟩
  · intro a amount staked
    exact b.unbond staked
  · intro env info cap address staking res done
    exact b.withdraw done

theorem sample_backed : ∃ w, Sample.start = .ok w ∧
    (run (step Sample.out Sample.dep) w Sample.inputs).pool.state.totalUstPool.val = 2370 ∧
    (run (step Sample.out Sample.dep) w Sample.inputs).cw20.tokenInfo.totalSupply.val = 2370 := by
  obtain ⟨w, deployed, total⟩ : ∃ w, Sample.start = .ok w ∧
      (run (step Sample.out Sample.dep) w Sample.inputs).pool.state.totalUstPool.val = 2370 := by
    decide +kernel
  obtain ⟨⟨_, supply, _⟩, _⟩ := deployment_backed rfl rfl deployed Sample.inputs
  exact ⟨w, deployed, total, supply.trans total⟩

end DogetherContracts.System
