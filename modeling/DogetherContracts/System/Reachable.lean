import DogetherContracts.System.Backing
import DogetherContracts.System.Ledger

/-! # Reachable states

The states a deployment without initial token balances can be in, after any
transactions of anybody, any blocks, and anything that happens outside. -/
namespace DogetherContracts.System
open Checked Run

variable {χ : Type} {api : Api} {out : Outside χ} {dep : Deployment api}

/-- A state after any inputs to a deployment without initial token balances. -/
def Reachable (out : Outside χ) (dep : Deployment api) (w : World χ) : Prop :=
  ∃ (deployer : Account api) (msg : Pool.InstantiateMsg) (m : Cw20.InstantiateMsg)
    (block : BlockInfo) (x : χ) (w₀ : World χ) (inputs : List (Input χ api)),
    msg.messageCw20 = .cw20 m ∧ m.initialBalances = [] ∧
      deploy out dep deployer msg block x = .ok w₀ ∧ w = run (step out dep) w₀ inputs

namespace Reachable

variable {w w' : World χ}

theorem deployed {deployer : Account api} {msg : Pool.InstantiateMsg} {m : Cw20.InstantiateMsg}
    {block : BlockInfo} {x : χ} {w₀ : World χ} (token : msg.messageCw20 = .cw20 m)
    (empty : m.initialBalances = []) (done : deploy out dep deployer msg block x = .ok w₀) :
    Reachable out dep w₀ :=
  ⟨deployer, msg, m, block, x, w₀, [], token, empty, done, rfl⟩

theorem step (h : Reachable out dep w) (input : Input χ api) :
    Reachable out dep (System.step out dep w input) := by
  obtain ⟨deployer, msg, m, block, x, w₀, inputs, token, empty, done, rfl⟩ := h
  exact ⟨deployer, msg, m, block, x, w₀, inputs ++ [input], token, empty, done, (run_snoc ..).symm⟩

theorem run (h : Reachable out dep w) (inputs : List (Input χ api)) :
    Reachable out dep (Run.run (System.step out dep) w inputs) :=
  run_invariant (Reachable out dep) h (fun _ input reach => reach.step input) inputs

/-- What a fresh deployment has and every kind of step keeps holds of every
reachable state. -/
theorem induct (Inv : World χ → Prop)
    (start : ∀ msg m block x w, m.initialBalances = [] → Deployed dep msg m block x w → Inv w)
    (keep : ∀ w w' input, Inv w → Stepped out dep w input w' → Inv w')
    (h : Reachable out dep w) : Inv w := by
  obtain ⟨deployer, msg, m, block, x, w₀, inputs, token, empty, done, rfl⟩ := h
  have d := deploy_ok token done
  have both : Wired dep (Run.run (System.step out dep) w₀ inputs) ∧
      Inv (Run.run (System.step out dep) w₀ inputs) := by
    refine run_invariant (fun w => Wired dep w ∧ Inv w)
      ⟨d.wired empty, start msg m block x w₀ empty d⟩ ?_ inputs
    rintro w input ⟨wired, inv⟩
    have stepped : Stepped out dep w input (System.step out dep w input) :=
      step_stepped wired input
    exact ⟨stepped.wired wired, keep _ _ _ inv stepped⟩
  exact both.2

theorem backing (h : Reachable out dep w) : Backing dep w := by
  obtain ⟨_, _, _, _, _, _, inputs, token, empty, done, rfl⟩ := h
  exact run_backing token empty done inputs

theorem wired (h : Reachable out dep w) : Wired dep w := h.backing.wired

theorem stepped (h : Reachable out dep w) (input : Input χ api) :
    Stepped out dep w input (System.step out dep w input) :=
  step_stepped h.wired input

end Reachable

/-! Claims wait for heights. -/

theorem TxEffect.byHeight {w w' : World χ} {tx : Tx api} {executed : List (Addr × CosmosMsg)}
    (effect : TxEffect out dep w tx w' executed)
    (byHeight : ∀ a, Staking.ByHeight (w.staking.readClaims a)) (a : CanonicalAddr) :
    Staking.ByHeight (w'.staking.readClaims a) := by
  cases effect with
  | pooled msg pool cw20 staking =>
      rw [Staking.readClaims_same staking.claims]
      exact byHeight a
  | unPooled msg pool cw20 staking =>
      by_cases own : a = tx.sender.raw
      · rw [own, staking.readClaims_self]
        exact Staking.byHeight_snoc (byHeight _) _ _
      · rw [staking.readClaims_other own]
        exact byHeight a
  | claimed msg staking =>
      by_cases own : a = tx.sender.raw
      · rw [own, staking.readClaims_self]
        exact (Staking.partitionClaims_due (byHeight _) staking.partition).2.2
      · rw [staking.readClaims_other own]
        exact byHeight a
  | redeemed msg pool cw20 staking =>
      rw [Staking.readClaims_same staking.claims]
      exact byHeight a
  | bought msg pool cw20 staking =>
      rw [Staking.readClaims_same staking.claims]
      exact byHeight a

theorem Reachable.byHeight {w : World χ} (h : Reachable out dep w) (a : CanonicalAddr) :
    Staking.ByHeight (w.staking.readClaims a) := by
  revert a
  refine Reachable.induct (fun w => ∀ a, Staking.ByHeight (w.staking.readClaims a)) ?_ ?_ h
  · intro msg m block x w _ d a
    obtain ⟨loterra, staking⟩ := d.staking
    rw [staking]
    intro c member
    cases member
  · intro w w' input byHeight stepped
    cases stepped with
    | refused _ => exact byHeight
    | done _ effect => exact effect.byHeight byHeight
    | newBlock _ => exact byHeight
    | oldBlock => exact byHeight
    | outside _ => exact byHeight

/-- Dogether stays the minter, without a cap. -/
theorem Reachable.mint {w : World χ} (h : Reachable out dep w) :
    w.cw20.tokenInfo.mint = some ⟨dep.pool.addr, none⟩ := by
  refine Reachable.induct (fun w => w.cw20.tokenInfo.mint = some ⟨dep.pool.addr, none⟩) ?_ ?_ h
  · intro msg m block x w empty d
    obtain ⟨res, created⟩ := d.cw20
    exact (Cw20.instantiate_empty empty created).1
  · intro w w' input mint stepped
    cases stepped with
    | refused _ => exact mint
    | done _ effect =>
        cases effect with
        | pooled _ _ cw20 => exact cw20.mint.trans mint
        | unPooled _ _ cw20 => exact cw20 ▸ mint
        | claimed _ _ cw20 => exact cw20.mint.trans mint
        | redeemed _ _ cw20 => exact cw20 ▸ mint
        | bought _ _ cw20 => exact cw20 ▸ mint
    | newBlock _ => exact mint
    | oldBlock => exact mint
    | outside _ => exact mint

end DogetherContracts.System
