import DogetherContracts.System.Configured
import DogetherContracts.System.Forward

/-! # Draws

Every redemption moves the next draw on by one period, and none happens before it
is due: over any run there is at most one redemption for each period that has
passed. -/
namespace DogetherContracts.System
open Checked Run

variable {χ : Type} {api : Api} {out : Outside χ} {dep : Deployment api}

/-- Whether an input is a redemption that goes through. -/
def redemptions (out : Outside χ) (dep : Deployment api) (w : World χ) : Input χ api → ℕ
  | .transaction tx =>
    if tx.msg = .pool .redeemEarning then (if (runTx out dep w tx).isOk then 1 else 0) else 0
  | .newBlock _ | .outside _ => 0

section Step

variable {w w' : World χ} {tx : Tx api} {r : Receipt}

/-- The messages of a redemption leave dogether alone. -/
theorem redemption_draw (wired : Wired dep w) (msg : tx.msg = .pool .redeemEarning)
    (ran : runTx out dep w tx = .ok (w', r)) :
    w.pool.state.nextDraw.val ≤ w.block.seconds ∧
      w'.pool.state.nextDraw.val = w.pool.state.nextDraw.val + w.pool.state.drawPeriod.val ∧
      w'.pool.state.drawPeriod = w.pool.state.drawPeriod := by
  obtain ⟨_, h⟩ := runTx_pool msg ran
  obtain ⟨_, x, m, pool, res, rest, is_redeem, _, executed, messages, _⟩ := call_pool h
  cases is_redeem
  have draw := Pool.tryRedeemEarning_draw executed
  obtain ⟨rate, balance, redeemed, interest, earnings, moneyMarket, aust, staking, done⟩ :=
    Pool.tryRedeemEarning_ok executed
  obtain rfl : staking = dep.staking.addr :=
    Account.humanize_ok (wired.stakingAddress ▸ done.stakingAddr)
  rw [done.messages] at messages
  obtain ⟨w₁, first, rest₁, redeem, messages, _⟩ := runMessages_cons messages
  obtain ⟨⟨x₁, rfl⟩, _⟩ := call_foreign rfl redeem
  obtain ⟨w₂, second, rest₂, update, ended, _⟩ := runMessages_cons messages
  obtain ⟨rfl, rfl⟩ := runMessages_nil ended
  obtain ⟨x₂, staking, claimed, _, rfl, _⟩ := call_update update
  exact draw

/-- Nothing else moves the draw. -/
theorem TxEffect.draw {executed : List (Addr × CosmosMsg)}
    (effect : TxEffect out dep w tx w' executed) (other : tx.msg ≠ .pool .redeemEarning) :
    w'.pool.state.nextDraw = w.pool.state.nextDraw ∧
      w'.pool.state.drawPeriod = w.pool.state.drawPeriod := by
  cases effect with
  | pooled _ pool => rw [pool.rest]; exact ⟨rfl, rfl⟩
  | unPooled _ pool => rw [pool]; exact ⟨rfl, rfl⟩
  | claimed _ _ _ pool => rw [pool.rest]; exact ⟨rfl, rfl⟩
  | redeemed msg => exact absurd msg other
  | bought _ pool => rw [pool]; exact ⟨rfl, rfl⟩

end Step

theorem deploy_draw {deployer : Account api} {msg : Pool.InstantiateMsg} {block : BlockInfo} {x : χ}
    {w : World χ} (h : deploy out dep deployer msg block x = .ok w) :
    w.pool.state.nextDraw = msg.nextDraw ∧ w.pool.state.drawPeriod = msg.drawPeriod := by
  obtain ⟨_, _, _, _, _, _, _, _, _, _, _, _, _, _, _, rfl⟩ := deploy_exact h
  exact ⟨rfl, rfl⟩

/-- After `draws` redemptions, the last of them at `latest` or earlier. -/
structure Paced (dep : Deployment api) (first period latest : ℕ) (w : World χ) (draws : ℕ) :
    Prop where
  wired : Wired dep w
  past : w.block.seconds ≤ latest
  every : w.pool.state.drawPeriod.val = period
  next : w.pool.state.nextDraw.val = first + draws * period
  due : ∀ n, draws = n + 1 → first + n * period ≤ latest

theorem Paced.step {first period latest draws : ℕ} {w : World χ}
    (paced : Paced dep first period latest w draws) (input : Input χ api)
    (past : ∀ block, input = .newBlock block → block.seconds ≤ latest) :
    Paced dep first period latest (System.step out dep w input)
      (draws + redemptions out dep w input) := by
  have stepped : Stepped out dep w input (System.step out dep w input) :=
    step_stepped paced.wired input
  have wired := stepped.wired paced.wired
  generalize System.step out dep w input = w' at stepped wired
  cases stepped with
  | @refused tx e failed =>
      have none_drawn : redemptions out dep w (.transaction tx) = 0 := by
        simp only [redemptions, failed, Except.isOk, Except.toBool, Bool.false_eq_true, if_false,
          ite_self]
      rw [none_drawn]
      exact paced
  | @done tx _ r ran effect =>
      have block := effect.block
      by_cases redeem : tx.msg = .pool .redeemEarning
      · have drawn : redemptions out dep w (.transaction tx) = 1 := by
          simp only [redemptions, redeem, ran, Except.isOk, Except.toBool, if_true]
        obtain ⟨due, next, every⟩ := redemption_draw paced.wired redeem ran
        have before := paced.next
        have period := paced.every
        have reached := paced.past
        rw [drawn]
        refine ⟨wired, by rw [block]; exact reached, by rw [every]; exact period, ?_, ?_⟩
        · rw [next, before, period, Nat.add_mul, Nat.one_mul, Nat.add_assoc]
        · intro n last
          obtain rfl : draws = n := by omega
          omega
      · have none_drawn : redemptions out dep w (.transaction tx) = 0 := if_neg redeem
        obtain ⟨next, every⟩ := effect.draw redeem
        rw [none_drawn]
        exact ⟨wired, by rw [block]; exact paced.past, by rw [every]; exact paced.every,
          by rw [next]; exact paced.next, paced.due⟩
  | newBlock later => exact ⟨wired, past _ rfl, paced.every, paced.next, paced.due⟩
  | oldBlock => exact paced
  | outside x => exact ⟨wired, paced.past, paced.every, paced.next, paced.due⟩

/-- Over any run the draw stands at its first date plus one period for each
redemption that went through, and the last of them was due: no block is ahead of
the run's latest time, so there are no more redemptions than dates up to it. -/
theorem draws_paced {deployer : Account api} {msg : Pool.InstantiateMsg} {m : Cw20.InstantiateMsg}
    {block : BlockInfo} {x : χ} {w : World χ} (latest : ℕ) (token : msg.messageCw20 = .cw20 m)
    (empty : m.initialBalances = []) (deployed : deploy out dep deployer msg block x = .ok w)
    (inputs : List (Input χ api)) (start : block.seconds ≤ latest)
    (times : ∀ b, Input.newBlock b ∈ inputs → b.seconds ≤ latest) :
    let draws := tally (step out dep) (redemptions out dep) w inputs
    (run (step out dep) w inputs).pool.state.nextDraw.val =
        msg.nextDraw.val + draws * msg.drawPeriod.val ∧
      ∀ n, draws = n + 1 → msg.nextDraw.val + n * msg.drawPeriod.val ≤ latest := by
  have d := deploy_ok token deployed
  obtain ⟨next, every⟩ := deploy_draw deployed
  have paced : Paced dep msg.nextDraw.val msg.drawPeriod.val latest (run (step out dep) w inputs)
      (tally (step out dep) (redemptions out dep) w inputs) := by
    induction inputs using List.reverseRecOn with
    | nil =>
        exact {
          wired := d.wired empty
          past := by rw [run_nil, d.block]; exact start
          every := by rw [run_nil, every]
          next := by rw [run_nil, tally_nil, next, Nat.zero_mul, Nat.add_zero]
          due := fun n none_drawn => absurd none_drawn (Nat.succ_ne_zero n).symm }
    | append_singleton inputs input ih =>
        rw [run_snoc, tally_snoc]
        refine (ih fun b member => times b (List.mem_append_left _ member)).step input ?_
        intro b same
        exact times b (List.mem_append_right _ (by rw [same]; exact List.mem_singleton.mpr rfl))
  exact ⟨paced.next, paced.due⟩

namespace Sample

/-- Draws are due from second 60 on, once an hour. -/
def hourly : Pool.InstantiateMsg := { msg with nextDraw := .ofNat 60, drawPeriod := .ofNat 3600 }

def rate : Decimal256 := ⟨.ofNat (11 * 10 ^ 17)⟩

def better : Decimal256 := ⟨.ofNat (13 * 10 ^ 17)⟩

theorem rate_pos : 0 < rate.val := by decide +kernel

theorem better_pos : 0 < better.val := by decide +kernel

/-- Alice pools 2000, and at a better rate Bob redeems twice. -/
def twice : List (Input Reserve Sample.api) := [
  .transaction (pool alice (.ofNat 2000)),
  .outside ⟨.ofNat 1800, better, better_pos⟩,
  .transaction (call bob .redeemEarning []),
  .transaction (call bob .redeemEarning [])]

end Sample

/-- At second 100 the first redemption goes through, and the second one is refused. -/
theorem sample_paced : ∃ w,
    deploy Sample.out Sample.dep Sample.deployer Sample.hourly
        ⟨.ofNat 1000, .ofNat (100 * 10 ^ 9)⟩ ⟨0, Sample.rate, Sample.rate_pos⟩ = .ok w ∧
      (run (step Sample.out Sample.dep) w Sample.twice).pool.state.nextDraw.val = 60 + 1 * 3600 := by
  obtain ⟨w, deployed, once⟩ : ∃ w,
      deploy Sample.out Sample.dep Sample.deployer Sample.hourly
          ⟨.ofNat 1000, .ofNat (100 * 10 ^ 9)⟩ ⟨0, Sample.rate, Sample.rate_pos⟩ = .ok w ∧
        tally (step Sample.out Sample.dep) (redemptions Sample.out Sample.dep) w Sample.twice =
          1 := by
    decide +kernel
  have times : ∀ b, Input.newBlock b ∈ Sample.twice → b.seconds ≤ 100 := by
    intro b member
    simp [Sample.twice] at member
  obtain ⟨next, _⟩ := draws_paced 100 rfl rfl deployed Sample.twice (by decide) times
  rw [once] at next
  exact ⟨w, deployed, next⟩

end DogetherContracts.System
