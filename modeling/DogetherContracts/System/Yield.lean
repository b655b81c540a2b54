import DogetherContracts.System.Funds
import DogetherContracts.System.Principal

/-! # The yield

What dogether's aUST are worth over the principal comes from outside and goes to the
draws. Purchases and redemptions are rounded down to whole aUST, so a deposit leaves a
little less in the surplus, and a withdrawal a little more; nothing else is lost on the
way or redeemed twice. -/
namespace DogetherContracts.System
open Checked Run

variable {χ : Type} {api : Api} {out : Outside χ} {dep : Deployment api}

/-- The bank moves neither dogether's aUST nor the rate, and the lottery moves no aUST. -/
structure Anchor.Steady (anchor : Anchor out dep) : Prop where
  transfer : ∀ sender receiver funds x x', out.transfer sender receiver funds x = .ok x' →
    anchor.aust x' = anchor.aust x ∧ anchor.rate x' = anchor.rate x
  register : ∀ target address bonus combination funds x x' events,
    out.execute dep.staking.addr target (.register address bonus combination) funds x =
      .ok (x', events) → anchor.aust x' = anchor.aust x

/-- Messages in which only the bank has a part. -/
def Banked (dep : Deployment api) : Addr × CosmosMsg → Prop
  | (_, .execute target _ _) => ours dep target
  | (_, .bankSend _ _) | (_, .instantiate _ _ _ _ _) => True

/-! What is read off the messages of a transaction, at the rate it meets. -/

def redeemedAust : CosmosMsg → ℕ
  | .execute _ (.send _ units .redeemStable) _ => units.val
  | _ => 0

namespace Anchor

variable (anchor : Anchor out dep) {x x' : χ} {w w' : World χ} {tx : Tx api}
  {executed : List (Addr × CosmosMsg)}

def worth (x : χ) : ℕ := anchor.aust x * anchor.rate x

/-- What the aUST are worth over the principal, scaled by 10^18. -/
def surplus (w : World χ) : ℤ :=
  Units.surplus (10 ^ 18) w.pool.state.totalUstPool.val (anchor.aust w.outside)
    (anchor.rate w.outside)

/-- What the aUST gain without dogether: every change outside, and within a transaction
what a new rate makes of the aUST that are left. -/
def gain (w : World χ) (input : Input χ api) : ℤ :=
  match input with
  | .outside x => (anchor.worth x : ℤ) - anchor.worth w.outside
  | .transaction _ | .newBlock _ =>
    anchor.aust (step out dep w input).outside *
      ((anchor.rate (step out dep w input).outside : ℤ) - anchor.rate w.outside)

/-- All that was gained, with the worth of what was there at first. -/
def yield (w : World χ) (inputs : List (Input χ api)) : ℤ :=
  history (step out dep) (fun gained w input => gained + anchor.gain w input)
    (anchor.worth w.outside) w inputs

/-- The worth of the aUST that a redemption of earnings sells. -/
def harvest (w : World χ) : Input χ api → ℕ
  | .transaction tx =>
    if tx.msg = .pool .redeemEarning then
      flow out dep anyone redeemedAust w (.transaction tx) * anchor.rate w.outside
    else 0
  | .newBlock _ | .outside _ => 0

def harvested (w : World χ) (inputs : List (Input χ api)) : ℕ :=
  tally (step out dep) anchor.harvest w inputs

/-- What is rounded off the worth of the deposits, or of the burns. -/
def dusts (kind : CosmosMsg → ℕ) (w : World χ) (inputs : List (Input χ api)) : ℕ :=
  tally (step out dep) (fun w input =>
    Units.dust (10 ^ 18) (anchor.rate w.outside) (flow out dep anyone kind w input)) w inputs

variable {anchor}

theorem Steady.banked_run (steady : anchor.Steady) (banked : ∀ e ∈ executed, Banked dep e)
    (ran : executed.foldlM (outsideStep out dep) x = .ok x') :
    anchor.aust x' = anchor.aust x ∧ anchor.rate x' = anchor.rate x := by
  induction executed generalizing x with
  | nil =>
      cases ran
      exact ⟨rfl, rfl⟩
  | cons e executed ih =>
      simp only [List.foldlM_cons, bind_ok] at ran
      obtain ⟨y, first, rest⟩ := ran
      obtain ⟨sender, msg⟩ := e
      have moved : anchor.aust y = anchor.aust x ∧ anchor.rate y = anchor.rate x := by
        cases msg with
        | instantiate _ _ _ _ _ => cases first
        | bankSend payee funds => exact steady.transfer _ _ _ _ _ first
        | execute target msg funds =>
            have own : ours dep target := banked _ List.mem_cons_self
            simp only [outsideStep, if_pos own, bind_ok, pure_ok] at first
            obtain ⟨z, moved, rfl⟩ := first
            exact steady.transfer _ _ _ _ _ moved
      obtain ⟨aust, rate⟩ := ih (fun f member => banked f (List.mem_cons_of_mem _ member)) rest
      exact ⟨aust.trans moved.1, rate.trans moved.2⟩

theorem Steady.deposit_step (steady : anchor.Steady) {d : Uint128}
    (ran : outsideStep out dep x
      (dep.pool.addr, .execute anchor.market.addr .depositStable [⟨"uusd", d⟩]) = .ok x') :
    anchor.aust x' = anchor.aust x + d.val * 10 ^ 18 / anchor.rate x := by
  simp only [outsideStep, bind_ok, if_neg anchor.market_foreign, pure_ok, Prod.exists] at ran
  obtain ⟨y, moved, z, events, executed, rfl⟩ := ran
  obtain ⟨aust, rate⟩ := steady.transfer _ _ _ _ _ moved
  rw [(anchor.deposit _ _ _ _ executed).1, aust, rate]

theorem Steady.redeem_step (steady : anchor.Steady) {units : Uint128}
    (ran : outsideStep out dep x (dep.pool.addr,
      .execute anchor.token.addr (.send anchor.market.addr units .redeemStable) []) = .ok x') :
    anchor.aust x' + units.val = anchor.aust x := by
  simp only [outsideStep, bind_ok, if_neg anchor.token_foreign, pure_ok, Prod.exists] at ran
  obtain ⟨y, moved, z, events, executed, rfl⟩ := ran
  rw [(anchor.redeem _ _ _ _ executed).1, (steady.transfer _ _ _ _ _ moved).1]

theorem Steady.register_step (steady : anchor.Steady) {target : Addr} {address : Option Addr}
    {bonus : Option Bool} {combination : List String} {funds : List Coin}
    (ran : outsideStep out dep x
      (dep.staking.addr, .execute target (.register address bonus combination) funds) = .ok x') :
    anchor.aust x' = anchor.aust x := by
  simp only [outsideStep, bind_ok] at ran
  obtain ⟨y, moved, ran⟩ := ran
  obtain ⟨aust, _⟩ := steady.transfer _ _ _ _ _ moved
  split at ran
  · cases ran
    exact aust
  · simp only [bind_ok, pure_ok, Prod.exists] at ran
    obtain ⟨z, events, executed, rfl⟩ := ran
    exact (steady.register _ _ _ _ _ _ _ _ executed).trans aust

end Anchor

section Effects

variable {anchor : Anchor out dep} {w w' : World χ} {tx : Tx api}
  {executed : List (Addr × CosmosMsg)}

/-- A redemption of earnings sells the interest in whole units. -/
theorem TxEffect.harvested (steady : anchor.Steady) (effect : TxEffect out dep w tx w' executed)
    (moved : executed.foldlM (outsideStep out dep) w.outside = .ok w'.outside)
    (listed : anchor.Listed w) (msg : tx.msg = .pool .redeemEarning) :
    ∃ interest, interest + w.pool.state.totalUstPool.val * 10 ^ 18 = anchor.worth w.outside ∧
      w'.pool.state.totalUstPool = w.pool.state.totalUstPool ∧
      amounts redeemedAust executed = interest / anchor.rate w.outside ∧
      anchor.aust w'.outside + interest / anchor.rate w.outside = anchor.aust w.outside := by
  cases effect with
  | @redeemed x _ _ _ balance redeemed interest earnings market token _ msg pool cw20 staking before
      block list =>
      obtain rfl : market = anchor.market.addr :=
        Account.humanize_ok (listed.market ▸ pool.marketAddr)
      obtain rfl : token = anchor.token.addr := Account.humanize_ok (listed.token ▸ pool.austAddr)
      obtain ⟨aust, rate⟩ := steady.transfer _ _ _ _ _ before
      have excess := pool.surplus
      rw [anchor.balance _ _ pool.queriedBalance, anchor.epochState _ _ pool.queriedRate, aust,
        rate] at excess
      have floor := pool.floor
      rw [anchor.epochState _ _ pool.queriedRate, rate] at floor
      refine ⟨interest.val, excess, pool.total, ?_, ?_⟩
      · simp [list, amounts, redeemedAust, floor]
      · rw [list] at moved
        obtain ⟨x₁, x₂, start, redeem, update⟩ := (foldlM_middle_ok [(tx.sender.addr, _)]).mp moved
        obtain ⟨austBefore, _⟩ := steady.banked_run (by simp [Banked, ours]) start
        obtain ⟨austAfter, _⟩ := steady.banked_run (by simp [Banked, ours]) update
        rw [← floor, austAfter, steady.redeem_step redeem, austBefore]
  | pooled other => cases other.symm.trans msg
  | unPooled other => cases other.symm.trans msg
  | claimed other => cases other.symm.trans msg
  | bought other => cases other.symm.trans msg

/-- What a transaction does to the surplus at the rate it meets. -/
theorem TxEffect.sold (steady : anchor.Steady) (effect : TxEffect out dep w tx w' executed)
    (moved : executed.foldlM (outsideStep out dep) w.outside = .ok w'.outside)
    (listed : anchor.Listed w) :
    let rate := anchor.rate w.outside
    Units.surplus (10 ^ 18) w'.pool.state.totalUstPool.val (anchor.aust w'.outside) rate +
        ((if tx.msg = .pool .redeemEarning then amounts redeemedAust executed * rate else 0 : ℕ) +
          Units.dust (10 ^ 18) rate (amounts depositCoins executed) : ℕ) =
      anchor.surplus w + Units.dust (10 ^ 18) rate (amounts burnAmount executed) := by
  intro rate
  have effect' := effect
  cases effect' with
  | @pooled _ _ _ sent net market _ msg pool cw20 staking block list =>
      obtain ⟨denom, amount⟩ := net
      obtain rfl : market = anchor.market.addr :=
        Account.humanize_ok (listed.market ▸ pool.marketAddr)
      obtain ⟨_, _, _, _, _, same, _⟩ := deductTax_ok.mp pool.deducted
      obtain rfl : denom = "uusd" := same.trans listed.denom
      have put : amounts depositCoins executed = amount.val := by
        simp [list, amounts, depositCoins, coins]
      have burnt : amounts burnAmount executed = 0 := by simp [list, amounts, burnAmount]
      rw [list] at moved
      obtain ⟨x₁, x₂, before, deposit, after⟩ :=
        (foldlM_middle_ok [(tx.sender.addr, _)]).mp moved
      obtain ⟨austBefore, rateBefore⟩ := steady.banked_run (by simp [Banked, ours]) before
      obtain ⟨austAfter, _⟩ := steady.banked_run (by simp [Banked, ours]) after
      rw [if_neg (by simp [msg]), put, burnt, Units.dust_zero, pool.total, austAfter,
        steady.deposit_step deposit, austBefore, rateBefore, Nat.zero_add, Nat.cast_zero, add_zero]
      exact Units.surplus_deposit ..
  | unPooled msg pool cw20 staking block list =>
      have put : amounts depositCoins executed = 0 := by simp [list, amounts, depositCoins]
      have burnt : amounts burnAmount executed = 0 := by simp [list, amounts, burnAmount]
      obtain ⟨aust, _⟩ := steady.banked_run (by simp [list, Banked, ours]) moved
      rw [if_neg (by simp [msg]), put, burnt, Units.dust_zero, pool, aust, Nat.zero_add,
        Anchor.surplus]
  | @claimed x amount redeemed _ _ _ _ _ market token msg staking cw20 pool before block list =>
      obtain rfl : market = anchor.market.addr :=
        Account.humanize_ok (listed.market ▸ pool.marketAddr)
      obtain rfl : token = anchor.token.addr := Account.humanize_ok (listed.token ▸ pool.austAddr)
      have put : amounts depositCoins executed = 0 := by simp [list, amounts, depositCoins]
      have burnt : amounts burnAmount executed = amount.val := by
        simp [list, amounts, burnAmount]
      rw [list] at moved
      obtain ⟨x₁, x₂, start, redeem, payout⟩ :=
        (foldlM_middle_ok [(tx.sender.addr, _), (dep.pool.addr, _), (dep.staking.addr, _)]).mp moved
      obtain rfl : x = x₁ := Except.ok.inj (before.symm.trans start)
      obtain ⟨austBefore, rateBefore⟩ := steady.banked_run (by simp [Banked, ours]) start
      obtain ⟨austAfter, _⟩ := steady.banked_run (by simp [Banked]) payout
      have burned := steady.redeem_step redeem
      rw [pool.floor, anchor.epochState _ _ pool.queriedRate, rateBefore, austBefore] at burned
      rw [if_neg (by simp [msg]), put, burnt, Units.dust_zero, austAfter, Nat.cast_zero, add_zero]
      exact Units.surplus_redeem pool.total burned
  | redeemed msg pool cw20 staking before block list =>
      have put : amounts depositCoins executed = 0 := by simp [list, amounts, depositCoins]
      have burnt : amounts burnAmount executed = 0 := by simp [list, amounts, burnAmount]
      obtain ⟨interest, _, total, sold, left⟩ := effect.harvested steady moved listed msg
      rw [if_pos msg, sold, put, burnt, Units.dust_zero, total, Nat.add_zero, Nat.cast_zero,
        add_zero]
      exact Units.surplus_sold left
  | bought msg pool cw20 staking block list =>
      have put : amounts depositCoins executed = 0 := by simp [list, amounts, depositCoins]
      have burnt : amounts burnAmount executed = 0 := by simp [list, amounts, burnAmount]
      rw [list] at moved
      obtain ⟨x₁, x₂, start, register, rest⟩ :=
        (foldlM_middle_ok [(tx.sender.addr, _)]).mp moved
      cases rest
      obtain ⟨aust, _⟩ := steady.banked_run (by simp [Banked, ours]) start
      rw [if_neg (by simp [msg]), put, burnt, Units.dust_zero, pool,
        (steady.register_step register).trans aust, Nat.zero_add, Anchor.surplus]

end Effects

section Runs

variable {anchor : Anchor out dep} {w w' : World χ} {tx : Tx api} {input : Input χ api}

theorem Stepped.listed (stepped : Stepped out dep w input w') (listed : anchor.Listed w) :
    anchor.Listed w' := by
  cases stepped with
  | refused _ => exact listed
  | done _ effect =>
      have same := effect.poolConfig
      exact ⟨by rw [same, listed.market], by rw [same, listed.token], by rw [same, listed.denom]⟩
  | newBlock _ => exact ⟨listed.market, listed.token, listed.denom⟩
  | oldBlock => exact listed
  | outside _ => exact ⟨listed.market, listed.token, listed.denom⟩

theorem Anchor.Steady.step (steady : anchor.Steady) (wired : Wired dep w)
    (listed : anchor.Listed w) (input : Input χ api) :
    anchor.surplus (System.step out dep w input) +
        (anchor.harvest w input + Units.dust (10 ^ 18) (anchor.rate w.outside)
          (flow out dep anyone depositCoins w input) : ℕ) =
      anchor.surplus w + anchor.gain w input +
        Units.dust (10 ^ 18) (anchor.rate w.outside) (flow out dep anyone burnAmount w input) := by
  cases input with
  | transaction tx =>
      cases ran : runTx out dep w tx with
      | error e =>
          simp only [System.step, gain, harvest, flow, ran, Units.dust_zero, Nat.zero_mul, ite_self]
          simp
      | ok result =>
          obtain ⟨w', r⟩ := result
          have sold := (runTx_effect wired ran).sold steady (runTx_outside ran) listed
          have revalued := Units.surplus_revalued (10 ^ 18) w'.pool.state.totalUstPool.val
            (anchor.aust w'.outside) (anchor.rate w.outside) (anchor.rate w'.outside)
          simp only [System.step, gain, harvest, flow, ran, anyone, if_true]
          change Units.surplus _ _ _ (anchor.rate w'.outside) + _ = _
          linear_combination sold + revalued
  | newBlock block =>
      have same : (System.step out dep w (.newBlock block)).outside = w.outside := by
        rw [System.step]
        split <;> rfl
      have pool : (System.step out dep w (.newBlock block)).pool = w.pool := by
        rw [System.step]
        split <;> rfl
      simp [surplus, gain, harvest, flow, same, pool]
  | outside x =>
      simp only [System.step, surplus, Units.surplus, gain, worth, harvest, flow, Units.dust_zero,
        Nat.cast_mul, Nat.cast_zero, add_zero]
      ring

/-- The surplus moves by what was gained, harvested and rounded off. -/
theorem Anchor.Steady.run (steady : anchor.Steady) (wired : Wired dep w)
    (listed : anchor.Listed w) (inputs : List (Input χ api)) :
    Wired dep (Run.run (System.step out dep) w inputs) ∧
    anchor.Listed (Run.run (System.step out dep) w inputs) ∧
    anchor.surplus (Run.run (System.step out dep) w inputs) + anchor.worth w.outside +
        (anchor.harvested w inputs + anchor.dusts depositCoins w inputs : ℕ) =
      anchor.surplus w + anchor.yield w inputs + anchor.dusts burnAmount w inputs := by
  induction inputs using List.reverseRecOn with
  | nil => exact ⟨wired, listed, by simp [yield, harvested, dusts]⟩
  | append_singleton inputs input ih =>
      obtain ⟨wired₁, listed₁, moved⟩ := ih
      have next := steady.step wired₁ listed₁ input
      have stepped : Stepped out dep _ input _ := step_stepped wired₁ input
      simp only [harvested, dusts, yield] at moved
      simp only [harvested, dusts, yield, run_snoc, tally_snoc, history_snoc]
      refine ⟨stepped.wired wired₁, stepped.listed listed₁, ?_⟩
      push_cast at moved next ⊢
      linear_combination moved + next

/-- Each deposit and each burn costs less than a unit. -/
theorem Anchor.dusts_le (anchor : Anchor out dep) (kind : CosmosMsg → ℕ) {highest : ℕ}
    {inputs : List (Input χ api)}
    (below : Along (System.step out dep) (fun w _ => anchor.rate w.outside ≤ highest) w inputs) :
    anchor.dusts kind w inputs ≤ tally (System.step out dep)
        (fun w input => if flow out dep anyone kind w input = 0 then 0 else 1) w inputs *
      highest := by
  induction inputs using List.reverseRecOn with
  | nil => exact Nat.zero_le _
  | append_singleton inputs input ih =>
      obtain ⟨earlier, last⟩ := along_snoc.mp below
      have rest := ih earlier
      simp only [dusts] at rest
      simp only [dusts, tally_snoc, Nat.add_mul]
      refine Nat.add_le_add rest ?_
      split
      · next none => rw [none, Units.dust_zero, Nat.zero_mul]
      · rw [Nat.one_mul]
        exact (Units.dust_lt _ _ (anchor.rate_pos _)).le.trans last

/-- What the redemptions of earnings have sold, with the surplus that is still there, is
the yield up to rounding: deposits lose and withdrawals leave less than a unit each at
the rate they meet, and after a redemption less than a unit of the surplus stays behind. -/
theorem yield_accounted (anchor : Anchor out dep) (steady : anchor.Steady)
    {deployer : Account api} {msg : Pool.InstantiateMsg} {m : Cw20.InstantiateMsg}
    {block : BlockInfo} {x : χ} (token : msg.messageCw20 = .cw20 m)
    (empty : m.initialBalances = []) (deployed : deploy out dep deployer msg block x = .ok w)
    (market : msg.moneyMarketAddress = anchor.market.addr)
    (aust : msg.anchorAustAddress = anchor.token.addr) (inputs : List (Input χ api)) :
    let w₁ := run (step out dep) w inputs
    anchor.surplus w₁ +
        (anchor.harvested w inputs + anchor.dusts depositCoins w inputs : ℕ) =
      anchor.yield w inputs + anchor.dusts burnAmount w inputs ∧
    (∀ highest kind,
      Along (step out dep) (fun w _ => anchor.rate w.outside ≤ highest) w inputs →
      anchor.dusts kind w inputs ≤ tally (step out dep)
        (fun w input => if flow out dep anyone kind w input = 0 then 0 else 1) w inputs *
          highest) ∧
    (∀ kind, Along (step out dep) (fun w input => Units.dust (10 ^ 18) (anchor.rate w.outside)
      (flow out dep anyone kind w input) < anchor.rate w.outside) w inputs) ∧
    ∀ tx w₂ r, runTx out dep w₁ tx = .ok (w₂, r) → tx.msg = .pool .redeemEarning →
      let rate := anchor.rate w₁.outside
      let left := Units.surplus (10 ^ 18) w₂.pool.state.totalUstPool.val
        (anchor.aust w₂.outside) rate
      0 ≤ left ∧ left < rate := by
  intro w₁
  have d := deploy_ok token deployed
  have listed : anchor.Listed w := by
    have hmarket := d.market
    have haust := d.aust
    rw [market] at hmarket
    rw [aust] at haust
    exact ⟨Account.canonicalize_ok hmarket, Account.canonicalize_ok haust, d.denom⟩
  obtain ⟨wired₁, listed₁, moved⟩ := steady.run (d.wired empty) listed inputs
  refine ⟨?_, fun _ kind below => anchor.dusts_le kind below, fun kind =>
    along_of_forall (fun w _ => Units.dust_lt _ _ (anchor.rate_pos w.outside)) w inputs, ?_⟩
  · have start : anchor.surplus w = anchor.worth w.outside := by
      simp [Anchor.surplus, Units.surplus, Anchor.worth, d.empty]
    rw [start] at moved
    linear_combination moved
  · intro tx w₂ r ran redeem rate left
    obtain ⟨interest, excess, total, _, sold⟩ :=
      (runTx_effect wired₁ ran).harvested steady (runTx_outside ran) listed₁ redeem
    have rest := Units.harvest_rest excess sold
    have value : left = (interest % rate : ℕ) := by
      simp only [left, Units.surplus, total]
      have rest' : ((interest % rate : ℕ) : ℤ) + w₁.pool.state.totalUstPool.val * 10 ^ 18 =
          anchor.aust w₂.outside * rate := by exact_mod_cast rest
      push_cast at rest' ⊢
      linear_combination -rest'
    rw [value]
    exact ⟨Int.natCast_nonneg _, by exact_mod_cast Nat.mod_lt _ (anchor.rate_pos _)⟩

end Runs

theorem Sample.steady : Sample.anchor.Steady where
  transfer := by
    intro sender receiver funds x x' moved
    cases moved
    exact ⟨rfl, rfl⟩
  register := by
    intro target address bonus combination funds x x' events ran
    have other : Sample.dep.staking.addr ≠ Sample.dep.pool.addr := by decide
    simp only [Sample.out, Sample.executeAnchor, if_neg other, Except.ok.injEq,
      Prod.mk.injEq] at ran
    obtain ⟨rfl, _⟩ := ran
    rfl

/-- The aUST gained 670; 515 of them were sold at 1.3, and the withdrawal left 0.7. -/
theorem sample_yield : ∃ w, Sample.start = .ok w ∧
    Sample.anchor.harvested w Sample.inputs = 6695 * 10 ^ 17 ∧
    Sample.anchor.surplus (run (step Sample.out Sample.dep) w Sample.inputs) = 12 * 10 ^ 17 := by
  obtain ⟨w, deployed, gained, harvested, put, left⟩ : ∃ w, Sample.start = .ok w ∧
      Sample.anchor.yield w Sample.inputs = 670 * 10 ^ 18 ∧
      Sample.anchor.harvested w Sample.inputs = 6695 * 10 ^ 17 ∧
      Sample.anchor.dusts depositCoins w Sample.inputs = 0 ∧
      Sample.anchor.dusts burnAmount w Sample.inputs = 7 * 10 ^ 17 := by
    decide +kernel
  obtain ⟨accounted, _⟩ :=
    yield_accounted Sample.anchor Sample.steady rfl rfl deployed rfl rfl Sample.inputs
  rw [gained, harvested, put, left] at accounted
  refine ⟨w, deployed, harvested, ?_⟩
  push_cast at accounted
  linarith

end DogetherContracts.System
