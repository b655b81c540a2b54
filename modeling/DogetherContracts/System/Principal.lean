import DogetherContracts.Lib.Run
import DogetherContracts.Lib.Units
import DogetherContracts.System.Steps

/-! # No loss of principal

Anchor is outside. What dogether relies on is assumed of it by name: deposits mint
aUST at the exchange rate, rounded down, redemptions burn what they are sent, and
the rate never falls. Then the aUST covers the pool up to one unit per deposit. -/
namespace DogetherContracts.System
open Checked Run

variable {χ : Type} {api : Api}

/-- Anchor as dogether sees it: its two contracts, dogether's aUST and the rate. -/
structure Anchor (out : Outside χ) (dep : Deployment api) where
  market : Account api
  token : Account api
  aust : χ → ℕ
  rate : χ → ℕ
  market_foreign : ¬ ours dep market.addr
  token_foreign : ¬ ours dep token.addr
  rate_pos : ∀ x, 0 < rate x
  epochState : ∀ x r, (out.querier x).epochState market.addr = some r → r.val = rate x
  balance : ∀ x b, (out.querier x).cw20Balance token.addr dep.pool.addr = some b → b.val = aust x
  transfer : ∀ sender receiver funds x x', out.transfer sender receiver funds x = .ok x' →
    aust x ≤ aust x' ∧ rate x ≤ rate x'
  deposit : ∀ d x x' events,
    out.execute dep.pool.addr market.addr .depositStable [⟨"uusd", d⟩] x = .ok (x', events) →
      aust x' = aust x + d.val * 10 ^ 18 / rate x ∧ rate x ≤ rate x'
  redeem : ∀ units x x' events,
    out.execute dep.pool.addr token.addr (.send market.addr units .redeemStable) [] x =
      .ok (x', events) → aust x' + units.val = aust x ∧ rate x ≤ rate x'
  others : ∀ sender target msg funds x x' events, sender ≠ dep.pool.addr →
    out.execute sender target msg funds x = .ok (x', events) →
      aust x ≤ aust x' ∧ rate x ≤ rate x'

/-- Messages that take no aUST from dogether: those within the system, bank
transfers, and those of anybody else. -/
def Harmless (dep : Deployment api) : Addr × CosmosMsg → Prop
  | (sender, .execute target _ _) => ours dep target ∨ sender ≠ dep.pool.addr
  | (_, .bankSend _ _) | (_, .instantiate _ _ _ _ _) => True

namespace Anchor

variable {out : Outside χ} {dep : Deployment api} (anchor : Anchor out dep) {x x' : χ}

def Rises (x x' : χ) : Prop := anchor.aust x ≤ anchor.aust x' ∧ anchor.rate x ≤ anchor.rate x'

instance (x x' : χ) : Decidable (anchor.Rises x x') := inferInstanceAs (Decidable (_ ∧ _))

variable {anchor}

theorem Rises.trans {x'' : χ} (h : anchor.Rises x x') (h' : anchor.Rises x' x'') :
    anchor.Rises x x'' :=
  ⟨h.1.trans h'.1, h.2.trans h'.2⟩

variable (anchor)

theorem rises_step {e : Addr × CosmosMsg} (harmless : Harmless dep e)
    (ran : outsideStep out dep x e = .ok x') : anchor.Rises x x' := by
  obtain ⟨sender, msg⟩ := e
  cases msg with
  | instantiate _ _ _ _ _ => cases ran
  | bankSend payee coins => exact anchor.transfer _ _ _ _ _ ran
  | execute target msg funds =>
      simp only [outsideStep, bind_ok] at ran
      obtain ⟨y, moved, ran⟩ := ran
      have first : anchor.Rises x y := anchor.transfer _ _ _ _ _ moved
      split at ran
      · cases ran
        exact first
      · next foreign =>
        simp only [bind_ok, pure_ok, Prod.exists] at ran
        obtain ⟨z, events, executed, rfl⟩ := ran
        have other := harmless.resolve_left foreign
        exact first.trans (anchor.others _ _ _ _ _ _ _ other executed)

theorem rises_run {executed : List (Addr × CosmosMsg)} (harmless : ∀ e ∈ executed, Harmless dep e)
    (ran : executed.foldlM (outsideStep out dep) x = .ok x') : anchor.Rises x x' := by
  induction executed generalizing x with
  | nil =>
      cases ran
      exact ⟨le_rfl, le_rfl⟩
  | cons e executed ih =>
      simp only [List.foldlM_cons, bind_ok] at ran
      obtain ⟨y, first, rest⟩ := ran
      have start := anchor.rises_step (harmless e List.mem_cons_self) first
      exact start.trans (ih (fun f member => harmless f (List.mem_cons_of_mem e member)) rest)

/-- A deposit arrives, and buys at the rate it meets. -/
theorem deposit_step {d : Uint128}
    (ran : outsideStep out dep x
      (dep.pool.addr, .execute anchor.market.addr .depositStable [⟨"uusd", d⟩]) = .ok x') :
    ∃ y, anchor.Rises x y ∧ anchor.aust x' = anchor.aust y + d.val * 10 ^ 18 / anchor.rate y ∧
      anchor.rate y ≤ anchor.rate x' := by
  simp only [outsideStep, bind_ok, if_neg anchor.market_foreign, pure_ok, Prod.exists] at ran
  obtain ⟨y, moved, z, events, executed, rfl⟩ := ran
  exact ⟨y, anchor.transfer _ _ _ _ _ moved, anchor.deposit _ _ _ _ executed⟩

theorem redeem_step {units : Uint128}
    (ran : outsideStep out dep x (dep.pool.addr,
      .execute anchor.token.addr (.send anchor.market.addr units .redeemStable) []) = .ok x') :
    anchor.aust x ≤ anchor.aust x' + units.val ∧ anchor.rate x ≤ anchor.rate x' := by
  simp only [outsideStep, bind_ok, if_neg anchor.token_foreign, pure_ok, Prod.exists] at ran
  obtain ⟨y, moved, z, events, executed, rfl⟩ := ran
  obtain ⟨more, better⟩ := anchor.transfer _ _ _ _ _ moved
  obtain ⟨burned, rising⟩ := anchor.redeem _ _ _ _ executed
  exact ⟨by omega, better.trans rising⟩

/-- dogether was configured with Anchor's addresses. -/
structure Listed (w : World χ) : Prop where
  market : w.pool.config.moneyMarketAddress = anchor.market.raw
  token : w.pool.config.anchorAustAddress = anchor.token.raw
  denom : w.pool.config.denom = "uusd"

def Covered (w : World χ) (n : ℕ) : Prop :=
  Units.Covers (10 ^ 18) w.pool.state.totalUstPool.val (anchor.aust w.outside) n
    (anchor.rate w.outside)

end Anchor

section Effects

variable {out : Outside χ} {dep : Deployment api} {anchor : Anchor out dep} {w w' : World χ}
  {tx : Tx api} {executed : List (Addr × CosmosMsg)} {n : ℕ}

theorem TxEffect.poolConfig (effect : TxEffect out dep w tx w' executed) :
    w'.pool.config = w.pool.config := by
  cases effect with
  | pooled msg pool => rw [pool.rest]
  | unPooled msg pool => rw [pool]
  | claimed msg staking cw20 pool => rw [pool.rest]
  | redeemed msg pool => rw [pool.rest]
  | bought msg pool => rw [pool]

/-- A deposit of `d` buys aUST for `d` at some rate of the transaction. -/
theorem TxEffect.pooled_outside (effect : TxEffect out dep w tx w' executed)
    (moved : executed.foldlM (outsideStep out dep) w.outside = .ok w'.outside)
    (listed : anchor.Listed w) (msg : tx.msg = .pool .pool) :
    ∃ d rate, anchor.rate w.outside ≤ rate ∧ rate ≤ anchor.rate w'.outside ∧
      w'.pool.state.totalUstPool.val = w.pool.state.totalUstPool.val + d ∧
      anchor.aust w.outside + d * 10 ^ 18 / rate ≤ anchor.aust w'.outside := by
  cases effect with
  | @pooled _ _ _ sent net market _ _ pool cw20 staking block list =>
      obtain ⟨denom, amount⟩ := net
      obtain rfl : market = anchor.market.addr :=
        Account.humanize_ok (listed.market ▸ pool.marketAddr)
      obtain ⟨_, _, _, _, _, same, _⟩ := deductTax_ok.mp pool.deducted
      obtain rfl : denom = "uusd" := same.trans listed.denom
      rw [list] at moved
      obtain ⟨x₁, x₂, before, deposit, after⟩ :=
        (foldlM_middle_ok [(tx.sender.addr, _)]).mp moved
      have first := anchor.rises_run (by simp [Harmless, ours]) before
      have last := anchor.rises_run (by simp [Harmless, ours]) after
      obtain ⟨y, arrived, bought, rising⟩ := anchor.deposit_step deposit
      refine ⟨amount.val, anchor.rate y, (first.trans arrived).2, rising.trans last.2,
        pool.total, ?_⟩
      have more := (first.trans arrived).1
      have kept := last.1
      omega
  | unPooled other => cases other.symm.trans msg
  | claimed other => cases other.symm.trans msg
  | redeemed other => cases other.symm.trans msg
  | bought other => cases other.symm.trans msg

/-- A withdrawal of `amount` burns no more aUST than it is worth at some rate of
the transaction. -/
theorem TxEffect.claimed_outside (effect : TxEffect out dep w tx w' executed)
    (moved : executed.foldlM (outsideStep out dep) w.outside = .ok w'.outside)
    (listed : anchor.Listed w) (msg : tx.msg = .pool .claimUnPool) :
    ∃ amount rate, anchor.rate w.outside ≤ rate ∧ rate ≤ anchor.rate w'.outside ∧
      w'.pool.state.totalUstPool.val + amount = w.pool.state.totalUstPool.val ∧
      anchor.aust w.outside ≤ anchor.aust w'.outside + amount * 10 ^ 18 / rate := by
  cases effect with
  | @claimed x amount redeemed _ _ _ _ _ market token _ staking cw20 pool before block list =>
      obtain rfl : market = anchor.market.addr :=
        Account.humanize_ok (listed.market ▸ pool.marketAddr)
      obtain rfl : token = anchor.token.addr := Account.humanize_ok (listed.token ▸ pool.austAddr)
      rw [list] at moved
      obtain ⟨x₁, x₂, start, redeem, payout⟩ :=
        (foldlM_middle_ok [(tx.sender.addr, _), (dep.pool.addr, _), (dep.staking.addr, _)]).mp moved
      obtain rfl : x = x₁ := Except.ok.inj (before.symm.trans start)
      have first := anchor.rises_run (by simp [Harmless, ours]) start
      have last := anchor.rises_run (by simp [Harmless]) payout
      obtain ⟨burned, rising⟩ := anchor.redeem_step redeem
      have queried := anchor.epochState _ _ pool.queriedRate
      have floor := pool.floor
      rw [queried] at floor
      refine ⟨amount.val, anchor.rate x, first.2, rising.trans last.2, pool.total, ?_⟩
      have more := first.1
      have kept := last.1
      omega
  | pooled other => cases other.symm.trans msg
  | unPooled other => cases other.symm.trans msg
  | redeemed other => cases other.symm.trans msg
  | bought other => cases other.symm.trans msg

/-- A redemption of earnings burns no more aUST than the surplus is worth. -/
theorem TxEffect.redeemed_outside (effect : TxEffect out dep w tx w' executed)
    (moved : executed.foldlM (outsideStep out dep) w.outside = .ok w'.outside)
    (listed : anchor.Listed w) (msg : tx.msg = .pool .redeemEarning) :
    ∃ surplus units rate, rate ≤ anchor.rate w'.outside ∧
      surplus + w'.pool.state.totalUstPool.val * 10 ^ 18 = units * rate ∧
      units ≤ anchor.aust w'.outside + surplus / rate := by
  cases effect with
  | @redeemed x _ _ _ balance redeemed interest earnings market token _ _ pool cw20 staking before
      block list =>
      obtain rfl : market = anchor.market.addr :=
        Account.humanize_ok (listed.market ▸ pool.marketAddr)
      obtain rfl : token = anchor.token.addr := Account.humanize_ok (listed.token ▸ pool.austAddr)
      rw [list] at moved
      obtain ⟨x₁, x₂, start, redeem, update⟩ := (foldlM_middle_ok [(tx.sender.addr, _)]).mp moved
      obtain rfl : x = x₁ := by
        simp only [List.foldlM_cons, List.foldlM_nil, outsideStep, before, ok_bind,
          if_pos (show ours dep dep.pool.addr from .inl rfl)] at start
        exact Except.ok.inj start
      have last := anchor.rises_run (by simp [Harmless, ours]) update
      obtain ⟨burned, rising⟩ := anchor.redeem_step redeem
      have queriedRate := anchor.epochState _ _ pool.queriedRate
      have queriedBalance := anchor.balance _ _ pool.queriedBalance
      have surplus := pool.surplus
      have floor := pool.floor
      rw [queriedRate] at floor
      rw [queriedRate, queriedBalance, ← pool.total] at surplus
      refine ⟨interest.val, anchor.aust x, anchor.rate x, rising.trans last.2, surplus, ?_⟩
      have kept := last.1
      omega
  | pooled other => cases other.symm.trans msg
  | unPooled other => cases other.symm.trans msg
  | claimed other => cases other.symm.trans msg
  | bought other => cases other.symm.trans msg

/-- Deposits since the last redemption of earnings, after one more transaction. -/
def countPools (n : ℕ) : ExecMsg → ℕ
  | .pool .pool => n + 1
  | .pool .redeemEarning => 0
  | _ => n

theorem TxEffect.covered (effect : TxEffect out dep w tx w' executed)
    (moved : executed.foldlM (outsideStep out dep) w.outside = .ok w'.outside)
    (listed : anchor.Listed w) (c : anchor.Covered w n) :
    anchor.Covered w' (countPools n tx.msg) := by
  have effect' := effect
  cases effect' with
  | pooled msg =>
      obtain ⟨d, rate, le, ge, total, bought⟩ := effect.pooled_outside moved listed msg
      have positive := (anchor.rate_pos w.outside).trans_le le
      rw [msg, Anchor.Covered, total]
      exact ((c.grow le_rfl le).deposit positive d).grow bought ge
  | unPooled msg pool cw20 staking block list =>
      have rises := anchor.rises_run (by simp [list, Harmless, ours]) moved
      rw [msg, Anchor.Covered, pool]
      exact c.grow rises.1 rises.2
  | claimed msg =>
      obtain ⟨amount, rate, le, ge, total, burned⟩ := effect.claimed_outside moved listed msg
      rw [msg]
      exact ((c.grow le_rfl le).redeem total burned).grow le_rfl ge
  | redeemed msg =>
      obtain ⟨surplus, units, rate, ge, excess, burned⟩ :=
        effect.redeemed_outside moved listed msg
      rw [msg]
      exact (Units.harvest excess burned).grow le_rfl ge
  | bought msg pool cw20 staking block list =>
      have rises := anchor.rises_run
        (by simp [list, Harmless, ours, dep.pool_ne_staking.symm]) moved
      rw [msg, Anchor.Covered, pool]
      exact c.grow rises.1 rises.2

/-- A withdrawal never increases the shortfall of principal. -/
theorem TxEffect.shortfall (effect : TxEffect out dep w tx w' executed)
    (moved : executed.foldlM (outsideStep out dep) w.outside = .ok w'.outside)
    (listed : anchor.Listed w) (msg : tx.msg = .pool .claimUnPool) :
    w'.pool.state.totalUstPool.val * 10 ^ 18 + anchor.aust w.outside * anchor.rate w.outside ≤
      w.pool.state.totalUstPool.val * 10 ^ 18 +
        anchor.aust w'.outside * anchor.rate w'.outside := by
  obtain ⟨amount, rate, le, ge, total, burned⟩ := effect.claimed_outside moved listed msg
  have kept := Units.redeem_shortfall total burned
  have below := Nat.mul_le_mul_left (anchor.aust w.outside) le
  have above := Nat.mul_le_mul_left (anchor.aust w'.outside) ge
  omega

end Effects

/-! Runs. -/

section Runs

variable (out : Outside χ) (dep : Deployment api)

def notePools (n : ℕ) (w : World χ) : Input χ api → ℕ
  | .transaction tx =>
    match runTx out dep w tx with
    | .ok _ => countPools n tx.msg
    | .error _ => n
  | .newBlock _ | .outside _ => n

/-- The successful deposits since the last redemption of earnings, or the start. -/
def poolsSince (w : World χ) (inputs : List (Input χ api)) : ℕ :=
  history (step out dep) (notePools out dep) 0 w inputs

variable {out dep}

/-- What happens outside takes no aUST from dogether and does not lower the rate. -/
def Anchor.Rising (anchor : Anchor out dep) (w : World χ) : Input χ api → Prop
  | .outside x => anchor.Rises w.outside x
  | .transaction _ | .newBlock _ => True

instance (anchor : Anchor out dep) (w : World χ) :
    (input : Input χ api) → Decidable (anchor.Rising w input)
  | .outside x => inferInstanceAs (Decidable (anchor.Rises w.outside x))
  | .transaction _ => .isTrue trivial
  | .newBlock _ => .isTrue trivial

theorem Stepped.covered {anchor : Anchor out dep} {w w' : World χ} {input : Input χ api} {n : ℕ}
    (stepped : Stepped out dep w input w') (rising : anchor.Rising w input)
    (listed : anchor.Listed w) (c : anchor.Covered w n) :
    anchor.Listed w' ∧ anchor.Covered w' (notePools out dep n w input) := by
  cases stepped with
  | refused failed =>
      simp only [notePools, failed]
      exact ⟨listed, c⟩
  | done ran effect =>
      simp only [notePools, ran]
      have same := effect.poolConfig
      refine ⟨⟨?_, ?_, ?_⟩, effect.covered (runTx_outside ran) listed c⟩
      · rw [same]
        exact listed.market
      · rw [same]
        exact listed.token
      · rw [same]
        exact listed.denom
  | newBlock _ => exact ⟨⟨listed.market, listed.token, listed.denom⟩, c⟩
  | oldBlock => exact ⟨listed, c⟩
  | outside x =>
      exact ⟨⟨listed.market, listed.token, listed.denom⟩, c.grow rising.1 rising.2⟩

/-- One withdrawal of principal, with the aUST that its reply redeems. -/
structure Redemption where
  amount : Uint128
  rate : Decimal256
  aust : Uint128
  redeems : Pool.principalToAust amount rate = .ok aust

/-- Principal covered in full can be withdrawn in any portions. -/
theorem Anchor.Covered.redeemable {anchor : Anchor out dep} {w : World χ}
    (c : anchor.Covered w 0) {withdrawals : List Redemption}
    (better : ∀ e ∈ withdrawals, anchor.rate w.outside ≤ e.rate.val)
    (within : (withdrawals.map fun e => e.amount.val).sum ≤ w.pool.state.totalUstPool.val) :
    (withdrawals.map fun e => e.aust.val).sum ≤ anchor.aust w.outside := by
  have portions := Units.Covers.redeemable c (anchor.rate_pos w.outside)
    (withdrawals.map fun e => (e.amount.val, e.rate.val)) (by simpa using better)
    (by simpa [Function.comp_def] using within)
  have same : withdrawals.map (fun e => e.aust.val) =
      withdrawals.map fun e => e.amount.val * 10 ^ 18 / e.rate.val := by
    apply List.map_congr_left
    intro e _
    exact (Pool.principalToAust_ok.mp e.redeems).2.2.2
  rw [same]
  simpa [Function.comp_def] using portions

/-- Anchor's aUST covers the principal up to one unit per deposit since the last
redemption of earnings. Withdrawals never make it less; right after a redemption
the cover is full, and then any withdrawals of principal find their aUST. -/
theorem principal_covered (anchor : Anchor out dep) {deployer : Account api}
    {msg : Pool.InstantiateMsg} {m : Cw20.InstantiateMsg} {block : BlockInfo} {x : χ} {w : World χ}
    (token : msg.messageCw20 = .cw20 m) (empty : m.initialBalances = [])
    (deployed : deploy out dep deployer msg block x = .ok w)
    (market : msg.moneyMarketAddress = anchor.market.addr)
    (aust : msg.anchorAustAddress = anchor.token.addr) {inputs : List (Input χ api)}
    (rising : Along (step out dep) anchor.Rising w inputs) :
    let w₁ := run (step out dep) w inputs
    let a₁ := anchor.aust w₁.outside
    let r₁ := anchor.rate w₁.outside
    w₁.pool.state.totalUstPool.val * 10 ^ 18 ≤ a₁ * r₁ + poolsSince out dep w inputs * r₁ ∧
    ∀ tx w₂ r, runTx out dep w₁ tx = .ok (w₂, r) →
      let a₂ := anchor.aust w₂.outside
      let r₂ := anchor.rate w₂.outside
      (tx.msg = .pool .claimUnPool →
        w₂.pool.state.totalUstPool.val * 10 ^ 18 + a₁ * r₁ ≤
          w₁.pool.state.totalUstPool.val * 10 ^ 18 + a₂ * r₂) ∧
      (tx.msg = .pool .redeemEarning →
        w₂.pool.state.totalUstPool.val * 10 ^ 18 ≤ a₂ * r₂ ∧
        ∀ withdrawals : List Redemption, (∀ e ∈ withdrawals, r₂ ≤ e.rate.val) →
          (withdrawals.map fun e => e.amount.val).sum ≤ w₂.pool.state.totalUstPool.val →
          (withdrawals.map fun e => e.aust.val).sum ≤ a₂) := by
  intro w₁ a₁ r₁
  have d := deploy_ok token deployed
  have listed : anchor.Listed w := by
    have hmarket := d.market
    have haust := d.aust
    rw [market] at hmarket
    rw [aust] at haust
    exact ⟨Account.canonicalize_ok hmarket, Account.canonicalize_ok haust, d.denom⟩
  have start : anchor.Covered w 0 := by
    rw [Anchor.Covered, d.empty, Units.Covers, Word.val_zero, Nat.zero_mul]
    exact Nat.zero_le _
  obtain ⟨wired, listed₁, c⟩ : Wired dep w₁ ∧ anchor.Listed w₁ ∧
      anchor.Covered w₁ (poolsSince out dep w inputs) := by
    refine along_rule (fun w n => Wired dep w ∧ anchor.Listed w ∧ anchor.Covered w n)
      ⟨d.wired empty, listed, start⟩ ?_ rising
    rintro w n input ⟨wired, listed, c⟩ rises
    have stepped : Stepped out dep w input (step out dep w input) := step_stepped wired input
    exact ⟨stepped.wired wired, stepped.covered rises listed c⟩
  refine ⟨c, ?_⟩
  intro tx w₂ r ran a₂ r₂
  have effect := runTx_effect wired ran
  have moved := runTx_outside ran
  refine ⟨fun claim => effect.shortfall moved listed₁ claim, ?_⟩
  intro redeem
  have full : anchor.Covered w₂ 0 := by
    have after := effect.covered moved listed₁ c
    rw [redeem] at after
    exact after
  refine ⟨?_, fun withdrawals better within => full.redeemable better within⟩
  rw [Anchor.Covered, Units.Covers, Nat.zero_mul, Nat.add_zero] at full
  exact full

end Runs

/-- The sample's outside behaves as Anchor is assumed to. -/
def Sample.anchor : Anchor Sample.out Sample.dep where
  market := Sample.market
  token := Sample.aust
  aust x := x.aust.val
  rate x := x.rate.val
  market_foreign := by decide +kernel
  token_foreign := by decide +kernel
  rate_pos x := x.positive
  epochState := by
    intro x r answered
    simp only [Sample.out, Sample.querier, if_true, Option.some.injEq] at answered
    rw [answered]
  balance := by
    intro x b answered
    simp only [Sample.out, Sample.querier, and_self, if_true, Option.some.injEq] at answered
    rw [answered]
  transfer := by
    intro sender receiver funds x x' moved
    cases moved
    exact ⟨le_rfl, le_rfl⟩
  deposit := by
    intro d x x' events ran
    simp only [Sample.out, Sample.executeAnchor, if_true, bind_ok, Word.narrow_ok, pure_ok,
      Prod.mk.injEq] at ran
    obtain ⟨_, _, aust, minted, rfl, _⟩ := ran
    exact ⟨minted, le_rfl⟩
  redeem := by
    intro units x x' events ran
    simp only [Sample.out, Sample.executeAnchor, if_true, bind_ok, Word.sub_ok, pure_ok,
      Prod.mk.injEq] at ran
    obtain ⟨_, _, aust, burned, rfl, _⟩ := ran
    exact ⟨burned, le_rfl⟩
  others := by
    intro sender target msg funds x x' events other ran
    simp only [Sample.out, Sample.executeAnchor, if_neg other, Except.ok.injEq,
      Prod.mk.injEq] at ran
    obtain ⟨rfl, _⟩ := ran
    exact ⟨le_rfl, le_rfl⟩

theorem sample_covered : ∃ w, Sample.start = .ok w ∧
    let w₁ := run (step Sample.out Sample.dep) w Sample.waiting
    w₁.pool.state.totalUstPool.val = 2970 ∧
    poolsSince Sample.out Sample.dep w Sample.waiting = 0 ∧
    2970 * 10 ^ 18 ≤ w₁.outside.aust.val * w₁.outside.rate.val := by
  obtain ⟨w, deployed, rising, total, none⟩ : ∃ w, Sample.start = .ok w ∧
      Along (step Sample.out Sample.dep) Sample.anchor.Rising w Sample.waiting ∧
      (run (step Sample.out Sample.dep) w Sample.waiting).pool.state.totalUstPool.val = 2970 ∧
      poolsSince Sample.out Sample.dep w Sample.waiting = 0 := by
    decide +kernel
  obtain ⟨covered, _⟩ := principal_covered Sample.anchor rfl rfl deployed rfl rfl rising
  rw [total, none, Nat.zero_mul, Nat.add_zero] at covered
  exact ⟨w, deployed, total, none, covered⟩

end DogetherContracts.System
