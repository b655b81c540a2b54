import DogetherContracts.System.Accepted

/-! # Leaving

An account that un-pools all of its stake gets everything it has after one
unbonding period, whatever anybody else does in between. -/
namespace DogetherContracts.System
open Checked Run

variable {χ : Type} {api : Api} {out : Outside χ} {dep : Deployment api}

theorem txActions_subject {sender : CanonicalAddr} {executed : List (Addr × CosmosMsg)}
    {msg : ExecMsg} {u : Vault.Action CanonicalAddr ℕ}
    (member : u ∈ txActions sender executed msg) : u.subject = some sender := by
  cases msg with
  | pool m =>
      cases m <;> simp only [txActions, List.mem_singleton, List.not_mem_nil] at member
      · rw [member]
        rfl
      · rw [member]
        rfl
      · rw [member]
        rfl
  | cw20 m => cases member
  | staking m => cases member
  | depositStable => cases member
  | send contract amount payload => cases member
  | register address altered combination => cases member

/-- Transactions of others are actions about others. -/
theorem actions_subject {w : World χ} {input : Input χ api} {s : Account api}
    {u : Vault.Action CanonicalAddr ℕ}
    (other : ∀ tx, input = .transaction tx → tx.sender.addr ≠ s.addr)
    (member : u ∈ actions out dep w input) : u.subject ≠ some s.raw := by
  cases input with
  | transaction tx =>
      cases ran : runTx out dep w tx with
      | error e =>
          simp only [actions, ran] at member
          cases member
      | ok result =>
          simp only [actions, ran] at member
          rw [txActions_subject member]
          exact fun same => other tx rfl (Account.raw_inj (Option.some.inj same))
  | newBlock block =>
      rw [actions] at member
      split at member
      · rw [List.mem_singleton.mp member]
        exact (Option.some_ne_none _).symm
      · cases member
  | outside x => cases member

section Leaving

variable {w w₁ : World χ} {request claim : Tx api} {amount : Uint128} {r : Receipt}

theorem request_vault (reachable : Reachable out dep w) (msg : request.msg = .pool (.unPool amount))
    (ran : runTx out dep w request = .ok (w₁, r)) :
    Reachable out dep w₁ ∧
      w₁.staking.config.unbondingPeriod = w.staking.config.unbondingPeriod ∧
      vaultOf w₁ = Vault.step w.staking.config.unbondingPeriod.val (vaultOf w)
        (.request request.sender.raw amount.val) ∧ 0 < amount.val := by
  have effect := runTx_effect reachable.wired ran
  have stepped : step out dep w (.transaction request) = w₁ := by simp only [step, ran]
  have matched := effect.matched reachable.byHeight
  obtain ⟨enabled, _⟩ := msg ▸ effect.enabled reachable.byHeight 0
  rw [msg] at matched
  exact ⟨stepped ▸ reachable.step (.transaction request), by rw [effect.config], matched, enabled.1⟩

theorem claim_vault (reachable : Reachable out dep w) (msg : claim.msg = .pool .claimUnPool)
    (ran : runTx out dep w claim = .ok (w₁, r)) :
    amounts burnAmount r.executed = (vaultOf w).matured claim.sender.raw ∧
      vaultOf w₁ = Vault.step w.staking.config.unbondingPeriod.val (vaultOf w)
        (.release claim.sender.raw (amounts burnAmount r.executed)) := by
  have effect := runTx_effect reachable.wired ran
  have matched := effect.matched reachable.byHeight
  obtain ⟨enabled, _⟩ := msg ▸ effect.enabled reachable.byHeight 0
  rw [msg] at matched
  exact ⟨enabled.2, matched⟩

/-- A period after the request everything is due, and a release leaves nothing. -/
theorem exit_due (reachable : Reachable out dep w) (msg : request.msg = .pool (.unPool amount))
    (whole : amount.val = (vaultOf w).stake request.sender.raw)
    (ran : runTx out dep w request = .ok (w₁, r)) {inputs : List (Input χ api)}
    (others : ∀ tx, Input.transaction tx ∈ inputs → tx.sender.addr ≠ request.sender.addr)
    (passed : w.block.height.val + w.staking.config.unbondingPeriod.val ≤
      (run (step out dep) w₁ inputs).block.height.val) :
    let everything := (vaultOf w).holdings request.sender.raw
    let w₂ := run (step out dep) w₁ inputs
    Reachable out dep w₂ ∧ 0 < everything ∧
      (vaultOf w₂).matured request.sender.raw = everything ∧
      (Vault.step w₂.staking.config.unbondingPeriod.val (vaultOf w₂)
        (.release request.sender.raw everything)).holdings request.sender.raw = 0 := by
  intro everything w₂
  obtain ⟨reachable₁, period, vault₁, positive⟩ := request_vault reachable msg ran
  have sim := simulation out dep w.staking.config.unbondingPeriod.val
  have running : Running out dep w.staking.config.unbondingPeriod.val w₁ :=
    ⟨reachable₁, by rw [period]⟩
  obtain ⟨_, vault₂⟩ := sim.run_matched running inputs
  have unbonding := (run_invariant (Running out dep w.staking.config.unbondingPeriod.val) running
    (fun _ input running => running.step input) inputs).unbonding
  have strangers : ∀ u ∈ trace (step out dep) (actions out dep) w₁ inputs,
      u.subject ≠ some request.sender.raw := by
    intro u member
    obtain ⟨w', input, listed, acted⟩ := mem_trace member
    exact actions_subject (fun tx same => others tx (same ▸ listed)) acted
  rw [vault₁, whole] at vault₂
  have reached : (vaultOf w).now + w.staking.config.unbondingPeriod.val ≤ (vaultOf w₂).now := passed
  rw [vault₂] at reached
  obtain ⟨due, nothing⟩ := Vault.exit reachable.timely strangers reached
  rw [← vault₂] at due nothing
  have part : everything = (vaultOf w).stake request.sender.raw +
    TimeLock.total ((vaultOf w).pending request.sender.raw) := rfl
  refine ⟨reachable₁.run inputs, by omega, due, ?_⟩
  rw [unbonding]
  exact nothing

/-- Once an account has un-pooled all of its stake and a period has passed, a claim
goes through exactly when Anchor and the bank go along with paying everything the
account had and that payout is in range, and it leaves the account nothing. -/
theorem exit_complete (reachable : Reachable out dep w)
    (msg : request.msg = .pool (.unPool amount))
    (whole : amount.val = (vaultOf w).stake request.sender.raw)
    (ran : runTx out dep w request = .ok (w₁, r)) (inputs : List (Input χ api))
    (others : ∀ tx, Input.transaction tx ∈ inputs → tx.sender.addr ≠ request.sender.addr)
    (passed : w.block.height.val + w.staking.config.unbondingPeriod.val ≤
      (run (step out dep) w₁ inputs).block.height.val)
    (sender : claim.sender = request.sender) (contract : claim.contract = dep.pool.addr)
    (signed : ¬ ours dep claim.sender.addr) (msg' : claim.msg = .pool .claimUnPool)
    (gas : 3 ≤ claim.gas) :
    let everything := (vaultOf w).holdings request.sender.raw
    let w₂ := run (step out dep) w₁ inputs
    ((∃ w₃ r₃, runTx out dep w₂ claim = .ok (w₃, r₃)) ↔
        ∃ total x x' moneyMarket aust rate redeemed taxRate taxCap net, total.val = everything ∧
          Payout out dep w₂ claim total x x' moneyMarket aust rate redeemed taxRate taxCap net ∧
          Pool.Computable total rate taxRate) ∧
      ∀ w₃ r₃, runTx out dep w₂ claim = .ok (w₃, r₃) →
        amounts burnAmount r₃.executed = everything ∧
          (vaultOf w₃).holdings request.sender.raw = 0 := by
  intro everything w₂
  obtain ⟨reachable₂, owned, due, nothing⟩ := exit_due reachable msg whole ran others passed
  rw [← sender] at due
  obtain ⟨g, hg⟩ : ∃ g, claim.gas = g + 3 := ⟨claim.gas - 3, by omega⟩
  constructor
  · rw [runTx_call contract dep.ours_pool signed, msg', hg]
    constructor
    · rintro ⟨w₃, r₃, ran₃⟩
      obtain ⟨total, x, x', moneyMarket, aust, rate, redeemed, taxRate, taxCap, net, _, matured,
        payout, computable, _⟩ := claim_payout reachable₂ ran₃
      refine ⟨total, x, x', moneyMarket, aust, rate, redeemed, taxRate, taxCap, net, ?_, payout,
        computable⟩
      rw [matured, due, sender]
    · rintro ⟨total, x, x', moneyMarket, aust, rate, redeemed, taxRate, taxCap, net, paid, payout,
        computable⟩
      refine claim_accepted g reachable₂ (paid ▸ owned) ?_ payout computable
      rw [paid, due, sender]
  · intro w₃ r₃ ran₃
    obtain ⟨burned, vault₃⟩ := claim_vault reachable₂ msg' ran₃
    have all : amounts burnAmount r₃.executed = everything := by rw [burned, due, sender]
    rw [all, sender] at vault₃
    exact ⟨all, vault₃ ▸ nothing⟩

/-- Nobody does anything for 100 blocks. -/
def Sample.later : List (Input Sample.Reserve Sample.api) :=
  [.newBlock (Sample.block (.ofNat 1200))]

theorem Sample.later_strangers (s : Account Sample.api) :
    ∀ tx, Input.transaction tx ∈ Sample.later → tx.sender.addr ≠ s.addr := by
  intro tx member
  cases List.mem_singleton.mp member

/-- Bob leaves with the 990 that were pooled for him. -/
theorem bob_leaves : ∃ w w₁ r w₃ r₃, Reachable Sample.out Sample.dep w ∧
    runTx Sample.out Sample.dep w (Sample.call Sample.bob (.unPool (.ofNat 990)) []) =
      .ok (w₁, r) ∧
    runTx Sample.out Sample.dep (run (step Sample.out Sample.dep) w₁ Sample.later)
      (Sample.call Sample.bob .claimUnPool []) = .ok (w₃, r₃) ∧
    amounts burnAmount r₃.executed = 990 ∧ (vaultOf w₃).holdings Sample.bob.raw = 0 := by
  obtain ⟨w, deployed, all, stake, ⟨w₁, r⟩, ran, passed, ⟨w₃, r₃⟩, ran₃, _⟩ :
      ∃ w, Sample.start = .ok w ∧
        let w' := run (step Sample.out Sample.dep) w Sample.waiting
        (vaultOf w').holdings Sample.bob.raw = 990 ∧ 990 = (vaultOf w').stake Sample.bob.raw ∧
          ∃ p, runTx Sample.out Sample.dep w'
              (Sample.call Sample.bob (.unPool (.ofNat 990)) []) = .ok p ∧
            w'.block.height.val + w'.staking.config.unbondingPeriod.val ≤
              (run (step Sample.out Sample.dep) p.1 Sample.later).block.height.val ∧
            ∃ q, runTx Sample.out Sample.dep (run (step Sample.out Sample.dep) p.1 Sample.later)
              (Sample.call Sample.bob .claimUnPool []) = .ok q ∧ q.2.executed.length = 5 := by
    decide +kernel
  have start : Reachable Sample.out Sample.dep w := .deployed rfl rfl deployed
  have reachable := start.run Sample.waiting
  generalize run (step Sample.out Sample.dep) w Sample.waiting = w' at *
  have signed : ¬ ours Sample.dep Sample.bob.addr := by decide
  have sender : (Sample.call Sample.bob .claimUnPool []).sender =
      (Sample.call Sample.bob (.unPool (.ofNat 990)) []).sender := rfl
  obtain ⟨_, pays⟩ := exit_complete reachable rfl stake ran Sample.later (Sample.later_strangers _)
    passed sender rfl signed rfl (by decide)
  obtain ⟨burned, nothing⟩ := pays w₃ r₃ ran₃
  exact ⟨w', w₁, r, w₃, r₃, reachable, ran, ran₃, burned.trans all, nothing⟩

end Leaving

/-! Nobody is locked in. -/

/-- The pool and the rewards on record have a decimal form. -/
structure InRange (w : World χ) : Prop where
  pool : w.pool.state.totalUstPool.val ≤ Staking.maxWhole
  rewards : w.staking.state.prevRewardBalance.val ≤ Staking.maxWhole

/-- The bank lets messages without coins through. -/
def Free (out : Outside χ) : Prop :=
  ∀ sender target x, ∃ x', out.transfer sender target [] x = .ok x'

section Locked

variable {w : World χ} {request : Tx api} {amount : Uint128}

/-- Then every settlement has one, too. -/
theorem Reachable.representable (reachable : Reachable out dep w) (range : InRange w)
    (a : CanonicalAddr) : Staking.Representable w.staking a := by
  obtain ⟨dust, solvent⟩ := reachable.backing.solvent
  have whole := reachable.backing.pool
  have small := range.pool
  have bounded : Staking.Bounded w.staking Staking.maxWhole Staking.maxWhole :=
    ⟨by omega, range.rewards⟩
  exact solvent.representable bounded (Nat.le_refl _) (Nat.le_refl _) a

/-- An account has no more than the pool. -/
theorem Reachable.holdings_le (reachable : Reachable out dep w) (a : CanonicalAddr) :
    (vaultOf w).holdings a ≤ w.pool.state.totalUstPool.val := by
  obtain ⟨dust, solvent⟩ := reachable.backing.solvent
  have whole := reachable.backing.pool
  have stake := w.staking.balance_le_balances a
  have claims := w.staking.claimed_le_claimsTotal a
  rw [← solvent.staked] at stake
  rw [← Staking.total_dues (reachable.byHeight a)] at claims
  rw [whole]
  exact Nat.add_le_add stake claims

theorem free_request (reachable : Reachable out dep w) (range : InRange w) (free : Free out)
    (msg : request.msg = .pool (.unPool amount)) (contract : request.contract = dep.pool.addr)
    (funds : request.funds = []) (signed : ¬ ours dep request.sender.addr) (gas : 2 ≤ request.gas)
    (enabled : Vault.Enabled (vaultOf w) (.request request.sender.raw amount.val))
    (height : w.block.height.val + w.staking.config.unbondingPeriod.val < 2 ^ 64) :
    ∃ w₁ r, runTx out dep w request = .ok (w₁, r) := by
  obtain ⟨x, first⟩ := free request.sender.addr dep.pool.addr w.outside
  obtain ⟨x', second⟩ := free dep.pool.addr dep.staking.addr x
  have moved : List.foldlM (outsideStep out dep) w.outside
      [(request.sender.addr, .execute dep.pool.addr (.pool (.unPool amount)) request.funds),
      (dep.pool.addr, .execute dep.staking.addr
        (.staking (.unbondStake amount request.sender.addr)) [])] = .ok x' := by
    simp only [List.foldlM_cons, List.foldlM_nil, bind_pure, outsideStep_ours dep.ours_pool,
      outsideStep_ours dep.ours_staking, funds, first, second, ok_bind]
  obtain ⟨g, hg⟩ : ∃ g, request.gas = g + 2 := ⟨request.gas - 2, by omega⟩
  rw [runTx_call contract dep.ours_pool signed, msg, hg]
  exact request_accepted g reachable enabled (reachable.representable range _) height moved

/-- While the sums are in range, whoever has stake gets out with everything: the request
for all of it goes through, and once a period has passed, whatever others do, only the
outside can stop the claim: with a refusal, an exchange rate at which the aUST to redeem
leave the range of the decimals, or such a tax rate. -/
theorem stake_never_locked (reachable : Reachable out dep w) (range : InRange w)
    (free : Free out) (msg : request.msg = .pool (.unPool amount))
    (contract : request.contract = dep.pool.addr) (funds : request.funds = [])
    (signed : ¬ ours dep request.sender.addr) (gas : 2 ≤ request.gas)
    (whole : amount.val = (vaultOf w).stake request.sender.raw) (positive : 0 < amount.val)
    (height : w.block.height.val + w.staking.config.unbondingPeriod.val < 2 ^ 64) :
    ∃ w₁ r, runTx out dep w request = .ok (w₁, r) ∧
      ∀ (inputs : List (Input χ api)) (claim : Tx api),
        (∀ tx, Input.transaction tx ∈ inputs → tx.sender.addr ≠ request.sender.addr) →
        w.block.height.val + w.staking.config.unbondingPeriod.val ≤
          (run (step out dep) w₁ inputs).block.height.val →
        claim.sender = request.sender → claim.contract = dep.pool.addr →
        claim.msg = .pool .claimUnPool → 3 ≤ claim.gas →
        ∀ total x x' moneyMarket aust rate redeemed taxRate taxCap net,
          total.val = (vaultOf w).holdings request.sender.raw →
          Payout out dep (run (step out dep) w₁ inputs) claim total x x' moneyMarket aust rate
            redeemed taxRate taxCap net →
          0 < rate.val → total.val * 10 ^ 18 * 10 ^ 18 / rate.val < 2 ^ 128 →
          taxRate.val + 10 ^ 18 < 2 ^ 128 →
          ∃ w₃ r₃, runTx out dep (run (step out dep) w₁ inputs) claim = .ok (w₃, r₃) := by
  have enabled : Vault.Enabled (vaultOf w) (.request request.sender.raw amount.val) :=
    ⟨positive, Nat.le_of_eq whole⟩
  obtain ⟨w₁, r, ran⟩ :=
    free_request reachable range free msg contract funds signed gas enabled height
  refine ⟨w₁, r, ran, ?_⟩
  intro inputs claim others passed sender contract' msg' gas' total x x' moneyMarket aust rate
    redeemed taxRate taxCap net all payout positive' austFits taxFits
  obtain ⟨reachable₂, owned, due, _⟩ := exit_due reachable msg whole ran others passed
  obtain ⟨g, hg⟩ : ∃ g, claim.gas = g + 3 := ⟨claim.gas - 3, by omega⟩
  have amountFits : total.val * 10 ^ 18 < 2 ^ 128 := by
    apply Staking.scaled_lt
    rw [all]
    exact (reachable.holdings_le request.sender.raw).trans range.pool
  rw [runTx_call contract' dep.ours_pool (sender ▸ signed), msg', hg]
  refine claim_accepted g reachable₂ (all ▸ owned) ?_ payout
    ⟨positive', amountFits, austFits, taxFits⟩
  rw [all, sender, due]

/-- Bob's 990 are not locked: 100 blocks after his request they are paid out. -/
theorem bob_never_locked : ∃ w w₁ r w₃ r₃, Reachable Sample.out Sample.dep w ∧
    runTx Sample.out Sample.dep w (Sample.call Sample.bob (.unPool (.ofNat 990)) []) =
      .ok (w₁, r) ∧
    runTx Sample.out Sample.dep (run (step Sample.out Sample.dep) w₁ Sample.later)
      (Sample.call Sample.bob .claimUnPool []) = .ok (w₃, r₃) := by
  obtain ⟨w, deployed, ⟨pool, rewards, whole, height, all⟩, ⟨w₁, r⟩, ran, passed, market, aust,
      denom, x, before, rate, x', after, _⟩ :
      ∃ w, Sample.start = .ok w ∧
        let w' := run (step Sample.out Sample.dep) w Sample.waiting
        (w'.pool.state.totalUstPool.val ≤ Staking.maxWhole ∧
          w'.staking.state.prevRewardBalance.val ≤ Staking.maxWhole ∧
          990 = (vaultOf w').stake Sample.bob.raw ∧
          w'.block.height.val + w'.staking.config.unbondingPeriod.val < 2 ^ 64 ∧
          990 = (vaultOf w').holdings Sample.bob.raw) ∧
        ∃ p, runTx Sample.out Sample.dep w'
            (Sample.call Sample.bob (.unPool (.ofNat 990)) []) = .ok p ∧
          let w₂ := run (step Sample.out Sample.dep) p.1 Sample.later
          w'.block.height.val + w'.staking.config.unbondingPeriod.val ≤ w₂.block.height.val ∧
          Sample.api.humanize w₂.pool.config.moneyMarketAddress = .ok "market" ∧
          Sample.api.humanize w₂.pool.config.anchorAustAddress = .ok "aust" ∧
          w₂.pool.config.denom = "uusd" ∧
          ∃ x, List.foldlM (outsideStep Sample.out Sample.dep) w₂.outside
              [("bob", .execute "dogether" (.pool .claimUnPool) []),
              ("dogether", .execute "staking" (.staking (.withdrawStake none "bob")) []),
              ("staking", .execute "token" (.cw20 (.burn (.ofNat 990))) [])] = .ok x ∧
            x.rate = ⟨.ofNat (13 * 10 ^ 17)⟩ ∧
            ∃ x', List.foldlM (outsideStep Sample.out Sample.dep) x
              [("dogether", .execute "aust" (.send "market" (.ofNat 761) .redeemStable) []),
              ("dogether", .bankSend "bob" [⟨"uusd", .ofNat 970⟩])] = .ok x' ∧ True := by
    decide +kernel
  have start : Reachable Sample.out Sample.dep w := .deployed rfl rfl deployed
  have reachable := start.run Sample.waiting
  have free : Free Sample.out := fun _ _ x => ⟨x, rfl⟩
  have signed : ¬ ours Sample.dep Sample.bob.addr := by decide
  have gas : 2 ≤ (Sample.call Sample.bob (.unPool (.ofNat 990)) []).gas := by decide
  have positive : 0 < (Word.ofNat 990 : Uint128).val := by decide
  generalize run (step Sample.out Sample.dep) w Sample.waiting = w' at *
  obtain ⟨w₁', r', ran', leaves⟩ := stake_never_locked reachable ⟨pool, rewards⟩ free rfl rfl rfl
    signed gas whole positive height
  obtain ⟨rfl, rfl⟩ := Prod.mk.inj (Except.ok.inj (ran'.symm.trans ran))
  have payout : Payout Sample.out Sample.dep (run (step Sample.out Sample.dep) w₁' Sample.later)
      (Sample.call Sample.bob .claimUnPool []) (.ofNat 990) x x' "market" "aust"
      ⟨.ofNat (13 * 10 ^ 17)⟩ (.ofNat 761) ⟨.ofNat (10 ^ 16)⟩ (.ofNat 100)
      ⟨"uusd", .ofNat 970⟩ := {
    before := before
    quoted := {
      marketAddr := market
      austAddr := aust
      queriedRate := congrArg some rate
      queriedTaxRate := rfl
      queriedTaxCap := rfl
      floor := by decide
      denom := denom.symm
      taxed := by decide }
    external := by decide
    after := after }
  obtain ⟨w₃, r₃, claimed⟩ := leaves Sample.later (Sample.call Sample.bob .claimUnPool [])
    (Sample.later_strangers _) passed rfl rfl rfl (by decide) _ _ _ _ _ _ _ _ _ _ all payout
    (by decide) (by decide) (by decide)
  exact ⟨w', w₁', r', w₃, r₃, reachable, ran', claimed⟩

end Locked
end DogetherContracts.System
