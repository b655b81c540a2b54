import DogetherContracts.Cw20.Accounts
import DogetherContracts.Staking.Range
import DogetherContracts.System.Forward
import DogetherContracts.System.Refinement

/-! # What is accepted

Whether a transaction goes through is settled by the vault, the range of the
decimals, and the outside: inside the three contracts nothing else can stop it. -/
namespace DogetherContracts.Pool
open Checked

/-- The answers that a payout of `amount` rests on, and what is redeemed and paid at
them: the aUST that the amount buys, rounded down, and what two deductions leave. -/
structure Quoted (api : Api) (querier : Querier) (st : Storage) (amount : Uint128)
    (moneyMarket aust : Addr) (rate : Decimal256) (redeemed : Uint128) (taxRate : Decimal)
    (taxCap : Uint128) (net : Coin) : Prop where
  marketAddr : api.humanize st.config.moneyMarketAddress = .ok moneyMarket
  austAddr : api.humanize st.config.anchorAustAddress = .ok aust
  queriedRate : querier.epochState moneyMarket = some rate
  queriedTaxRate : querier.taxRate = some taxRate
  queriedTaxCap : querier.taxCap st.config.denom = some taxCap
  floor : redeemed.val = amount.val * 10 ^ 18 / rate.val
  denom : net.denom = st.config.denom
  taxed : net.amount.val = Levy.net (10 ^ 18) taxRate.val taxCap.val
    (Levy.net (10 ^ 18) taxRate.val taxCap.val amount.val)

/-- The range of the numbers that the reply itself computes with: the decimals of the
amount and of the aUST it buys, and the divisor of the tax. -/
structure Computable (amount : Uint128) (rate : Decimal256) (taxRate : Decimal) : Prop where
  positive : 0 < rate.val
  amountFits : amount.val * 10 ^ 18 < 2 ^ 128
  austFits : amount.val * 10 ^ 18 * 10 ^ 18 / rate.val < 2 ^ 128
  taxFits : taxRate.val + 10 ^ 18 < 2 ^ 128

section Reply

variable {api : Api} {querier : Querier} {st st' : Storage} {events : List Event} {wasm : Event}
  {recipient : String} {amount redeemed : Uint128} {moneyMarket aust : Addr} {rate : Decimal256}
  {taxRate : Decimal} {taxCap : Uint128} {net : Coin} {res : Response}

theorem Quoted.net_le
    (quoted : Quoted api querier st amount moneyMarket aust rate redeemed taxRate taxCap net) :
    net.amount.val ≤ amount.val := by
  rw [quoted.taxed]
  exact (Nat.sub_le _ _).trans (Nat.sub_le _ _)

theorem withdrawReply_quoted (event : events.find? (fun e => e.ty = "wasm") = some wasm)
    (withdraw : findAttribute "withdraw" wasm.attributes = some amount.toString)
    (payee : findAttribute "recipient" wasm.attributes = some recipient)
    (h : withdrawReply api querier st (.ok events) = .ok (st', res)) :
    ∃ moneyMarket aust rate redeemed taxRate taxCap net,
      Quoted api querier st amount moneyMarket aust rate redeemed taxRate taxCap net ∧
      Computable amount rate taxRate ∧
      res.messages = [⟨.execute aust (.send moneyMarket redeemed .redeemStable) [], none⟩,
        ⟨.bankSend recipient [net], none⟩] := by
  simp only [withdrawReply, event, withdraw, payee, orReject, Uint128.parse_toString, ok_bind] at h
  obtain ⟨moneyMarket, hmm, h⟩ := bind_ok.mp h
  obtain ⟨rate, hrate, h⟩ := bind_ok.mp h
  simp only [bind_ok, pure_ok, Prod.mk.injEq] at h
  obtain ⟨redeemed, worth, aust, haust, total, _, taxed, first, net, second, rfl, rfl⟩ := h
  obtain ⟨nonzero, amountFits, austFits, floor⟩ := principalToAust_ok.mp worth
  obtain ⟨taxRate, taxCap, queriedTaxRate, queriedTaxCap, taxFits⟩ := deductTax_answers first
  obtain ⟨_, _, _, _, _, denom, _⟩ := deductTax_ok.mp second
  have once := deductTax_net first queriedTaxRate queriedTaxCap
  have twice := deductTax_net second queriedTaxRate queriedTaxCap
  exact ⟨moneyMarket, aust, rate, redeemed, taxRate, taxCap, net,
    ⟨hmm, haust, orReject_ok.mp hrate, queriedTaxRate, queriedTaxCap, floor, denom,
      once ▸ twice⟩,
    ⟨Nat.pos_of_ne_zero nonzero, amountFits, austFits, taxFits⟩, rfl⟩

theorem withdrawReply_of_quoted (event : events.find? (fun e => e.ty = "wasm") = some wasm)
    (withdraw : findAttribute "withdraw" wasm.attributes = some amount.toString)
    (payee : findAttribute "recipient" wasm.attributes = some recipient)
    (quoted : Quoted api querier st amount moneyMarket aust rate redeemed taxRate taxCap net)
    (computable : Computable amount rate taxRate)
    (held : amount.val ≤ st.state.totalUstPool.val) :
    ∃ st' res, withdrawReply api querier st (.ok events) = .ok (st', res) ∧
      res.messages = [⟨.execute aust (.send moneyMarket redeemed .redeemStable) [], none⟩,
        ⟨.bankSend recipient [net], none⟩] := by
  obtain ⟨rest, hrest⟩ := Word.sub_of_le (e := Fault.panic) held
  have worth : principalToAust amount rate = .ok redeemed :=
    principalToAust_ok.mpr ⟨computable.positive.ne', computable.amountFits, computable.austFits,
      quoted.floor⟩
  obtain ⟨taxed, first, _, once⟩ := deductTax_of_fits ⟨st.config.denom, amount⟩
    quoted.queriedTaxRate quoted.queriedTaxCap computable.taxFits
  obtain ⟨net', second, denom, twice⟩ := deductTax_of_fits ⟨st.config.denom, taxed.amount⟩
    quoted.queriedTaxRate quoted.queriedTaxCap computable.taxFits
  obtain rfl : net' = net := by
    rw [once] at twice
    exact Coin.ext (denom.trans quoted.denom.symm) (Word.ext (twice.trans quoted.taxed.symm))
  simp only [withdrawReply, event, withdraw, payee, orReject, Uint128.parse_toString, ok_bind,
    quoted.marketAddr, quoted.queriedRate, worth, quoted.austAddr, hrest, first, second]
  exact ⟨_, _, rfl, rfl⟩

end Reply
end DogetherContracts.Pool

namespace DogetherContracts.Staking
open Checked Storage

theorem Storage.claimed_le_claimsTotal (st : Storage) (a : CanonicalAddr) :
    claimed (st.readClaims a) ≤ st.claimsTotal := by
  rw [← st.valueAt_claimed]
  exact Table.valueAt_le_total _ _ _

/-- Something mature is all that a withdrawal by the admin takes. -/
theorem handleWithdrawStake_succeeds {api : Api} {env : Env} {info : MessageInfo} {st : Storage}
    {address : String} {a : CanonicalAddr} {token : Addr}
    (admin : api.canonicalize info.sender = .ok st.config.admin)
    (holder : api.canonicalize address = .ok a)
    (cw20 : api.humanize st.config.cw20TokenAddr = .ok token)
    (byHeight : ByHeight (st.readClaims a)) (fits : st.claimsTotal < 2 ^ 128)
    (matured : 0 < TimeLock.upTo env.block.height.val (dues (st.readClaims a))) :
    ∃ st' res, handleWithdrawStake api env info st none address = .ok (st', res) := by
  have sum : (0 : Uint128).val + claimed (st.readClaims a) < 2 ^ 128 := by
    have part := st.claimed_le_claimsTotal a
    rw [Word.val_zero]
    omega
  obtain ⟨⟨amount, waiting⟩, split⟩ := partitionClaims_of_fits env.block none sum
  obtain ⟨paid, _⟩ := partitionClaims_due byHeight split
  have positive : amount.val ≠ 0 := by omega
  rw [readClaims] at split
  simp only [handleWithdrawStake, claimTokens, admin, holder, cw20, split, ok_bind, pure_bind,
    rejectIf_neg _ (not_not.mpr rfl), rejectIf_neg _ positive]
  exact ⟨_, _, rfl⟩

theorem handleUnbound_settles {api : Api} {env : Env} {info : MessageInfo} {st : Storage}
    {amount : Uint128} {address : String} {r : Storage × Response}
    (h : handleUnbound api env info st amount address = .ok r) :
    ∃ a d, api.canonicalize address = .ok a ∧
      settledRewards st.state.globalIndex (st.readHolder a) = .ok d := by
  simp only [handleUnbound, bind_ok] at h
  obtain ⟨_, _, _, _, a, ha, _, _, _, _, _, _, d, settled, _⟩ := h
  exact ⟨a, d, ha, settled⟩

theorem handleReceive_settles {api : Api} {info : MessageInfo} {st : Storage}
    {wrapper : Cw20.Cw20ReceiveMsg} {r : Storage × Response}
    (h : handleReceive api info st wrapper = .ok r) :
    ∃ a d, api.canonicalize wrapper.sender = .ok a ∧
      settledRewards st.state.globalIndex (st.readHolder a) = .ok d := by
  simp only [handleReceive, handleBond, bind_ok] at h
  obtain ⟨_, _, _, _, parsed, _, _, _, _, _, a, ha, d, settled, _⟩ := h
  exact ⟨a, d, ha, settled⟩

end DogetherContracts.Staking

namespace DogetherContracts.System
open Checked Run

variable {χ : Type} {api : Api} {out : Outside χ} {dep : Deployment api}

/-! `ClaimUnPool`. -/

section Claim

variable {w : World χ} {tx : Tx api}

/-- What a withdrawal of `amount` needs from outside: the transfers that come
before it, the answers it rests on, and the payment. -/
structure Payout (out : Outside χ) (dep : Deployment api) (w : World χ) (tx : Tx api)
    (amount : Uint128) (x x' : χ) (moneyMarket aust : Addr) (rate : Decimal256)
    (redeemed : Uint128) (taxRate : Decimal) (taxCap : Uint128) (net : Coin) : Prop where
  before : List.foldlM (outsideStep out dep) w.outside
    [(tx.sender.addr, .execute dep.pool.addr (.pool .claimUnPool) tx.funds),
    (dep.pool.addr, .execute dep.staking.addr
      (.staking (.withdrawStake none tx.sender.addr)) []),
    (dep.staking.addr, .execute dep.cw20.addr (.cw20 (.burn amount)) [])] = .ok x
  quoted : Pool.Quoted api (out.querier x) w.pool amount moneyMarket aust rate redeemed taxRate
    taxCap net
  external : ¬ ours dep aust
  after : List.foldlM (outsideStep out dep) x
    [(dep.pool.addr, .execute aust (.send moneyMarket redeemed .redeemStable) []),
    (dep.pool.addr, .bankSend tx.sender.addr [net])] = .ok x'

theorem withdraw_accepted (gas : ℕ) (reachable : Reachable out dep w) (s : Account api) {x x' : χ}
    (moved : out.transfer dep.pool.addr dep.staking.addr [] w.outside = .ok x)
    (moved' : out.transfer dep.staking.addr dep.cw20.addr [] x = .ok x')
    (matured : 0 < (vaultOf w).matured s.raw) :
    ∃ w' r, runCall out dep (gas + 2) (.message dep.pool.addr (.execute dep.staking.addr
      (.staking (.withdrawStake none s.addr)) [])) w = .ok (w', r) := by
  have b := reachable.backing
  have wired := reachable.wired
  have fits : w.staking.claimsTotal < 2 ^ 128 := by
    have total := b.pool
    have lt := w.pool.state.totalUstPool.lt
    omega
  have withdraws : ∃ staking res, Staking.handleWithdrawStake api ⟨w.block, dep.staking.addr⟩
      ⟨dep.pool.addr, []⟩ w.staking none s.addr = .ok (staking, res) := by
    have admin : api.canonicalize dep.pool.addr = .ok w.staking.config.admin := by
      rw [wired.admin, Account.canonicalize_addr]
    have cw20 : api.humanize w.staking.config.cw20TokenAddr = .ok dep.cw20.addr := by
      rw [wired.token, Account.humanize_raw]
    exact Staking.handleWithdrawStake_succeeds admin s.canonicalize_addr cw20
      (reachable.byHeight s.raw) fits matured
  obtain ⟨staking, res, ran⟩ := withdraws
  obtain ⟨amount, messages, _, _, ⟨_, burnable⟩, _⟩ := b.withdraw ran
  refine call_of_enter (gas + 1) _ (enter_staking moved ran) ?_
  rw [messages]
  have burned : ∃ w' r, runCall out dep (gas + 1) (.message dep.staking.addr
      (.execute dep.cw20.addr (.cw20 (.burn amount)) [])) { w with staking, outside := x } =
      .ok (w', r) := by
    refine call_of_enter gas _ (enter_cw20 moved' burnable) ?_
    rw [(Cw20.executeBurn_ok burnable).message]
    exact ⟨_, _, rfl⟩
  obtain ⟨w', r, burned⟩ := burned
  exact messages_of_first burned ⟨_, _, rfl⟩

theorem claim_payout {gas : ℕ} {w' : World χ} {r : Receipt} (reachable : Reachable out dep w)
    (h : runCall out dep gas (.message tx.sender.addr
      (.execute dep.pool.addr (.pool .claimUnPool) tx.funds)) w = .ok (w', r)) :
    ∃ amount x x' moneyMarket aust rate redeemed taxRate taxCap net, 0 < amount.val ∧
      amount.val = (vaultOf w).matured tx.sender.raw ∧
      Payout out dep w tx amount x x' moneyMarket aust rate redeemed taxRate taxCap net ∧
      Pool.Computable amount rate taxRate ∧
      r.executed = [(tx.sender.addr, .execute dep.pool.addr (.pool .claimUnPool) tx.funds),
        (dep.pool.addr, .execute dep.staking.addr
          (.staking (.withdrawStake none tx.sender.addr)) []),
        (dep.staking.addr, .execute dep.cw20.addr (.cw20 (.burn amount)) []),
        (dep.pool.addr, .execute aust (.send moneyMarket redeemed .redeemStable) []),
        (dep.pool.addr, .bankSend tx.sender.addr [net])] := by
  have wired := reachable.wired
  obtain ⟨_, x₁, m, pool, res, rest, is_claim, moved, executed, messages, hr⟩ := call_pool h
  cases is_claim
  obtain ⟨staking, human, rfl, sent⟩ := Pool.tryClaimUnPool_ok executed
  obtain rfl : staking = dep.staking.addr := Account.humanize_ok (wired.stakingAddress ▸ human)
  rw [sent] at messages
  obtain ⟨w₁, first, replied, withdraw, reply, hlist⟩ := runMessages_reply messages
  have before := runCall_outside withdraw
  obtain ⟨x, cw20, staking, a, amount, waiting, res₁, done, burned, rfl, hfirst, event⟩ :=
    call_withdraw withdraw wired.token
  obtain rfl : a = tx.sender.raw := Account.canonicalize_ok done.holder
  obtain ⟨_, pool', res₂, rest₂, answered, messages₂, hreplied⟩ := call_reply reply
  obtain ⟨moneyMarket, aust, rate, redeemed, taxRate, taxCap, net, quoted, computable, sent₂⟩ :=
    Pool.withdrawReply_quoted event rfl rfl answered
  rw [sent₂] at messages₂
  have after := runMessages_outside runCall_outside messages₂
  obtain ⟨w₂, third, rest₃, redeem, messages₃, hlist₂⟩ := runMessages_cons messages₂
  obtain ⟨w₃, fourth, rest₄, paid, ended, hlist₃⟩ := runMessages_cons messages₃
  obtain ⟨rfl, rfl⟩ := runMessages_nil ended
  obtain ⟨matured, _⟩ := Staking.partitionClaims_due (reachable.byHeight _) done.partition
  refine ⟨amount, x, w'.outside, moneyMarket, aust, rate, redeemed, taxRate, taxCap, net,
    done.positive, matured, ⟨?_, quoted, foreign_external rfl redeem, ?_⟩, computable, ?_⟩
  · rw [hfirst] at before
    rw [List.foldlM_cons, outsideStep_ours dep.ours_pool, moved, ok_bind]
    exact before
  · rw [hlist₂, hlist₃, (call_foreign rfl redeem).2, (call_bank paid).2] at after
    exact after
  · rw [hr, hlist, hfirst, hreplied, hlist₂, hlist₃, (call_foreign rfl redeem).2,
      (call_bank paid).2]
    rfl

theorem claim_accepted (g : ℕ) {amount : Uint128} {x x' : χ} {moneyMarket aust : Addr}
    {rate : Decimal256} {redeemed : Uint128} {taxRate : Decimal} {taxCap : Uint128} {net : Coin}
    (reachable : Reachable out dep w) (positive : 0 < amount.val)
    (matured : amount.val = (vaultOf w).matured tx.sender.raw)
    (payout : Payout out dep w tx amount x x' moneyMarket aust rate redeemed taxRate taxCap net)
    (computable : Pool.Computable amount rate taxRate) :
    ∃ w' r, runCall out dep (g + 3) (.message tx.sender.addr
      (.execute dep.pool.addr (.pool .claimUnPool) tx.funds)) w = .ok (w', r) := by
  have wired := reachable.wired
  have before := payout.before
  simp only [List.foldlM_cons, List.foldlM_nil, bind_ok, bind_pure, outsideStep_ours dep.ours_pool,
    outsideStep_ours dep.ours_cw20, outsideStep_ours dep.ours_staking] at before
  obtain ⟨x₁, moved₁, x₂, moved₂, moved₃⟩ := before
  have entry : ∃ res, Pool.tryClaimUnPool api ⟨tx.sender.addr, tx.funds⟩ w.pool =
      .ok (w.pool, res) ∧ res.messages = [⟨.execute dep.staking.addr
        (.staking (.withdrawStake none tx.sender.addr)) [], some 2⟩] := by
    rw [Pool.tryClaimUnPool, wired.stakingAddress, Account.humanize_raw, ok_bind]
    exact ⟨_, rfl, rfl⟩
  obtain ⟨res, ran, sent⟩ := entry
  refine call_of_enter (g + 2) _ (enter_pool moved₁ ran) ?_
  rw [sent]
  have entered : Reachable out dep { w with outside := x₁ } := reachable.step (.outside x₁)
  obtain ⟨w₁, r₁, withdraw⟩ := withdraw_accepted g entered tx.sender moved₂ moved₃
    (matured ▸ positive)
  have outside := runCall_outside withdraw
  obtain ⟨x₃, cw20, staking, a, amount', waiting, res₁, done, burned, rfl, executed, event⟩ :=
    call_withdraw withdraw wired.token
  obtain rfl : a = tx.sender.raw := Account.canonicalize_ok done.holder
  obtain rfl : amount' = amount := by
    obtain ⟨due, _⟩ := Staking.partitionClaims_due (reachable.byHeight _) done.partition
    exact Word.ext (due.trans matured.symm)
  simp only [executed, List.foldlM_cons, List.foldlM_nil, bind_pure, outsideStep_ours dep.ours_cw20,
    outsideStep_ours dep.ours_staking, moved₂, ok_bind, moved₃] at outside
  obtain rfl := Except.ok.inj outside
  have held : amount'.val ≤ w.pool.state.totalUstPool.val := by
    have total := reachable.backing.pool
    have released := done.claimsTotal
    simp only at released
    omega
  obtain ⟨pool', res₂, answered, sent₂⟩ :=
    Pool.withdrawReply_of_quoted event rfl rfl payout.quoted computable held
  have reply : ∃ w' r, runCall out dep (g + 2) (.reply dep.pool.addr 2 r₁.events)
      { w with cw20, staking, outside := x } = .ok (w', r) := by
    refine call_of_enter (g + 1) _ (enter_reply answered) ?_
    rw [sent₂]
    exact payment_accepted g rfl payout.external payout.after
  obtain ⟨w₂, r₂, reply⟩ := reply
  exact messages_of_reply withdraw reply

/-- A claim goes through exactly when something has matured for its sender, Anchor and
the bank do their part, and the numbers of the reply are in range. -/
theorem claimUnPool_accepted_iff (reachable : Reachable out dep w)
    (msg : tx.msg = .pool .claimUnPool) (contract : tx.contract = dep.pool.addr)
    (signed : ¬ ours dep tx.sender.addr) (gas : 3 ≤ tx.gas) :
    (∃ w' r, runTx out dep w tx = .ok (w', r)) ↔
      ∃ amount x x' moneyMarket aust rate redeemed taxRate taxCap net, 0 < amount.val ∧
        amount.val = (vaultOf w).matured tx.sender.raw ∧
        Payout out dep w tx amount x x' moneyMarket aust rate redeemed taxRate taxCap net ∧
        Pool.Computable amount rate taxRate := by
  obtain ⟨g, hg⟩ : ∃ g, tx.gas = g + 3 := ⟨tx.gas - 3, by omega⟩
  rw [runTx_call contract dep.ours_pool signed, msg, hg]
  constructor
  · rintro ⟨w', r, h⟩
    obtain ⟨amount, x, x', moneyMarket, aust, rate, redeemed, taxRate, taxCap, net, positive,
      matured, payout, computable, _⟩ := claim_payout reachable h
    exact ⟨amount, x, x', moneyMarket, aust, rate, redeemed, taxRate, taxCap, net, positive, matured,
      payout, computable⟩
  · rintro ⟨amount, x, x', moneyMarket, aust, rate, redeemed, taxRate, taxCap, net, positive,
      matured, payout, computable⟩
    exact claim_accepted g reachable positive matured payout computable

/-- Alice's claim goes through, so Anchor and the bank did their part. -/
theorem alice_claim_accepted : ∃ w, Reachable Sample.out Sample.dep w ∧
    ∃ amount x x' moneyMarket aust rate redeemed taxRate taxCap net, 0 < amount.val ∧
      amount.val = (vaultOf w).matured Sample.alice.raw ∧
      Payout Sample.out Sample.dep w (Sample.call Sample.alice .claimUnPool []) amount x x'
        moneyMarket aust rate redeemed taxRate taxCap net ∧
      Pool.Computable amount rate taxRate := by
  obtain ⟨w, deployed, ⟨w', r⟩, ran, _⟩ : ∃ w, Sample.start = .ok w ∧
      ∃ p, runTx Sample.out Sample.dep (run (step Sample.out Sample.dep) w Sample.waiting)
        (Sample.call Sample.alice .claimUnPool []) = .ok p ∧ p.2.executed.length = 5 := by
    decide +kernel
  have start : Reachable Sample.out Sample.dep w := .deployed rfl rfl deployed
  have reachable := start.run Sample.waiting
  generalize run (step Sample.out Sample.dep) w Sample.waiting = w₁ at ran reachable
  have signed : ¬ ours Sample.dep Sample.alice.addr := by decide
  exact ⟨w₁, reachable,
    (claimUnPool_accepted_iff reachable rfl rfl signed (by decide)).mp ⟨w', r, ran⟩⟩

end Claim

/-! `UnPool`. -/

section Request

variable {w : World χ} {tx : Tx api}

theorem request_accepted (g : ℕ) {amount : Uint128} {x : χ} (reachable : Reachable out dep w)
    (enabled : Vault.Enabled (vaultOf w) (.request tx.sender.raw amount.val))
    (representable : Staking.Representable w.staking tx.sender.raw)
    (height : w.block.height.val + w.staking.config.unbondingPeriod.val < 2 ^ 64)
    (h : List.foldlM (outsideStep out dep) w.outside
      [(tx.sender.addr, .execute dep.pool.addr (.pool (.unPool amount)) tx.funds),
      (dep.pool.addr, .execute dep.staking.addr
        (.staking (.unbondStake amount tx.sender.addr)) [])] = .ok x) :
    ∃ w' r, runCall out dep (g + 2) (.message tx.sender.addr
      (.execute dep.pool.addr (.pool (.unPool amount)) tx.funds)) w = .ok (w', r) := by
  have wired := reachable.wired
  obtain ⟨dust, solvent⟩ := reachable.backing.solvent
  obtain ⟨positive, held⟩ := enabled
  simp only [List.foldlM_cons, List.foldlM_nil, bind_ok, bind_pure,
    outsideStep_ours dep.ours_pool, outsideStep_ours dep.ours_staking] at h
  obtain ⟨x₁, moved₁, moved₂⟩ := h
  have entry : ∃ res, Pool.tryUnPool api ⟨tx.sender.addr, tx.funds⟩ w.pool amount =
      .ok (w.pool, res) ∧ res.messages = [⟨.execute dep.staking.addr
        (.staking (.unbondStake amount tx.sender.addr)) [], none⟩] := by
    rw [Pool.tryUnPool, rejectIf_neg _ (Nat.ne_of_gt positive), ok_bind, wired.stakingAddress,
      Account.humanize_raw, ok_bind]
    exact ⟨_, rfl, rfl⟩
  obtain ⟨res, ran, sent⟩ := entry
  have admin : api.addrCanonicalize dep.pool.addr = some w.staking.config.admin := by
    rw [wired.admin, dep.pool.canonical]
  obtain ⟨d, settled⟩ := (solvent.settles_iff _).mpr representable
  have part := w.staking.balance_le_balances tx.sender.raw
  rw [← solvent.staked] at part
  have unbonds : ∃ r, Staking.handleUnbound api ⟨w.block, dep.staking.addr⟩
      ⟨dep.pool.addr, []⟩ w.staking amount tx.sender.addr = .ok r :=
    Staking.handleUnbound_succeeds admin rfl tx.sender.canonical positive held settled
      (held.trans part) height
  obtain ⟨⟨staking, res'⟩, unbonded⟩ := unbonds
  refine call_of_enter (g + 1) _ (enter_pool moved₁ ran) ?_
  rw [sent]
  have unbond : ∃ w' r, runCall out dep (g + 1) (.message dep.pool.addr
      (.execute dep.staking.addr (.staking (.unbondStake amount tx.sender.addr)) []))
      { w with outside := x₁ } = .ok (w', r) := by
    refine call_of_enter g _ (enter_staking moved₂ unbonded) ?_
    rw [(Staking.handleUnbound_ok unbonded).2]
    exact ⟨_, _, rfl⟩
  obtain ⟨w₁, r₁, unbond⟩ := unbond
  exact messages_of_first unbond ⟨_, _, rfl⟩

/-- A request goes through exactly when the vault enables it, the rewards of its
sender can be settled, and the release height exists. -/
theorem unPool_accepted_iff {amount : Uint128} (reachable : Reachable out dep w)
    (msg : tx.msg = .pool (.unPool amount)) (contract : tx.contract = dep.pool.addr)
    (signed : ¬ ours dep tx.sender.addr) (gas : 2 ≤ tx.gas) :
    (∃ w' r, runTx out dep w tx = .ok (w', r)) ↔
      Vault.Enabled (vaultOf w) (.request tx.sender.raw amount.val) ∧
        Staking.Representable w.staking tx.sender.raw ∧
        w.block.height.val + w.staking.config.unbondingPeriod.val < 2 ^ 64 ∧
        ∃ x, List.foldlM (outsideStep out dep) w.outside
          [(tx.sender.addr, .execute dep.pool.addr (.pool (.unPool amount)) tx.funds),
          (dep.pool.addr, .execute dep.staking.addr
            (.staking (.unbondStake amount tx.sender.addr)) [])] = .ok x := by
  obtain ⟨g, hg⟩ : ∃ g, tx.gas = g + 2 := ⟨tx.gas - 2, by omega⟩
  have wired := reachable.wired
  obtain ⟨dust, solvent⟩ := reachable.backing.solvent
  rw [runTx_call contract dep.ours_pool signed, msg, hg]
  constructor
  · rintro ⟨w', r, h⟩
    have outside := runCall_outside h
    obtain ⟨_, x₁, m, pool, res, rest, is_request, moved, executed, messages, hr⟩ := call_pool h
    cases is_request
    obtain ⟨staking, human, rfl, sent⟩ := Pool.tryUnPool_ok executed
    obtain rfl : staking = dep.staking.addr := Account.humanize_ok (wired.stakingAddress ▸ human)
    rw [sent] at messages
    obtain ⟨w₁, first, rest₁, unbond, ended, hlist⟩ := runMessages_cons messages
    obtain ⟨rfl, rfl⟩ := runMessages_nil ended
    obtain ⟨x₂, staking, a, holder, release, done, rfl, hfirst⟩ := call_unbond unbond
    obtain rfl : a = tx.sender.raw := Account.canonicalize_ok done.holder
    obtain ⟨_, _, m, _, _, _, is_unbond, _, handled, _⟩ := call_staking unbond
    cases is_unbond
    obtain ⟨a, d, canonical, settled⟩ := Staking.handleUnbound_settles handled
    obtain rfl : a = tx.sender.raw := Account.canonicalize_ok canonical
    have held : holder.balance.val + amount.val =
        (w.staking.readHolder tx.sender.raw).balance.val := done.balance
    refine ⟨⟨done.positive, by simp only [vaultOf]; omega⟩,
      (solvent.settles_iff _).mp ⟨d, settled⟩, ?_, x₂, ?_⟩
    · have lt := release.lt
      rw [done.matures] at lt
      exact lt
    · rw [hr, hlist, hfirst] at outside
      exact outside
  · rintro ⟨enabled, representable, height, x, h⟩
    exact request_accepted g reachable enabled representable height h

/-- Bob asks for all of his stake. -/
theorem bob_request_accepted : ∃ w, Sample.start = .ok w ∧
    ∃ w' r, runTx Sample.out Sample.dep (run (step Sample.out Sample.dep) w Sample.waiting)
      (Sample.call Sample.bob (.unPool (.ofNat 990)) []) = .ok (w', r) := by
  obtain ⟨w, deployed, held, small⟩ : ∃ w, Sample.start = .ok w ∧
      (let w' := run (step Sample.out Sample.dep) w Sample.waiting
      990 ≤ (w'.staking.readHolder Sample.bob.raw).balance.val ∧
        (w'.staking.readHolder Sample.bob.raw).balance.val * 10 ^ 18 < 2 ^ 128 ∧
        w'.staking.owed Sample.bob.raw < 2 ^ 128 ∧
        w'.block.height.val + w'.staking.config.unbondingPeriod.val < 2 ^ 64) := by
    decide +kernel
  have reachable : Reachable Sample.out Sample.dep w := .deployed rfl rfl deployed
  exact ⟨w, deployed, (unPool_accepted_iff (reachable.run Sample.waiting) rfl rfl (by decide)
    (by decide)).mpr ⟨⟨by decide, held⟩, ⟨small.1, small.2.1⟩, small.2.2, _, rfl⟩⟩

end Request

/-! `Pool`. -/

section Deposit

variable {w : World χ} {tx : Tx api}

/-- What a deposit needs from outside: one coin of the right denom, the tax, and
Anchor. -/
structure Intake (out : Outside χ) (dep : Deployment api) (w : World χ) (tx : Tx api)
    (x x' : χ) (sent : Uint128) (net : Coin) (moneyMarket : Addr) : Prop where
  moved : out.transfer tx.sender.addr dep.pool.addr tx.funds w.outside = .ok x
  funds : tx.funds = [⟨w.pool.config.denom, sent⟩]
  market : api.humanize w.pool.config.moneyMarketAddress = .ok moneyMarket
  deducted : deductTax (out.querier x) ⟨w.pool.config.denom, sent⟩ = .ok net
  external : ¬ ours dep moneyMarket
  after : List.foldlM (outsideStep out dep) x
    [(dep.pool.addr, .execute moneyMarket .depositStable [net]),
    (dep.pool.addr, .execute dep.cw20.addr
      (.cw20 (.bond dep.staking.addr net.amount .bondStake tx.sender.addr)) []),
    (dep.cw20.addr, .execute dep.staking.addr
      (.staking (.receive ⟨tx.sender.addr, net.amount, .bondStake⟩)) [])] = .ok x'

theorem deposit_intake {gas : ℕ} {w' : World χ} {r : Receipt} (reachable : Reachable out dep w)
    (h : runCall out dep gas (.message tx.sender.addr
      (.execute dep.pool.addr (.pool .pool) tx.funds)) w = .ok (w', r)) :
    ∃ x x' sent net moneyMarket, Intake out dep w tx x x' sent net moneyMarket ∧
      0 < net.amount.val ∧ w.pool.state.totalUstPool.val + net.amount.val < 2 ^ 128 ∧
      Staking.Representable w.staking tx.sender.raw := by
  have wired := reachable.wired
  obtain ⟨dust, solvent⟩ := reachable.backing.solvent
  obtain ⟨_, x, m, pool, res, rest, is_pool, moved, executed, messages, hr⟩ := call_pool h
  cases is_pool
  obtain ⟨sent, net, moneyMarket, staking, cw20, done⟩ := Pool.tryPool_ok executed
  obtain rfl : staking = dep.staking.addr :=
    Account.humanize_ok (wired.stakingAddress ▸ done.stakingAddr)
  obtain rfl : cw20 = dep.cw20.addr := Account.humanize_ok (wired.cw20Address ▸ done.cw20Addr)
  rw [done.messages] at messages
  have after := runMessages_outside runCall_outside messages
  obtain ⟨w₁, first, rest₁, deposit, messages, hlist⟩ := runMessages_cons messages
  obtain ⟨⟨x₁, rfl⟩, hfirst⟩ := call_foreign rfl deposit
  obtain ⟨w₂, second, rest₂, bond, ended, hlist₂⟩ := runMessages_cons messages
  obtain ⟨rfl, rfl⟩ := runMessages_nil ended
  obtain ⟨_, x₂, m, cw20, res₁, rest₃, is_bond, _, minted, messages₃, _⟩ := call_cw20 bond
  cases is_bond
  rw [(Cw20.executeBond_ok minted).message] at messages₃
  obtain ⟨w₃, third, rest₄, receive, ended, _⟩ := runMessages_cons messages₃
  obtain ⟨_, _, m, _, _, _, is_receive, _, handled, _⟩ := call_staking receive
  cases is_receive
  obtain ⟨a, d, canonical, settled⟩ := Staking.handleReceive_settles handled
  obtain rfl : a = tx.sender.raw := Account.canonicalize_ok canonical
  obtain ⟨_, _, _, _, _, _, bonded, _, _, hsecond⟩ := call_bond rfl bond
  refine ⟨x, w'.outside, sent, net, moneyMarket, ⟨moved, done.funds, done.marketAddr, done.deducted,
    foreign_external rfl deposit, ?_⟩, bonded.positive, ?_, (solvent.settles_iff _).mp ⟨d, settled⟩⟩
  · rw [hlist, hlist₂, hfirst, hsecond] at after
    exact after
  · rw [← done.total]
    exact pool.state.totalUstPool.lt

theorem deposit_accepted (g : ℕ) {x x' : χ} {sent : Uint128} {net : Coin} {moneyMarket : Addr}
    (reachable : Reachable out dep w)
    (valid : api.validate dep.staking.addr = .ok dep.staking.addr)
    (intake : Intake out dep w tx x x' sent net moneyMarket) (positive : 0 < net.amount.val)
    (fits : w.pool.state.totalUstPool.val + net.amount.val < 2 ^ 128)
    (representable : Staking.Representable w.staking tx.sender.raw) :
    ∃ w' r, runCall out dep (g + 3) (.message tx.sender.addr
      (.execute dep.pool.addr (.pool .pool) tx.funds)) w = .ok (w', r) := by
  have b := reachable.backing
  have wired := reachable.wired
  obtain ⟨dust, solvent⟩ := b.solvent
  have after := intake.after
  simp only [List.foldlM_cons, List.foldlM_nil, bind_ok, bind_pure, outsideStep_ours dep.ours_cw20,
    outsideStep_ours dep.ours_staking] at after
  obtain ⟨x₁, deposited, x₂, moved₂, moved₃⟩ := after
  obtain ⟨total, htotal⟩ := Word.add_of_lt (e := Fault.panic) fits
  have entry : ∃ pool res, Pool.tryPool api (out.querier x) ⟨tx.sender.addr, tx.funds⟩ w.pool =
      .ok (pool, res) ∧ res.messages = [⟨.execute moneyMarket .depositStable [net], none⟩,
        ⟨.execute dep.cw20.addr
          (.cw20 (.bond dep.staking.addr net.amount .bondStake tx.sender.addr)) [], none⟩] := by
    simp only [Pool.tryPool, Pool.sentAmount_ok.mpr intake.funds, intake.market, intake.deducted,
      wired.stakingAddress, wired.cw20Address, Account.humanize_raw, htotal, ok_bind]
    exact ⟨_, _, rfl, rfl⟩
  obtain ⟨pool, res, ran, sent⟩ := entry
  have supply := b.supply
  have held := b.held
  have mints : ∃ cw20 res, Cw20.executeBond api ⟨dep.pool.addr, []⟩ w.cw20 dep.staking.addr
      net.amount .bondStake tx.sender.addr = .ok (cw20, res) :=
    Cw20.executeBond_succeeds positive reachable.mint (by omega) valid (by omega)
  obtain ⟨cw20, res₁, minted⟩ := mints
  obtain ⟨d, settled⟩ := (solvent.settles_iff _).mpr representable
  have part := w.staking.balance_le_balances tx.sender.raw
  have whole := b.pool
  rw [← solvent.staked] at part
  have token : api.addrHumanize w.staking.config.cw20TokenAddr = some dep.cw20.addr := by
    rw [wired.token, dep.cw20.human]
  have bonds : ∃ r, Staking.handleReceive api ⟨dep.cw20.addr, []⟩ w.staking
      ⟨tx.sender.addr, net.amount, .bondStake⟩ = .ok r :=
    Staking.handleReceive_succeeds token rfl rfl tx.sender.canonical positive settled
      (by simp only; omega) (by simp only; omega)
  obtain ⟨⟨staking, res₂⟩, bonded⟩ := bonds
  refine call_of_enter (g + 2) _ (enter_pool intake.moved ran) ?_
  rw [sent]
  have deposit : ∃ w' r, runCall out dep (g + 2) (.message dep.pool.addr
      (.execute moneyMarket .depositStable [net])) { w with pool, outside := x } = .ok (w', r) :=
    (foreign_accepted_iff (g + 1) rfl).mpr ⟨intake.external, x₁, deposited⟩
  obtain ⟨w₁, r₁, deposit⟩ := deposit
  obtain ⟨⟨y, rfl⟩, executed⟩ := call_foreign rfl deposit
  have outside := runCall_outside deposit
  simp only [executed, List.foldlM_cons, List.foldlM_nil, bind_pure, deposited] at outside
  obtain rfl := Except.ok.inj outside
  have bond : ∃ w' r, runCall out dep (g + 2) (.message dep.pool.addr (.execute dep.cw20.addr
      (.cw20 (.bond dep.staking.addr net.amount .bondStake tx.sender.addr)) []))
      { w with pool, outside := x₁ } = .ok (w', r) := by
    refine call_of_enter (g + 1) _ (enter_cw20 moved₂ minted) ?_
    rw [(Cw20.executeBond_ok minted).message]
    have receive : ∃ w' r, runCall out dep (g + 1) (.message dep.cw20.addr
        (.execute dep.staking.addr
          (.staking (.receive ⟨tx.sender.addr, net.amount, .bondStake⟩)) []))
        { w with pool, cw20, outside := x₂ } = .ok (w', r) := by
      refine call_of_enter g _ (enter_staking moved₃ bonded) ?_
      rw [(Staking.handleReceive_ok bonded).2]
      exact ⟨_, _, rfl⟩
    obtain ⟨w₂, r₂, receive⟩ := receive
    exact messages_of_first receive ⟨_, _, rfl⟩
  obtain ⟨w₃, r₃, bond⟩ := bond
  exact messages_of_first deposit (messages_of_first bond ⟨_, _, rfl⟩)

/-- A deposit goes through exactly when its net amount is positive and fits into
the pool, and the rewards of its sender can be settled. -/
theorem pool_accepted_iff (reachable : Reachable out dep w) (msg : tx.msg = .pool .pool)
    (contract : tx.contract = dep.pool.addr) (signed : ¬ ours dep tx.sender.addr)
    (valid : api.validate dep.staking.addr = .ok dep.staking.addr) (gas : 3 ≤ tx.gas) :
    (∃ w' r, runTx out dep w tx = .ok (w', r)) ↔
      ∃ x x' sent net moneyMarket, Intake out dep w tx x x' sent net moneyMarket ∧
        0 < net.amount.val ∧ w.pool.state.totalUstPool.val + net.amount.val < 2 ^ 128 ∧
        Staking.Representable w.staking tx.sender.raw := by
  obtain ⟨g, hg⟩ : ∃ g, tx.gas = g + 3 := ⟨tx.gas - 3, by omega⟩
  rw [runTx_call contract dep.ours_pool signed, msg, hg]
  constructor
  · rintro ⟨w', r, h⟩
    exact deposit_intake reachable h
  · rintro ⟨x, x', sent, net, moneyMarket, intake, positive, fits, representable⟩
    exact deposit_accepted g reachable valid intake positive fits representable

/-- Alice pools 2000, of which Anchor and the token get the net amount. -/
theorem alice_deposit_accepted : ∃ w, Reachable Sample.out Sample.dep w ∧
    ∃ x x' sent net moneyMarket, Intake Sample.out Sample.dep w
        (Sample.pool Sample.alice (.ofNat 2000)) x x' sent net moneyMarket ∧ 0 < net.amount.val ∧
      w.pool.state.totalUstPool.val + net.amount.val < 2 ^ 128 ∧
      Staking.Representable w.staking Sample.alice.raw := by
  obtain ⟨w, deployed, ⟨w', r⟩, ran, _⟩ : ∃ w, Sample.start = .ok w ∧
      ∃ p, runTx Sample.out Sample.dep w (Sample.pool Sample.alice (.ofNat 2000)) = .ok p ∧
        p.2.executed.length = 4 := by
    decide +kernel
  have reachable : Reachable Sample.out Sample.dep w := .deployed rfl rfl deployed
  have signed : ¬ ours Sample.dep Sample.alice.addr := by decide
  exact ⟨w, reachable,
    (pool_accepted_iff reachable rfl rfl signed rfl (by decide)).mp ⟨w', r, ran⟩⟩

end Deposit

/-! Everything else. -/

section Others

variable {w w' : World χ} {tx : Tx api} {r : Receipt}

/-- What goes through is a message of dogether or a purchase. -/
theorem entry_points (reachable : Reachable out dep w) (ran : runTx out dep w tx = .ok (w', r)) :
    (tx.contract = dep.pool.addr ∧ ∃ m, tx.msg = .pool m) ∨
      tx.contract = dep.staking.addr ∧
        ∃ recipient combination, tx.msg = .staking (.getTicket recipient combination) := by
  cases runTx_effect reachable.wired ran with
  | pooled msg => exact .inl ⟨(runTx_pool msg ran).1, _, msg⟩
  | unPooled msg => exact .inl ⟨(runTx_pool msg ran).1, _, msg⟩
  | claimed msg => exact .inl ⟨(runTx_pool msg ran).1, _, msg⟩
  | redeemed msg => exact .inl ⟨(runTx_pool msg ran).1, _, msg⟩
  | bought msg => exact .inr ⟨runTx_staking msg ran, _, _, msg⟩

/-- The token, and what staking does for its admin and its token, are out of reach: a
transaction that is neither for dogether nor a purchase is refused, whoever signs it. -/
theorem direct_calls_refused (reachable : Reachable out dep w)
    (forPool : ¬ (tx.contract = dep.pool.addr ∧ ∃ m, tx.msg = .pool m))
    (purchase : ¬ (tx.contract = dep.staking.addr ∧
      ∃ recipient combination, tx.msg = .staking (.getTicket recipient combination))) :
    (∃ e, runTx out dep w tx = .error e) ∧ step out dep w (.transaction tx) = w := by
  cases ran : runTx out dep w tx with
  | error e =>
      refine ⟨⟨e, rfl⟩, ?_⟩
      simp only [step, ran]
  | ok result =>
      obtain ⟨w', r⟩ := result
      rcases entry_points reachable ran with entry | entry
      · exact absurd entry forPool
      · exact absurd entry purchase

/-- The deployer cannot withdraw for Alice, and Alice cannot burn. -/
theorem direct_calls_refused_sample : ∃ w, Sample.start = .ok w ∧
    let w' := run (step Sample.out Sample.dep) w Sample.waiting
    step Sample.out Sample.dep w' (.transaction ⟨Sample.deployer, Sample.dep.staking.addr,
        .staking (.withdrawStake none "alice"), [], 5⟩) = w' ∧
      step Sample.out Sample.dep w' (.transaction ⟨Sample.alice, Sample.dep.cw20.addr,
        .cw20 (.burn (.ofNat 1)), [], 5⟩) = w' := by
  obtain ⟨w, deployed, _⟩ : ∃ w, Sample.start = .ok w ∧ True := by decide +kernel
  have start : Reachable Sample.out Sample.dep w := .deployed rfl rfl deployed
  have reachable := start.run Sample.waiting
  refine ⟨w, deployed, ?_, ?_⟩
  · refine (direct_calls_refused reachable ?_ ?_).2
    · rintro ⟨_, _, other⟩
      cases other
    · rintro ⟨_, _, _, other⟩
      cases other
  · refine (direct_calls_refused reachable ?_ ?_).2
    · rintro ⟨_, _, other⟩
      cases other
    · rintro ⟨_, _, _, other⟩
      cases other

end Others
end DogetherContracts.System
