import DogetherContracts.Lib.Levy
import DogetherContracts.Pool.Surplus

/-! # What dogether promises

The coins that a withdrawal and an earnings call promise against the UST that Anchor
pays back: what the redeemed aUST are worth, less the tax of that transfer. A payout
is taken from the sum that the redeemed aUST were computed from. -/
namespace DogetherContracts.Pool
open Checked

/-- Anchor's `RedeemStable`: what it sends back for `aust` units at the rate. -/
def redeemStable (querier : Querier) (denom : String) (aust : Uint128)
    (exchangeRate : Decimal256) : Except Fault Coin := do
  let worth ← Word.narrow .panic (aust.val * exchangeRate.val / 10 ^ 18)
  deductTax querier ⟨denom, worth⟩

/-- What rounding the `worth` (scaled by 10^18) down to whole aUST costs, after the
tax of Anchor's transfer. -/
def roundingLoss (taxRate taxCap worth rate : ℕ) : ℕ :=
  Levy.net (10 ^ 18) taxRate taxCap (worth / 10 ^ 18) -
    Levy.net (10 ^ 18) taxRate taxCap ((worth - worth % rate) / 10 ^ 18)

/-- The rounding costs no more than the last deduction leaves unused. -/
def RoundingCovered (taxRate taxCap worth rate balance : ℕ) : Prop :=
  roundingLoss taxRate taxCap worth rate ≤ Levy.slack (10 ^ 18) taxRate taxCap
    (Levy.net (10 ^ 18) taxRate taxCap (worth / 10 ^ 18) + balance)

/-- No rounding, no loss: the condition holds for every tax. -/
theorem RoundingCovered.of_dvd {taxRate taxCap worth rate balance : ℕ} (h : rate ∣ worth) :
    RoundingCovered taxRate taxCap worth rate balance := by
  rw [RoundingCovered, roundingLoss, Nat.mod_eq_zero_of_dvd h, Nat.sub_zero, Nat.sub_self]
  exact Nat.zero_le _

/-- Where the cap binds in both deductions, every UST lost to rounding is missing. -/
theorem RoundingCovered.capped_iff {taxRate taxCap worth rate balance : ℕ}
    (first : taxCap < Levy.uncapped (10 ^ 18) taxRate (worth / 10 ^ 18))
    (second : taxCap < Levy.uncapped (10 ^ 18) taxRate
      (Levy.net (10 ^ 18) taxRate taxCap (worth / 10 ^ 18) + balance)) :
    RoundingCovered taxRate taxCap worth rate balance ↔
      worth / 10 ^ 18 ≤ (worth - worth % rate) / 10 ^ 18 := by
  rw [RoundingCovered, roundingLoss, Levy.slack_of_capped second, Nat.sub_le_iff_le_add,
    Nat.zero_add]
  constructor
  · intro covered
    by_contra lost
    exact absurd (Levy.net_lt_of_capped first (Nat.lt_of_not_le lost)) (Nat.not_lt.mpr covered)
  · intro kept
    have same : (worth - worth % rate) / 10 ^ 18 = worth / 10 ^ 18 :=
      (Nat.div_le_div_right (Nat.sub_le _ _)).antisymm kept
    rw [same]

/-- From `own` coins and what Anchor sends back for the aUST, a coin can be paid
with its tax. -/
def Affordable (querier : Querier) (denom : String) (aust : Uint128) (rate : Decimal256)
    (taxRate taxCap own coin : ℕ) : Prop :=
  ∃ paid, redeemStable querier denom aust rate = .ok paid ∧
    coin + Levy.onTop (10 ^ 18) taxRate taxCap coin ≤ own + paid.amount.val

instance (querier : Querier) (denom : String) (aust : Uint128) (rate : Decimal256)
    (taxRate taxCap own coin : ℕ) :
    Decidable (Affordable querier denom aust rate taxRate taxCap own coin) :=
  inferInstanceAs (Decidable (∃ paid, redeemStable querier denom aust rate = .ok paid ∧
    coin + Levy.onTop (10 ^ 18) taxRate taxCap coin ≤ own + paid.amount.val))

section Promise

variable {querier : Querier} {denom : String} {aust : Uint128} {rate : Decimal256}
  {taxRate : Decimal} {taxCap : Uint128} {worth : ℕ}

theorem redeemStable_net (hrate : querier.taxRate = some taxRate)
    (hcap : querier.taxCap denom = some taxCap) (fits : taxRate.val + 10 ^ 18 < 2 ^ 128)
    (units : aust.val = worth / rate.val) (small : worth / 10 ^ 18 < 2 ^ 128) :
    ∃ paid, redeemStable querier denom aust rate = .ok paid ∧ paid.amount.val =
      Levy.net (10 ^ 18) taxRate.val taxCap.val ((worth - worth % rate.val) / 10 ^ 18) := by
  have exact : aust.val * rate.val = worth - worth % rate.val := by
    rw [units, Nat.div_mul_self_eq_mod_sub_self]
  have within : aust.val * rate.val / 10 ^ 18 < 2 ^ 128 :=
    (Nat.div_le_div_right (exact ▸ Nat.sub_le _ _)).trans_lt small
  obtain ⟨paid, done, _, value⟩ := deductTax_of_fits ⟨denom, ⟨_, within⟩⟩ hrate hcap fits
  exact ⟨paid, bind_ok.mpr ⟨_, Word.narrow_of_lt within, done⟩, exact ▸ value⟩

/-- A coin for which the net worth and a balance are taxed once more can be paid,
with its tax, from the balance and the proceeds exactly when the rounding is covered. -/
theorem promise_covered_iff {coin balance : ℕ} (hrate : querier.taxRate = some taxRate)
    (hcap : querier.taxCap denom = some taxCap) (fits : taxRate.val + 10 ^ 18 < 2 ^ 128)
    (units : aust.val = worth / rate.val) (small : worth / 10 ^ 18 < 2 ^ 128)
    (promised : coin = Levy.net (10 ^ 18) taxRate.val taxCap.val
      (Levy.net (10 ^ 18) taxRate.val taxCap.val (worth / 10 ^ 18) + balance)) :
    Affordable querier denom aust rate taxRate.val taxCap.val balance coin ↔
      RoundingCovered taxRate.val taxCap.val worth rate.val balance := by
  obtain ⟨paid, done, value⟩ := redeemStable_net hrate hcap fits units small
  have sum := Levy.net_add_onTop (S := 10 ^ 18) (by norm_num) taxRate.val taxCap.val
    (Levy.net (10 ^ 18) taxRate.val taxCap.val (worth / 10 ^ 18) + balance)
  rw [← promised] at sum
  rw [RoundingCovered, roundingLoss, ← value]
  constructor
  · rintro ⟨paid', done', enough⟩
    obtain rfl := Except.ok.inj (done.symm.trans done')
    omega
  · intro covered
    exact ⟨paid, done, by omega⟩

end Promise

/-- A withdrawal is paid by its own redemption exactly when the rounding of the
withdrawn amount to whole aUST is covered. That is so when nothing is rounded; where
the cap binds in both deductions, it takes aUST that are worth the whole amount. -/
theorem withdrawReply_selfFunding_iff {api : Api} {querier : Querier} {st st' : Storage}
    {events : List Event} {res : Response}
    (h : withdrawReply api querier st (.ok events) = .ok (st', res)) :
    ∃ wasm withdrawing amount redeemed rate taxed net recipient moneyMarket aust taxRate taxCap,
      Withdrawn querier st events wasm withdrawing amount recipient taxed net ∧
      Paid api querier st st' res amount redeemed rate net recipient moneyMarket aust ∧
      querier.taxRate = some taxRate ∧ querier.taxCap st.config.denom = some taxCap ∧
      (Affordable querier st.config.denom redeemed rate taxRate.val taxCap.val 0 net.amount.val ↔
        RoundingCovered taxRate.val taxCap.val (amount.val * 10 ^ 18) rate.val 0) ∧
      (rate.val ∣ amount.val * 10 ^ 18 →
        Affordable querier st.config.denom redeemed rate taxRate.val taxCap.val 0
          net.amount.val) ∧
      (taxCap.val < Levy.uncapped (10 ^ 18) taxRate.val amount.val →
        taxCap.val < Levy.uncapped (10 ^ 18) taxRate.val taxed.amount.val →
        (Affordable querier st.config.denom redeemed rate taxRate.val taxCap.val 0
            net.amount.val ↔
          amount.val ≤ redeemed.val * rate.val / 10 ^ 18)) := by
  obtain ⟨wasm, withdrawing, amount, redeemed, rate, taxed, net, recipient, moneyMarket, aust,
    read, paid⟩ := withdrawReply_steps h
  obtain ⟨taxRate, taxCap, hrate, hcap, fits⟩ := deductTax_answers read.first
  have first := deductTax_net read.first hrate hcap
  have second := deductTax_net read.second hrate hcap
  have whole : amount.val * 10 ^ 18 / 10 ^ 18 = amount.val :=
    Nat.mul_div_cancel _ (by norm_num)
  have small : amount.val * 10 ^ 18 / 10 ^ 18 < 2 ^ 128 := by
    rw [whole]
    exact amount.lt
  have promised : net.amount.val = Levy.net (10 ^ 18) taxRate.val taxCap.val
      (Levy.net (10 ^ 18) taxRate.val taxCap.val (amount.val * 10 ^ 18 / 10 ^ 18) + 0) := by
    rw [whole, Nat.add_zero, ← first]
    exact second
  have covered := promise_covered_iff hrate hcap fits paid.floor small promised
  refine ⟨wasm, withdrawing, amount, redeemed, rate, taxed, net, recipient, moneyMarket, aust,
    taxRate, taxCap, read, paid, hrate, hcap, covered, ?_, ?_⟩
  · intro exact
    exact covered.mpr (.of_dvd exact)
  · intro binds binds'
    rw [covered, RoundingCovered.capped_iff, whole, paid.floor, Nat.div_mul_self_eq_mod_sub_self]
    · rw [whole]
      exact binds
    · rw [whole, Nat.add_zero, ← first]
      exact binds'

/-- The withdrawal of the repository's test promises 99,998 UST and a tax of 1 UST;
after the redemption one unit of it is missing. -/
theorem withdrawReply_one_short :
    ∃ r, withdrawReply Sample.api (Sample.querier 1050000000000000000) Sample.storage
        (.ok Sample.withdrawal) = .ok r ∧
      r.2.messages = [⟨.execute "aust" (.send "money" (.ofNat 95238095238) .redeemStable) [], none⟩,
        ⟨.bankSend "addr0008" [⟨"uusd", .ofNat 99998000000⟩], none⟩] ∧
      ¬ Affordable (Sample.querier 1050000000000000000) "uusd" (.ofNat 95238095238)
        ⟨.ofNat 1050000000000000000⟩ (10 ^ 16) (10 ^ 6) 0 99998000000 := by
  decide +kernel

/-- At a rate of one nothing is rounded, and the withdrawal pays for itself. -/
theorem withdrawReply_selfFunding_at_one :
    ∃ st' res amount redeemed rate net recipient moneyMarket aust,
      Paid Sample.api (Sample.querier (10 ^ 18)) Sample.storage st' res amount redeemed rate net
        recipient moneyMarket aust ∧
      Affordable (Sample.querier (10 ^ 18)) "uusd" redeemed rate (10 ^ 16) (10 ^ 6) 0
        net.amount.val := by
  have succeeds : ∃ r, withdrawReply Sample.api (Sample.querier (10 ^ 18)) Sample.storage
      (.ok Sample.withdrawal) = .ok r ∧ True := by decide +kernel
  obtain ⟨⟨st', res⟩, ran, _⟩ := succeeds
  obtain ⟨_, _, amount, redeemed, rate, _, net, recipient, moneyMarket, aust, taxRate, taxCap, _,
    paid, hrate, hcap, _, exact, _⟩ := withdrawReply_selfFunding_iff ran
  have par := Option.some.inj paid.queriedRate
  obtain rfl := Option.some.inj hrate
  obtain rfl := Option.some.inj hcap
  have whole : rate.val ∣ amount.val * 10 ^ 18 := by
    rw [← par]
    exact Nat.dvd_mul_left _ _
  exact ⟨st', res, amount, redeemed, rate, net, recipient, moneyMarket, aust, paid,
    exact whole⟩

theorem addOrKeep_of_lt {amount balance : Uint128} (h : amount.val + balance.val < 2 ^ 128) :
    (addOrKeep amount balance).val = amount.val + balance.val := by
  rw [addOrKeep, Word.add, Word.narrow_of_lt h]

theorem addOrKeep_of_le {amount balance : Uint128} (h : 2 ^ 128 ≤ amount.val + balance.val) :
    addOrKeep amount balance = amount := by
  rw [addOrKeep, Word.add, Word.narrow, dif_neg (Nat.not_lt.mpr h)]

/-- The earnings sent to staking can be paid, with their tax, from dogether's own
balance and the redemption exactly when the two do not fit into one `Uint128` or
the rounding of the interest to whole aUST is covered. That is so when nothing is
rounded; where the cap binds in both deductions, it takes aUST that are worth all of
the interest in whole UST. -/
theorem tryRedeemEarning_affordable_iff {api : Api} {querier : Querier} {env : Env}
    {info : MessageInfo} {st st' : Storage} {res : Response}
    (h : tryRedeemEarning api querier env info st = .ok (st', res)) :
    ∃ rate balance redeemed interest earnings moneyMarket aust staking whole own taxed taxRate
      taxCap worth, Redeemed api querier env st st' res rate balance redeemed interest earnings
        moneyMarket aust staking ∧ Earned querier env st interest whole own taxed earnings ∧
      querier.taxRate = some taxRate ∧ querier.taxCap st.config.denom = some taxCap ∧
      worth = balance.val * rate.val - st.state.totalUstPool.val * 10 ^ 18 ∧
      (Affordable querier st.config.denom redeemed rate taxRate.val taxCap.val own.val
          earnings.amount.val ↔
        2 ^ 128 ≤ Levy.net (10 ^ 18) taxRate.val taxCap.val (worth / 10 ^ 18) + own.val ∨
          RoundingCovered taxRate.val taxCap.val worth rate.val own.val) ∧
      (rate.val ∣ worth →
        Affordable querier st.config.denom redeemed rate taxRate.val taxCap.val own.val
          earnings.amount.val) ∧
      (taxCap.val < Levy.uncapped (10 ^ 18) taxRate.val (worth / 10 ^ 18) →
        taxCap.val < Levy.uncapped (10 ^ 18) taxRate.val (taxed.amount.val + own.val) →
        (Affordable querier st.config.denom redeemed rate taxRate.val taxCap.val own.val
            earnings.amount.val ↔
          2 ^ 128 ≤ taxed.amount.val + own.val ∨
            worth / 10 ^ 18 ≤ redeemed.val * rate.val / 10 ^ 18)) := by
  obtain ⟨rate, balance, redeemed, interest, earnings, moneyMarket, aust, staking, whole, own,
    taxed, did, earned, _⟩ := tryRedeemEarning_steps h
  obtain ⟨taxRate, taxCap, hrate, hcap, fits⟩ := deductTax_answers earned.first
  have first := deductTax_net earned.first hrate hcap
  have second := deductTax_net earned.second hrate hcap
  have small : interest.val / 10 ^ 18 < 2 ^ 128 := (Nat.div_le_self _ _).trans_lt interest.lt
  rw [earned.truncated] at first
  have covered : Affordable querier st.config.denom redeemed rate taxRate.val taxCap.val own.val
        earnings.amount.val ↔
      2 ^ 128 ≤ taxed.amount.val + own.val ∨
        RoundingCovered taxRate.val taxCap.val interest.val rate.val own.val := by
    by_cases fit : taxed.amount.val + own.val < 2 ^ 128
    · rw [addOrKeep_of_lt fit, first] at second
      rw [or_iff_right (Nat.not_le.mpr fit)]
      exact promise_covered_iff hrate hcap fits did.floor small second
    · -- The sum overflows: only the taxed interest is sent, and the balance is far larger.
      rw [addOrKeep_of_le (Nat.le_of_not_lt fit)] at second
      obtain ⟨paid, done, _⟩ := redeemStable_net hrate hcap fits did.floor small
      have sum := Levy.affordable (S := 10 ^ 18) (by norm_num) taxRate.val taxCap.val
        taxed.amount.val
      have less : taxed.amount.val ≤ interest.val / 10 ^ 18 := first ▸ Nat.sub_le _ _
      have bound := interest.lt
      rw [← second] at sum
      exact iff_of_true ⟨paid, done, by omega⟩ (Or.inl (Nat.le_of_not_lt fit))
  refine ⟨rate, balance, redeemed, interest, earnings, moneyMarket, aust, staking, whole, own,
    taxed, taxRate, taxCap, interest.val, did, earned, hrate, hcap,
    Nat.eq_sub_of_add_eq did.surplus, first ▸ covered, ?_, ?_⟩
  · intro exact
    exact covered.mpr (Or.inr (.of_dvd exact))
  · intro binds binds'
    rw [covered, RoundingCovered.capped_iff binds (first ▸ binds'), did.floor,
      Nat.div_mul_self_eq_mod_sub_self]

/-- The earnings of the repository's test: 14,998 UST and a tax of 1 UST are sent,
and one unit of it is missing. -/
theorem tryRedeemEarning_one_short :
    ∃ r, tryRedeemEarning Sample.api (Sample.querier 1050000000000000000) Sample.env
        ⟨"addr0000", []⟩ Sample.storage = .ok r ∧
      r.2.messages = [⟨.execute "aust" (.send "money" (.ofNat 7142857142) .redeemStable) [], none⟩,
        ⟨.execute "staking" (.staking .updateGlobalIndex) [⟨"uusd", .ofNat 14998000000⟩], none⟩] ∧
      ¬ Affordable (Sample.querier 1050000000000000000) "uusd" (.ofNat 7142857142)
        ⟨.ofNat 1050000000000000000⟩ (10 ^ 16) (10 ^ 6) 7500000000 14998000000 := by
  decide +kernel

/-- At a rate of two nothing is rounded, and the earnings can be paid. -/
theorem tryRedeemEarning_affordable_at_two :
    ∃ st' res rate balance redeemed interest earnings moneyMarket aust staking,
      Redeemed Sample.api (Sample.querier (2 * 10 ^ 18)) Sample.env Sample.storage st' res rate
        balance redeemed interest earnings moneyMarket aust staking ∧
      Affordable (Sample.querier (2 * 10 ^ 18)) "uusd" redeemed rate (10 ^ 16) (10 ^ 6) 7500000000
        earnings.amount.val := by
  have succeeds : ∃ r, tryRedeemEarning Sample.api (Sample.querier (2 * 10 ^ 18)) Sample.env
      ⟨"addr0000", []⟩ Sample.storage = .ok r ∧ True := by decide +kernel
  obtain ⟨⟨st', res⟩, ran, _⟩ := succeeds
  obtain ⟨rate, balance, redeemed, interest, earnings, moneyMarket, aust, staking, _, own, _,
    taxRate, taxCap, worth, did, earned, hrate, hcap, hworth, _, exact, _⟩ :=
    tryRedeemEarning_affordable_iff ran
  have doubled := Option.some.inj did.queriedRate
  have held := Option.some.inj did.queriedBalance
  obtain rfl := Option.some.inj earned.queriedOwn
  obtain rfl := Option.some.inj hrate
  obtain rfl := Option.some.inj hcap
  have whole : rate.val ∣ worth := by
    rw [hworth, ← doubled, ← held]
    decide +kernel
  exact ⟨st', res, rate, balance, redeemed, interest, earnings, moneyMarket, aust, staking, did,
    exact whole⟩

end DogetherContracts.Pool
