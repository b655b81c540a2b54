import DogetherContracts.Lib.Units
import DogetherContracts.Pool.Effects

/-! # The surplus

What an earnings call reads and what it makes of it: everything that Anchor holds
over the pool, and nothing else. -/
namespace DogetherContracts.Pool
open Checked

/-- The aUST that `tryRedeemEarning` redeems, from the pool, the aUST balance and
the exchange rate it reads. -/
def surplusAust (totalUstPool aust : Uint128) (exchangeRate : Decimal256) :
    Except Fault Uint128 := do
  let interest ← interestAccruedUst totalUstPool aust exchangeRate
  wholeAust interest exchangeRate

/-- Everything the surplus is computed from fits into a `Decimal`. -/
structure InRange (totalUstPool aust : Uint128) (exchangeRate : Decimal256) : Prop where
  poolFits : totalUstPool.val * 10 ^ 18 < 2 ^ 128
  austFits : aust.val * 10 ^ 18 < 2 ^ 128
  rateFits : exchangeRate.val < 2 ^ 128
  worthFits : aust.val * exchangeRate.val < 2 ^ 128

theorem interestAccruedUst_of_inRange {totalUstPool aust : Uint128} {exchangeRate : Decimal256}
    (range : InRange totalUstPool aust exchangeRate)
    (covered : totalUstPool.val * 10 ^ 18 ≤ aust.val * exchangeRate.val) :
    ∃ interest, interestAccruedUst totalUstPool aust exchangeRate = .ok interest := by
  have fits := range.worthFits
  refine ⟨⟨⟨aust.val * exchangeRate.val - totalUstPool.val * 10 ^ 18, by omega⟩⟩, ?_⟩
  simp only [interestAccruedUst, bind_ok, Decimal.fromRatio_ok, Decimal256.toDecimal_ok,
    decimalMultiplicationIn256_ok, decimalSubtractionIn256_ok, Uint128.val_one, Nat.div_one]
  refine ⟨⟨⟨_, range.poolFits⟩⟩, ⟨by norm_num, rfl⟩, ⟨⟨_, range.austFits⟩⟩, ⟨by norm_num, rfl⟩,
    ⟨⟨_, range.rateFits⟩⟩, rfl, ⟨⟨_, range.worthFits⟩⟩, ?_, Nat.sub_add_cancel covered⟩
  rw [Nat.mul_right_comm, Nat.mul_div_cancel _ (by norm_num)]

/-- The whole units that an amount worth no more than a balance buys fit. -/
theorem wholeAust_of_le {ust : Decimal} {aust : Uint128} {exchangeRate : Decimal256}
    (positive : 0 < exchangeRate.val) (le : ust.val ≤ aust.val * exchangeRate.val)
    (fits : aust.val * 10 ^ 18 < 2 ^ 128) :
    ∃ units, wholeAust ust exchangeRate = .ok units ∧ units.val = ust.val / exchangeRate.val := by
  have scaled : ust.val * 10 ^ 18 / exchangeRate.val ≤ aust.val * 10 ^ 18 := by
    apply Nat.div_le_of_le_mul
    calc ust.val * 10 ^ 18 ≤ aust.val * exchangeRate.val * 10 ^ 18 := Nat.mul_le_mul_right _ le
      _ = exchangeRate.val * (aust.val * 10 ^ 18) := by ring
  have units : ust.val / exchangeRate.val < 2 ^ 128 := (Nat.div_le_self _ _).trans_lt ust.lt
  exact ⟨⟨_, units⟩, wholeAust_ok.mpr ⟨positive.ne', scaled.trans_lt fits, rfl⟩, rfl⟩

/-- In range the surplus is computed: it is the interest in whole units. -/
theorem surplusAust_of_inRange {totalUstPool aust : Uint128} {exchangeRate : Decimal256}
    (positive : 0 < exchangeRate.val) (range : InRange totalUstPool aust exchangeRate)
    (covered : totalUstPool.val * 10 ^ 18 ≤ aust.val * exchangeRate.val) :
    ∃ interest redeemed, surplusAust totalUstPool aust exchangeRate = .ok redeemed ∧
      interest + totalUstPool.val * 10 ^ 18 = aust.val * exchangeRate.val ∧
      redeemed.val = interest / exchangeRate.val := by
  obtain ⟨interest, accrued⟩ := interestAccruedUst_of_inRange range covered
  have excess := interestAccruedUst_ok accrued
  obtain ⟨redeemed, whole, floor⟩ := wholeAust_of_le positive (Nat.le.intro excess) range.austFits
  exact ⟨interest.val, redeemed, bind_ok.mpr ⟨interest, accrued, whole⟩, excess, floor⟩

/-- Everything that an earnings call reads, and what it makes of it. -/
structure Takings where
  moneyMarket : Addr
  aust : Addr
  rate : Decimal256
  balance : Uint128
  redeemed : Uint128
  whole : Uint128
  own : Uint128
  taxed : Coin
  earnings : Coin

/-- The surplus of Anchor over the pool, scaled by 10^18. -/
def Takings.surplus (t : Takings) (st : Storage) : ℕ :=
  t.balance.val * t.rate.val - st.state.totalUstPool.val * 10 ^ 18

structure Harvest (api : Api) (querier : Querier) (env : Env) (st : Storage) (t : Takings) :
    Prop where
  due : st.state.nextDraw.val ≤ env.block.seconds
  advance : st.state.nextDraw.val + st.state.drawPeriod.val < 2 ^ 64
  marketAddr : api.humanize st.config.moneyMarketAddress = .ok t.moneyMarket
  austAddr : api.humanize st.config.anchorAustAddress = .ok t.aust
  queriedRate : querier.epochState t.moneyMarket = some t.rate
  queriedBalance : querier.cw20Balance t.aust env.contract = some t.balance
  positive : 0 < t.rate.val
  range : InRange st.state.totalUstPool t.balance t.rate
  covered : st.state.totalUstPool.val * 10 ^ 18 ≤ t.balance.val * t.rate.val
  redeemed : t.redeemed.val = t.surplus st / t.rate.val
  whole : t.whole.val = t.surplus st / 10 ^ 18
  first : deductTax querier ⟨st.config.denom, t.whole⟩ = .ok t.taxed
  queriedOwn : querier.balance env.contract st.config.denom = some t.own
  second : deductTax querier ⟨st.config.denom, addOrKeep t.taxed.amount t.own⟩ = .ok t.earnings

/-- The messages of an earnings call. -/
def Takings.messages (t : Takings) (staking : Addr) : List SubMsg :=
  [⟨.execute t.aust (.send t.moneyMarket t.redeemed .redeemStable) [], none⟩,
    ⟨.execute staking (.staking .updateGlobalIndex) [t.earnings], none⟩]

/-- An interest is computed only in range. -/
theorem interestAccruedUst_inRange {totalUstPool aust : Uint128} {exchangeRate : Decimal256}
    {interest : Decimal} (h : interestAccruedUst totalUstPool aust exchangeRate = .ok interest) :
    InRange totalUstPool aust exchangeRate := by
  have excess := interestAccruedUst_ok h
  simp only [interestAccruedUst, bind_ok, Decimal.fromRatio_ok, Decimal256.toDecimal_ok,
    decimalMultiplicationIn256_ok, decimalSubtractionIn256_ok, Uint128.val_one, Nat.div_one] at h
  obtain ⟨pool, ⟨_, hpool⟩, held, ⟨_, hheld⟩, rate, hrate, worth, hworth, hinterest⟩ := h
  refine ⟨hpool ▸ pool.lt, hheld ▸ held.lt, hrate ▸ rate.lt, ?_⟩
  have value : worth.val = aust.val * exchangeRate.val := by omega
  exact value ▸ worth.lt

section Redeem

variable {api : Api} {querier : Querier} {env : Env} {info : MessageInfo} {st st' : Storage}
  {res : Response}

theorem tryRedeemEarning_harvest (h : tryRedeemEarning api querier env info st = .ok (st', res)) :
    info.funds = [] ∧ ∃ t staking, Harvest api querier env st t ∧
      api.humanize st.state.stakingAddress = .ok staking ∧ res.messages = t.messages staking := by
  obtain ⟨due, advanced, _⟩ := tryRedeemEarning_draw h
  obtain ⟨rate, balance, redeemed, interest, earnings, moneyMarket, aust, staking, whole, own,
    taxed, did, earned, accrued, bought⟩ := tryRedeemEarning_steps h
  have funds : info.funds = [] := by
    simp only [tryRedeemEarning, bind_ok, rejectIf_ok, not_not] at h
    obtain ⟨_, funds, _⟩ := h
    exact funds
  have surplus := Nat.eq_sub_of_add_eq did.surplus
  refine ⟨funds, ⟨moneyMarket, aust, rate, balance, redeemed, whole, own, taxed, earnings⟩, staking,
    ?_, did.stakingAddr, did.messages⟩
  exact {
    due := due
    advance := advanced ▸ st'.state.nextDraw.lt
    marketAddr := did.marketAddr
    austAddr := did.austAddr
    queriedRate := did.queriedRate
    queriedBalance := did.queriedBalance
    positive := Nat.pos_of_ne_zero (wholeAust_ok.mp bought).1
    range := interestAccruedUst_inRange accrued
    covered := did.surplus ▸ Nat.le_add_left _ _
    redeemed := by rw [Takings.surplus, did.floor, surplus]
    whole := by rw [Takings.surplus, earned.truncated, surplus]
    first := earned.first
    queriedOwn := earned.queriedOwn
    second := earned.second }

theorem tryRedeemEarning_of_harvest {t : Takings} {staking : Addr} (funds : info.funds = [])
    (harvest : Harvest api querier env st t)
    (human : api.humanize st.state.stakingAddress = .ok staking) :
    ∃ st' res, tryRedeemEarning api querier env info st = .ok (st', res) ∧
      res.messages = t.messages staking := by
  obtain ⟨interest, accrued⟩ := interestAccruedUst_of_inRange harvest.range harvest.covered
  have excess := interestAccruedUst_ok accrued
  have surplus : interest.val = t.surplus st := Nat.eq_sub_of_add_eq excess
  obtain ⟨redeemed, bought, floor⟩ :=
    wholeAust_of_le harvest.positive (Nat.le.intro excess) harvest.range.austFits
  obtain rfl : redeemed = t.redeemed :=
    Word.ext (floor.trans (surplus ▸ harvest.redeemed.symm))
  have truncated : interest.mulUint Uint128.one = .ok t.whole := by
    rw [Decimal.mulUint_ok, Uint128.val_one, Nat.one_mul, surplus, harvest.whole]
  obtain ⟨nextDraw, advanced⟩ := Word.add_of_lt (e := Fault.panic) harvest.advance
  simp only [tryRedeemEarning, rejectIf_neg _ (not_not.mpr funds),
    rejectIf_neg _ (Nat.not_lt.mpr harvest.due), harvest.marketAddr, harvest.queriedRate,
    harvest.austAddr, harvest.queriedBalance, orReject, accrued, bought, truncated, harvest.first,
    harvest.queriedOwn, human, harvest.second, advanced, ok_bind]
  exact ⟨_, _, rfl, rfl⟩

end Redeem

/-- A due earnings call without funds whose questions to the outside are answered and
whose taxes can be deducted. -/
structure Ready (api : Api) (querier : Querier) (env : Env) (info : MessageInfo) (st : Storage)
    (moneyMarket aust staking : Addr) (rate : Decimal256) (balance : Uint128) : Prop where
  funds : info.funds = []
  due : st.state.nextDraw.val ≤ env.block.seconds
  advance : st.state.nextDraw.val + st.state.drawPeriod.val < 2 ^ 64
  marketAddr : api.humanize st.config.moneyMarketAddress = .ok moneyMarket
  austAddr : api.humanize st.config.anchorAustAddress = .ok aust
  stakingAddr : api.humanize st.state.stakingAddress = .ok staking
  queriedRate : querier.epochState moneyMarket = some rate
  queriedBalance : querier.cw20Balance aust env.contract = some balance
  queriedOwn : ∃ own, querier.balance env.contract st.config.denom = some own
  taxed : ∃ taxRate taxCap, querier.taxRate = some taxRate ∧
    querier.taxCap st.config.denom = some taxCap ∧ taxRate.val + 10 ^ 18 < 2 ^ 128

theorem Ready.harvest {api : Api} {querier : Querier} {env : Env} {info : MessageInfo}
    {st : Storage} {moneyMarket aust staking : Addr} {rate : Decimal256} {balance redeemed : Uint128}
    (ready : Ready api querier env info st moneyMarket aust staking rate balance)
    (positive : 0 < rate.val) (range : InRange st.state.totalUstPool balance rate)
    (covered : st.state.totalUstPool.val * 10 ^ 18 ≤ balance.val * rate.val)
    (floor : redeemed.val =
      (balance.val * rate.val - st.state.totalUstPool.val * 10 ^ 18) / rate.val) :
    ∃ whole own taxed earnings, Harvest api querier env st
      ⟨moneyMarket, aust, rate, balance, redeemed, whole, own, taxed, earnings⟩ := by
  obtain ⟨own, queriedOwn⟩ := ready.queriedOwn
  obtain ⟨taxRate, taxCap, hrate, hcap, fits⟩ := ready.taxed
  have worth := range.worthFits
  have small : (balance.val * rate.val - st.state.totalUstPool.val * 10 ^ 18) / 10 ^ 18 <
      2 ^ 128 := (Nat.div_le_self _ _).trans_lt ((Nat.sub_le _ _).trans_lt worth)
  obtain ⟨taxed, first, _⟩ := deductTax_of_fits ⟨st.config.denom, ⟨_, small⟩⟩ hrate hcap fits
  obtain ⟨earnings, second, _⟩ :=
    deductTax_of_fits ⟨st.config.denom, addOrKeep taxed.amount own⟩ hrate hcap fits
  exact ⟨⟨_, small⟩, own, taxed, earnings, {
    due := ready.due
    advance := ready.advance
    marketAddr := ready.marketAddr
    austAddr := ready.austAddr
    queriedRate := ready.queriedRate
    queriedBalance := ready.queriedBalance
    positive := positive
    range := range
    covered := covered
    redeemed := floor
    whole := rfl
    first := first
    queriedOwn := queriedOwn
    second := second }⟩

/-- An earnings call that reads this pool, balance and rate redeems `redeemed` aUST. -/
def Redeems (totalUstPool balance : Uint128) (rate : Decimal256) (redeemed : Uint128) : Prop :=
  ∀ (api : Api) (querier : Querier) (env : Env) (info : MessageInfo) (st st' : Storage)
    (res : Response) (moneyMarket aust : Addr), st.state.totalUstPool = totalUstPool →
    api.humanize st.config.moneyMarketAddress = .ok moneyMarket →
    api.humanize st.config.anchorAustAddress = .ok aust →
    querier.epochState moneyMarket = some rate →
    querier.cw20Balance aust env.contract = some balance →
    tryRedeemEarning api querier env info st = .ok (st', res) →
    ∃ staking earnings, res.messages =
      [⟨.execute aust (.send moneyMarket redeemed .redeemStable) [], none⟩,
        ⟨.execute staking (.staking .updateGlobalIndex) [earnings], none⟩]

theorem redeems_of_surplus {totalUstPool balance redeemed : Uint128} {rate : Decimal256}
    (h : surplusAust totalUstPool balance rate = .ok redeemed) :
    Redeems totalUstPool balance rate redeemed := by
  intro api querier env info st st' res moneyMarket aust pool market token queriedRate
    queriedBalance ran
  obtain ⟨rate', balance', redeemed', interest, earnings, moneyMarket', aust', staking, _, _, _,
    did, _, accrued, whole⟩ := tryRedeemEarning_steps ran
  obtain rfl := Except.ok.inj (market.symm.trans did.marketAddr)
  obtain rfl := Except.ok.inj (token.symm.trans did.austAddr)
  obtain rfl := Option.some.inj (queriedRate.symm.trans did.queriedRate)
  obtain rfl := Option.some.inj (queriedBalance.symm.trans did.queriedBalance)
  have same : surplusAust totalUstPool balance rate = .ok redeemed' :=
    bind_ok.mpr ⟨interest, pool ▸ accrued, whole⟩
  obtain rfl := Except.ok.inj (h.symm.trans same)
  exact ⟨staking, earnings, did.messages⟩

/-- A ready earnings call on this pool, balance and rate goes through, and it redeems
`redeemed` aUST. -/
def RedeemsWhenReady (totalUstPool balance : Uint128) (rate : Decimal256) (redeemed : Uint128) :
    Prop :=
  ∀ (api : Api) (querier : Querier) (env : Env) (info : MessageInfo) (st : Storage)
    (moneyMarket aust staking : Addr), st.state.totalUstPool = totalUstPool →
    Ready api querier env info st moneyMarket aust staking rate balance →
    ∃ st' res earnings, tryRedeemEarning api querier env info st = .ok (st', res) ∧
      res.messages = [⟨.execute aust (.send moneyMarket redeemed .redeemStable) [], none⟩,
        ⟨.execute staking (.staking .updateGlobalIndex) [earnings], none⟩]

theorem redeemsWhenReady_of_inRange {totalUstPool balance redeemed : Uint128} {rate : Decimal256}
    (positive : 0 < rate.val) (range : InRange totalUstPool balance rate)
    (covered : totalUstPool.val * 10 ^ 18 ≤ balance.val * rate.val)
    (floor : redeemed.val = (balance.val * rate.val - totalUstPool.val * 10 ^ 18) / rate.val) :
    RedeemsWhenReady totalUstPool balance rate redeemed := by
  intro api querier env info st moneyMarket aust staking pool ready
  subst pool
  obtain ⟨whole, own, taxed, earnings, harvest⟩ := ready.harvest positive range covered floor
  obtain ⟨st', res, ran, sent⟩ :=
    tryRedeemEarning_of_harvest ready.funds harvest ready.stakingAddr
  exact ⟨st', res, earnings, ran, sent⟩

/-- The earnings call redeems the most aUST that leaves the pool covered, and a
second call at the same rate redeems nothing; both go through once they are ready. -/
theorem redeemEarning_exact_surplus (totalUstPool balance : Uint128) (rate : Decimal256)
    (positive : 0 < rate.val) (range : InRange totalUstPool balance rate)
    (covered : totalUstPool.val * 10 ^ 18 ≤ balance.val * rate.val) :
    ∃ redeemed, Redeems totalUstPool balance rate redeemed ∧
      RedeemsWhenReady totalUstPool balance rate redeemed ∧
      surplusAust totalUstPool balance rate = .ok redeemed ∧
      (∀ v : ℤ, (totalUstPool.val * 10 ^ 18 : ℤ) ≤ (balance.val - v) * rate.val ↔
        v ≤ redeemed.val) ∧
      balance.val * rate.val - totalUstPool.val * 10 ^ 18 < (redeemed.val + 1) * rate.val ∧
      ∀ left : Uint128, left.val + redeemed.val = balance.val →
        Redeems totalUstPool left rate 0 ∧ RedeemsWhenReady totalUstPool left rate 0 ∧
          surplusAust totalUstPool left rate = .ok 0 := by
  obtain ⟨interest, redeemed, computed, excess, floor⟩ :=
    surplusAust_of_inRange positive range covered
  have whole : redeemed.val = (balance.val * rate.val - totalUstPool.val * 10 ^ 18) / rate.val := by
    rw [floor, Nat.eq_sub_of_add_eq excess]
  refine ⟨redeemed, redeems_of_surplus computed,
    redeemsWhenReady_of_inRange positive range covered whole, computed, ?_, ?_, ?_⟩
  · intro v
    rw [floor]
    exact_mod_cast Units.harvest_largest positive excess v
  · have next := Nat.lt_div_mul_add (a := interest) positive
    rw [Nat.add_mul, floor]
    omega
  · intro left taken
    have rest := Units.harvest_rest excess (floor ▸ taken)
    have le : left.val ≤ balance.val := Nat.le.intro taken
    have range' : InRange totalUstPool left rate :=
      ⟨range.poolFits, (Nat.mul_le_mul_right _ le).trans_lt range.austFits, range.rateFits,
        (Nat.mul_le_mul_right _ le).trans_lt range.worthFits⟩
    have covered' : totalUstPool.val * 10 ^ 18 ≤ left.val * rate.val := by omega
    obtain ⟨interest', redeemed', computed', excess', floor'⟩ :=
      surplusAust_of_inRange positive range' covered'
    have small : interest' < rate.val := by
      have lt := Nat.mod_lt interest positive
      omega
    obtain rfl : redeemed' = 0 := by
      rw [Word.ext_iff, floor', Nat.div_eq_of_lt small]
      rfl
    rw [Nat.eq_sub_of_add_eq excess'] at floor'
    exact ⟨redeems_of_surplus computed',
      redeemsWhenReady_of_inRange positive range' covered' floor', computed'⟩

/-! A small pool with the numbers of the repository's tests: 150,000 UST deposited,
as many aUST, a balance of 7,500 UST, 1 % tax and a cap of 1 UST. -/
namespace Sample

def api : Api := Api.book ["admin", "money", "aust", "staking", "cw20", "loterra", "addr0008"]

def storage : Storage :=
  ⟨⟨Api.raw 0, "uusd", Api.raw 1, Api.raw 2, .ofNat 1, "", .ofNat 100000, Api.raw 5⟩,
    ⟨Api.raw 3, Api.raw 4, .ofNat 100, .ofNat 1000, .ofNat 150000000000⟩⟩

def env : Env := ⟨⟨.ofNat 12345, .ofNat 1571797419879305533⟩, "dogether"⟩

def querier (rate : ℕ) : Querier where
  taxRate := some ⟨.ofNat (10 ^ 16)⟩
  taxCap _ := some (.ofNat (10 ^ 6))
  balance _ _ := some (.ofNat 7500000000)
  loterraConfig _ := none
  epochState _ := some ⟨.ofNat rate⟩
  cw20Balance _ _ := some (.ofNat 150000000000)

def withdrawal : List Event :=
  [⟨"wasm", [⟨"withdraw", "100000000000"⟩, ⟨"recipient", "addr0008"⟩]⟩]

end Sample

/-- The 5 % of the repository's test: the call redeems 7142857142 of the 150,000 aUST,
and a second one, overdue as well, redeems nothing of what is left. -/
theorem redeemEarning_exact_surplus_five_percent :
    ∃ st' res earnings st'' res' earnings',
      tryRedeemEarning Sample.api (Sample.querier 1050000000000000000) Sample.env ⟨"addr0000", []⟩
        Sample.storage = .ok (st', res) ∧
      res.messages = [⟨.execute "aust" (.send "money" (.ofNat 7142857142) .redeemStable) [], none⟩,
        ⟨.execute "staking" (.staking .updateGlobalIndex) [earnings], none⟩] ∧
      tryRedeemEarning Sample.api
        { Sample.querier 1050000000000000000 with
          cw20Balance := fun _ _ => some (.ofNat 142857142858) }
        Sample.env ⟨"addr0000", []⟩ st' = .ok (st'', res') ∧
      res'.messages = [⟨.execute "aust" (.send "money" 0 .redeemStable) [], none⟩,
        ⟨.execute "staking" (.staking .updateGlobalIndex) [earnings'], none⟩] := by
  obtain ⟨redeemed, _, goes, computed, _, _, again⟩ := redeemEarning_exact_surplus
    (.ofNat 150000000000) (.ofNat 150000000000) ⟨.ofNat 1050000000000000000⟩ (by decide)
    ⟨by decide, by decide, by decide, by decide⟩ (by decide)
  have value : surplusAust (.ofNat 150000000000) (.ofNat 150000000000)
      ⟨.ofNat 1050000000000000000⟩ = .ok (.ofNat 7142857142) := by decide +kernel
  obtain rfl := Except.ok.inj (computed.symm.trans value)
  obtain ⟨_, idle, _⟩ := again (.ofNat 142857142858) (by decide)
  obtain ⟨st', res, earnings, ran, sent⟩ := goes Sample.api (Sample.querier 1050000000000000000)
    Sample.env ⟨"addr0000", []⟩ Sample.storage "money" "aust" "staking" rfl
    ⟨rfl, by decide, by decide, rfl, rfl, rfl, rfl, rfl, ⟨_, rfl⟩, ⟨_, _, rfl, rfl, by decide⟩⟩
  obtain ⟨_, _, _, _, _, _, _, _, done⟩ := tryRedeemEarning_ok ran
  obtain ⟨_, advanced, period⟩ := tryRedeemEarning_draw ran
  have config : st'.config = Sample.storage.config := by rw [done.rest]
  have address : st'.state.stakingAddress = Sample.storage.state.stakingAddress := by
    rw [done.rest]
  obtain ⟨st'', res', earnings', ran', sent'⟩ := idle Sample.api
    { Sample.querier 1050000000000000000 with
      cw20Balance := fun _ _ => some (.ofNat 142857142858) }
    Sample.env ⟨"addr0000", []⟩ st' "money" "aust" "staking" (done.total.trans rfl) {
      funds := rfl
      due := by rw [advanced]; decide
      advance := by rw [advanced, period]; decide
      marketAddr := by rw [config]; rfl
      austAddr := by rw [config]; rfl
      stakingAddr := by rw [address]; rfl
      queriedRate := rfl
      queriedBalance := rfl
      queriedOwn := ⟨_, rfl⟩
      taxed := ⟨_, _, rfl, rfl, by decide⟩ }
  exact ⟨st', res, earnings, st'', res', earnings', ran, sent, ran', sent'⟩

end DogetherContracts.Pool
