import DogetherContracts.Pool.Contract

/-! # What a successful call of dogether did

The numbers behind the aUST conversions, and for every handler what it wrote and
which messages it emitted. -/
namespace DogetherContracts.Pool
open Checked

/-! What the two conversions to aUST compute: one division, rounded down. -/

theorem wholeAust_ok {ust : Decimal} {exchangeRate : Decimal256} {aust : Uint128} :
    wholeAust ust exchangeRate = .ok aust ↔ exchangeRate.val ≠ 0 ∧
      ust.val * 10 ^ 18 / exchangeRate.val < 2 ^ 128 ∧ aust.val = ust.val / exchangeRate.val := by
  have floors (x r : ℕ) : x * 10 ^ 18 / r / 10 ^ 18 = x / r := by
    rw [Nat.div_div_eq_div_mul, Nat.mul_div_mul_right _ _ (by norm_num)]
  have wide : ust.val * 10 ^ 18 < 2 ^ 256 :=
    calc ust.val * 10 ^ 18 < 2 ^ 128 * 2 ^ 128 := Nat.mul_lt_mul'' ust.lt (by norm_num)
      _ = 2 ^ 256 := by norm_num
  simp only [wholeAust, bind_ok, Decimal256.fromRatio_ok, Decimal256.val_ofDecimal,
    Decimal256.toDecimal_ok, Decimal.mulUint_ok, Uint128.val_one, Nat.one_mul]
  constructor
  · rintro ⟨ratio, ⟨_, nonzero, hratio⟩, d, hd, haust⟩
    rw [hd, hratio, floors] at haust
    have fits := d.lt
    rw [hd, hratio] at fits
    exact ⟨nonzero, fits, haust⟩
  · rintro ⟨nonzero, fits, haust⟩
    refine ⟨Decimal256.ofDecimal ⟨⟨_, fits⟩⟩, ⟨wide, nonzero, rfl⟩, ⟨⟨_, fits⟩⟩, rfl, ?_⟩
    rw [haust, ← floors]

theorem principalToAust_ok {amount aust : Uint128} {exchangeRate : Decimal256} :
    principalToAust amount exchangeRate = .ok aust ↔ exchangeRate.val ≠ 0 ∧
      amount.val * 10 ^ 18 < 2 ^ 128 ∧
      amount.val * 10 ^ 18 * 10 ^ 18 / exchangeRate.val < 2 ^ 128 ∧
      aust.val = amount.val * 10 ^ 18 / exchangeRate.val := by
  simp only [principalToAust, bind_ok, Decimal.fromRatio_ok, wholeAust_ok, Uint128.val_one,
    Nat.div_one]
  constructor
  · rintro ⟨ust, ⟨_, hust⟩, nonzero, fits, haust⟩
    rw [hust] at fits haust
    exact ⟨nonzero, hust ▸ ust.lt, fits, haust⟩
  · rintro ⟨nonzero, small, fits, haust⟩
    exact ⟨⟨⟨_, small⟩⟩, ⟨Nat.one_ne_zero, rfl⟩, nonzero, fits, haust⟩

theorem interestAccruedUst_ok {totalUstPool aust : Uint128} {exchangeRate : Decimal256}
    {interest : Decimal} (h : interestAccruedUst totalUstPool aust exchangeRate = .ok interest) :
    interest.val + totalUstPool.val * 10 ^ 18 = aust.val * exchangeRate.val := by
  simp only [interestAccruedUst, bind_ok, Decimal.fromRatio_ok, Decimal256.toDecimal_ok,
    decimalMultiplicationIn256_ok, decimalSubtractionIn256_ok, Uint128.val_one, Nat.div_one] at h
  obtain ⟨pool, ⟨_, hpool⟩, balance, ⟨_, hbalance⟩, rate, hrate, worth, hworth, difference⟩ := h
  rw [hbalance, hrate, Nat.mul_right_comm, Nat.mul_div_cancel _ (by norm_num)] at hworth
  rw [← hpool, ← hworth]
  exact difference

theorem sentAmount_ok {denom : String} {funds : List Coin} {sent : Uint128} :
    sentAmount denom funds = .ok sent ↔ funds = [⟨denom, sent⟩] := by
  cases funds with
  | nil => simp [sentAmount]
  | cons coin coins =>
      cases coins with
      | nil =>
          simp only [sentAmount, bind_ok, rejectIf_ok, pure_ok, not_not, List.cons.injEq, and_true]
          constructor
          · rintro ⟨_, same, rfl⟩
            exact same ▸ rfl
          · intro same
            exact ⟨(), by rw [same], by rw [same]⟩
      | cons _ _ => simp [sentAmount]

structure Pooled (api : Api) (querier : Querier) (info : MessageInfo) (st st' : Storage)
    (res : Response) (sent : Uint128) (net : Coin) (moneyMarket staking cw20 : Addr) : Prop where
  funds : info.funds = [⟨st.config.denom, sent⟩]
  marketAddr : api.humanize st.config.moneyMarketAddress = .ok moneyMarket
  stakingAddr : api.humanize st.state.stakingAddress = .ok staking
  cw20Addr : api.humanize st.state.cw20Address = .ok cw20
  deducted : deductTax querier ⟨st.config.denom, sent⟩ = .ok net
  total : st'.state.totalUstPool.val = st.state.totalUstPool.val + net.amount.val
  rest : st' = { st with state := { st.state with totalUstPool := st'.state.totalUstPool } }
  messages : res.messages = [⟨.execute moneyMarket .depositStable [net], none⟩,
    ⟨.execute cw20 (.cw20 (.bond staking net.amount .bondStake info.sender)) [], none⟩]

theorem tryPool_ok {api : Api} {querier : Querier} {info : MessageInfo} {st st' : Storage}
    {res : Response} (h : tryPool api querier info st = .ok (st', res)) :
    ∃ sent net moneyMarket staking cw20,
      Pooled api querier info st st' res sent net moneyMarket staking cw20 := by
  simp only [tryPool, bind_ok, sentAmount_ok, Word.add_ok, pure_ok, Prod.mk.injEq] at h
  obtain ⟨sent, funds, moneyMarket, hmm, net, hnet, staking, hstaking, cw20, hcw20, total, htotal,
    rfl, rfl⟩ := h
  exact ⟨sent, net, moneyMarket, staking, cw20, funds, hmm, hstaking, hcw20, hnet, htotal, rfl, rfl⟩

theorem tryUnPool_ok {api : Api} {info : MessageInfo} {st st' : Storage} {amount : Uint128}
    {res : Response} (h : tryUnPool api info st amount = .ok (st', res)) :
    ∃ staking, api.humanize st.state.stakingAddress = .ok staking ∧ st' = st ∧ res.messages =
      [⟨.execute staking (.staking (.unbondStake amount info.sender)) [], none⟩] := by
  simp only [tryUnPool, bind_ok, pure_ok, Prod.mk.injEq] at h
  obtain ⟨_, _, staking, hstaking, rfl, rfl⟩ := h
  exact ⟨staking, hstaking, rfl, rfl⟩

theorem tryClaimUnPool_ok {api : Api} {info : MessageInfo} {st st' : Storage} {res : Response}
    (h : tryClaimUnPool api info st = .ok (st', res)) :
    ∃ staking, api.humanize st.state.stakingAddress = .ok staking ∧ st' = st ∧ res.messages =
      [⟨.execute staking (.staking (.withdrawStake none info.sender)) [], some 2⟩] := by
  simp only [tryClaimUnPool, bind_ok, pure_ok, Prod.mk.injEq] at h
  obtain ⟨staking, hstaking, rfl, rfl⟩ := h
  exact ⟨staking, hstaking, rfl, rfl⟩

structure Redeemed (api : Api) (querier : Querier) (env : Env) (st st' : Storage) (res : Response)
    (rate : Decimal256) (balance redeemed : Uint128) (interest : Decimal) (earnings : Coin)
    (moneyMarket aust staking : Addr) : Prop where
  due : st.state.nextDraw.val ≤ env.block.seconds
  marketAddr : api.humanize st.config.moneyMarketAddress = .ok moneyMarket
  austAddr : api.humanize st.config.anchorAustAddress = .ok aust
  stakingAddr : api.humanize st.state.stakingAddress = .ok staking
  queriedRate : querier.epochState moneyMarket = some rate
  queriedBalance : querier.cw20Balance aust env.contract = some balance
  surplus : interest.val + st.state.totalUstPool.val * 10 ^ 18 = balance.val * rate.val
  floor : redeemed.val = interest.val / rate.val
  total : st'.state.totalUstPool = st.state.totalUstPool
  rest : st' = { st with state := { st.state with nextDraw := st'.state.nextDraw } }
  messages : res.messages = [⟨.execute aust (.send moneyMarket redeemed .redeemStable) [], none⟩,
    ⟨.execute staking (.staking .updateGlobalIndex) [earnings], none⟩]

/-- How `tryRedeemEarning` arrives at the coin for staking: the interest in whole
UST, taxed once, joins dogether's own balance, and the sum is taxed again. -/
structure Earned (querier : Querier) (env : Env) (st : Storage) (interest : Decimal)
    (whole own : Uint128) (taxed earnings : Coin) : Prop where
  truncated : whole.val = interest.val / 10 ^ 18
  first : deductTax querier ⟨st.config.denom, whole⟩ = .ok taxed
  queriedOwn : querier.balance env.contract st.config.denom = some own
  second : deductTax querier ⟨st.config.denom, addOrKeep taxed.amount own⟩ = .ok earnings

theorem tryRedeemEarning_steps {api : Api} {querier : Querier} {env : Env} {info : MessageInfo}
    {st st' : Storage} {res : Response}
    (h : tryRedeemEarning api querier env info st = .ok (st', res)) :
    ∃ rate balance redeemed interest earnings moneyMarket aust staking whole own taxed,
      Redeemed api querier env st st' res rate balance redeemed interest earnings moneyMarket aust
        staking ∧ Earned querier env st interest whole own taxed earnings ∧
      interestAccruedUst st.state.totalUstPool balance rate = .ok interest ∧
      wholeAust interest rate = .ok redeemed := by
  simp only [tryRedeemEarning, bind_ok, rejectIf_ok, orReject_ok, Decimal.mulUint_ok, pure_ok,
    Prod.mk.injEq, Uint128.val_one, Nat.one_mul] at h
  obtain ⟨_, _, _, due, moneyMarket, hmm, rate, hrate, aust, haust, balance, hbalance, interest,
    hinterest, redeemed, hredeemed, whole, hwhole, taxed, htaxed, own, hown, staking, hstaking,
    earnings, hearnings, nextDraw, _, rfl, rfl⟩ := h
  exact ⟨rate, balance, redeemed, interest, earnings, moneyMarket, aust, staking, whole, own, taxed,
    ⟨Nat.le_of_not_lt due, hmm, haust, hstaking, hrate, hbalance, interestAccruedUst_ok hinterest,
      (wholeAust_ok.mp hredeemed).2.2, rfl, rfl, rfl⟩,
    ⟨hwhole, htaxed, hown, hearnings⟩, hinterest, hredeemed⟩

theorem tryRedeemEarning_ok {api : Api} {querier : Querier} {env : Env} {info : MessageInfo}
    {st st' : Storage} {res : Response}
    (h : tryRedeemEarning api querier env info st = .ok (st', res)) :
    ∃ rate balance redeemed interest earnings moneyMarket aust staking, Redeemed api querier env st
      st' res rate balance redeemed interest earnings moneyMarket aust staking := by
  obtain ⟨rate, balance, redeemed, interest, earnings, moneyMarket, aust, staking, _, _, _, done,
    _⟩ := tryRedeemEarning_steps h
  exact ⟨rate, balance, redeemed, interest, earnings, moneyMarket, aust, staking, done⟩

/-- The draw was due, and it moves on by one period. -/
theorem tryRedeemEarning_draw {api : Api} {querier : Querier} {env : Env} {info : MessageInfo}
    {st st' : Storage} {res : Response}
    (h : tryRedeemEarning api querier env info st = .ok (st', res)) :
    st.state.nextDraw.val ≤ env.block.seconds ∧
      st'.state.nextDraw.val = st.state.nextDraw.val + st.state.drawPeriod.val ∧
      st'.state.drawPeriod = st.state.drawPeriod := by
  simp only [tryRedeemEarning, bind_ok, rejectIf_ok, Word.add_ok, pure_ok, Prod.mk.injEq] at h
  obtain ⟨_, _, _, due, _, _, _, _, _, _, _, _, _, _, _, _, _, _, _, _, _, _, _, _, _, _, nextDraw,
    advanced, rfl, _⟩ := h
  exact ⟨Nat.le_of_not_lt due, advanced, rfl⟩

structure Paid (api : Api) (querier : Querier) (st st' : Storage) (res : Response)
    (amount redeemed : Uint128) (rate : Decimal256) (net : Coin)
    (recipient moneyMarket aust : Addr) : Prop where
  marketAddr : api.humanize st.config.moneyMarketAddress = .ok moneyMarket
  austAddr : api.humanize st.config.anchorAustAddress = .ok aust
  queriedRate : querier.epochState moneyMarket = some rate
  floor : redeemed.val = amount.val * 10 ^ 18 / rate.val
  total : st'.state.totalUstPool.val + amount.val = st.state.totalUstPool.val
  rest : st' = { st with state := { st.state with totalUstPool := st'.state.totalUstPool } }
  messages : res.messages = [⟨.execute aust (.send moneyMarket redeemed .redeemStable) [], none⟩,
    ⟨.bankSend recipient [net], none⟩]

/-- How `withdrawReply` arrives at the coin for the recipient: the amount that the
first `wasm` event reports, taxed twice. -/
structure Withdrawn (querier : Querier) (st : Storage) (events : List Event) (wasm : Event)
    (withdrawing : String) (amount : Uint128) (recipient : Addr) (taxed net : Coin) : Prop where
  event : events.find? (fun e => e.ty = "wasm") = some wasm
  withdraw : findAttribute "withdraw" wasm.attributes = some withdrawing
  parsed : Uint128.parse withdrawing = .ok amount
  payee : findAttribute "recipient" wasm.attributes = some recipient
  first : deductTax querier ⟨st.config.denom, amount⟩ = .ok taxed
  second : deductTax querier ⟨st.config.denom, taxed.amount⟩ = .ok net

theorem withdrawReply_steps {api : Api} {querier : Querier} {st st' : Storage}
    {events : List Event} {res : Response}
    (h : withdrawReply api querier st (.ok events) = .ok (st', res)) :
    ∃ wasm withdrawing amount redeemed rate taxed net recipient moneyMarket aust,
      Withdrawn querier st events wasm withdrawing amount recipient taxed net ∧
      Paid api querier st st' res amount redeemed rate net recipient moneyMarket aust := by
  simp only [withdrawReply, bind_ok, orReject_ok, Word.sub_ok, pure_ok, Prod.mk.injEq] at h
  obtain ⟨wasm, event, withdrawing, withdraw, amount, parsed, moneyMarket, hmm, rate, hrate,
    redeemed, hredeemed, aust, haust, total, htotal, taxed, first, net, second, recipient, payee,
    rfl, rfl⟩ := h
  exact ⟨wasm, withdrawing, amount, redeemed, rate, taxed, net, recipient, moneyMarket, aust,
    ⟨event, withdraw, parsed, payee, first, second⟩,
    ⟨hmm, haust, hrate, (principalToAust_ok.mp hredeemed).2.2.2, htotal, rfl, rfl⟩⟩

/-- The reply pays what the first `wasm` event says. -/
theorem withdrawReply_ok (amount : Uint128) (recipient : String) {api : Api} {querier : Querier}
    {st st' : Storage} {events : List Event} {wasm : Event} {res : Response}
    (first : events.find? (fun e => e.ty = "wasm") = some wasm)
    (withdraw : findAttribute "withdraw" wasm.attributes = some amount.toString)
    (payee : findAttribute "recipient" wasm.attributes = some recipient)
    (h : withdrawReply api querier st (.ok events) = .ok (st', res)) :
    ∃ redeemed rate net moneyMarket aust,
      Paid api querier st st' res amount redeemed rate net recipient moneyMarket aust := by
  obtain ⟨wasm', withdrawing, amount', redeemed, rate, taxed, net, recipient', moneyMarket, aust,
    read, paid⟩ := withdrawReply_steps h
  obtain rfl := Option.some.inj (first.symm.trans read.event)
  obtain rfl := Option.some.inj (withdraw.symm.trans read.withdraw)
  obtain rfl := Option.some.inj (payee.symm.trans read.payee)
  obtain rfl := Except.ok.inj ((Uint128.parse_toString amount).symm.trans read.parsed)
  exact ⟨redeemed, rate, net, moneyMarket, aust, paid⟩

/-! Deployment: the message each step emits, and the addresses the replies keep. -/

theorem instantiate_ok {api : Api} {env : Env} {info : MessageInfo} {msg : InstantiateMsg}
    {st : Storage} {res : Response} (h : instantiate api env info msg = .ok (st, res)) :
    ∃ admin market aust loterra, api.canonicalize msg.moneyMarketAddress = .ok market ∧
      api.canonicalize msg.anchorAustAddress = .ok aust ∧
      st = ⟨⟨admin, "uusd", market, aust, msg.codeIdStaking, msg.labelStaking, msg.unbondingPeriod,
        loterra⟩, ⟨admin, admin, msg.drawPeriod, msg.nextDraw, 0⟩⟩ ∧
      res.messages = [⟨.instantiate (some env.contract) msg.codeIdCw20 msg.messageCw20 []
        msg.labelCw20, some 0⟩] := by
  simp only [instantiate, bind_ok, pure_ok, Prod.mk.injEq] at h
  obtain ⟨admin, _, market, hmarket, aust, haust, loterra, _, rfl, rfl⟩ := h
  exact ⟨admin, market, aust, loterra, hmarket, haust, rfl, rfl⟩

theorem cw20InstanceReply_ok {api : Api} {env : Env} {st st' : Storage} {events : List Event}
    {contract : Addr} {res : Response}
    (found : findInEvents "instantiate_contract" "contract_address" events = some contract)
    (h : cw20InstanceReply api env st (.ok events) = .ok (st', res)) :
    ∃ cw20 loterra, api.canonicalize contract = .ok cw20 ∧
      st' = { st with state := { st.state with cw20Address := cw20 } } ∧
      res.messages = [⟨.instantiate (some env.contract) st.config.codeIdStaking
        (.staking ⟨contract, loterra, st.config.denom, st.config.unbondingPeriod⟩) []
        st.config.labelStaking, some 1⟩] := by
  simp only [cw20InstanceReply, found, orReject, ok_bind, bind_ok, pure_ok, Prod.mk.injEq] at h
  obtain ⟨cw20, hcw20, loterra, _, rfl, rfl⟩ := h
  exact ⟨cw20, loterra, hcw20, rfl, rfl⟩

theorem stakingInstanceReply_ok {api : Api} {st st' : Storage} {events : List Event}
    {contract : Addr} {res : Response}
    (found : findInEvents "instantiate_contract" "contract_address" events = some contract)
    (h : stakingInstanceReply api st (.ok events) = .ok (st', res)) :
    ∃ staking, api.canonicalize contract = .ok staking ∧
      st' = { st with state := { st.state with stakingAddress := staking } } := by
  simp only [stakingInstanceReply, found, orReject, ok_bind, bind_ok, pure_ok, Prod.mk.injEq] at h
  obtain ⟨staking, hstaking, rfl, _⟩ := h
  exact ⟨staking, hstaking, rfl⟩

end DogetherContracts.Pool
