import DogetherContracts.Staking.Contract

/-! # What a successful call did

One structure per handler: the checks that passed and everything that was
written. Later proofs about runs go through these and never unfold a handler. -/
namespace DogetherContracts.Staking
open Checked

/-- `st'` is `st` with the holder at `a` settled and then replaced by `h`. -/
structure Settled (st : Storage) (a : CanonicalAddr) (h : Holder) (st' : Storage) : Prop where
  holders : st'.holders = st.holders.insert a h
  index : h.index = st.state.globalIndex
  behind : (st.readHolder a).index.val ≤ st.state.globalIndex.val
  globalIndex : st'.state.globalIndex = st.state.globalIndex
  config : st'.config = st.config

structure Updated (api : Api) (querier : Querier) (env : Env) (info : MessageInfo)
    (st st' : Storage) (claimed : ℕ) : Prop where
  admin : api.canonicalize info.sender = .ok st.config.admin
  staked : 0 < st.state.totalBalance.val
  balance : querier.balance env.contract st.config.rewardDenom = some st'.state.prevRewardBalance
  prev : st'.state.prevRewardBalance.val = st.state.prevRewardBalance.val + claimed
  globalIndex : st'.state.globalIndex.val = st.state.globalIndex.val +
    LazyIndex.perWeight (10 ^ 18) claimed st.state.totalBalance.val
  total : st'.state.totalBalance = st.state.totalBalance
  config : st'.config = st.config
  holders : st'.holders = st.holders
  claims : st'.claims = st.claims
  combinations : st'.combinations = st.combinations

structure Bonded (api : Api) (info : MessageInfo) (st st' : Storage) (wrapper : Cw20.Cw20ReceiveMsg)
    (a : CanonicalAddr) (h : Holder) : Prop where
  cw20 : api.humanize st.config.cw20TokenAddr = .ok info.sender
  funds : info.funds = []
  msg : wrapper.msg = .bondStake
  sender : api.canonicalize wrapper.sender = .ok a
  positive : 0 < wrapper.amount.val
  settled : Settled st a h st'
  pending : h.pendingRewards.val = st.owed a
  balance : h.balance.val = (st.readHolder a).balance.val + wrapper.amount.val
  total : st'.state.totalBalance.val = st.state.totalBalance.val + wrapper.amount.val
  prev : st'.state.prevRewardBalance = st.state.prevRewardBalance
  claims : st'.claims = st.claims
  combinations : st'.combinations = st.combinations

structure Unbonded (api : Api) (env : Env) (info : MessageInfo) (st st' : Storage)
    (amount : Uint128) (address : String) (a : CanonicalAddr) (h : Holder) (release : Uint64) :
    Prop where
  admin : api.canonicalize info.sender = .ok st.config.admin
  funds : info.funds = []
  holder : api.canonicalize address = .ok a
  positive : 0 < amount.val
  settled : Settled st a h st'
  pending : h.pendingRewards.val = st.owed a
  balance : h.balance.val + amount.val = (st.readHolder a).balance.val
  total : st'.state.totalBalance.val + amount.val = st.state.totalBalance.val
  prev : st'.state.prevRewardBalance = st.state.prevRewardBalance
  matures : release.val = env.block.height.val + st.config.unbondingPeriod.val
  claims : st'.claims = createClaim st.claims a amount (.atHeight release)
  combinations : st'.combinations = st.combinations

structure Withdrawn (api : Api) (env : Env) (info : MessageInfo) (st st' : Storage)
    (cap : Option Uint128) (address : String) (a : CanonicalAddr) (amount : Uint128)
    (waiting : List Claim) (token : Addr) : Prop where
  admin : api.canonicalize info.sender = .ok st.config.admin
  holder : api.canonicalize address = .ok a
  cw20 : api.humanize st.config.cw20TokenAddr = .ok token
  partition : partitionClaims env.block cap 0 (st.readClaims a) = .ok (amount, waiting)
  positive : 0 < amount.val
  rest : st' = { st with claims := st.claims.insert a waiting }

structure Bought (api : Api) (querier : Querier) (st st' : Storage) (recipient : String)
    (combination : List String) (quote : Quote) (h : Holder) (loterra : Addr) : Prop where
  quoted : quoteTickets api querier st recipient combination = .ok quote
  lottery : api.humanize st.config.loterraAddr = .ok loterra
  saved : saveCombinations quote.price.lottery.lotteryCounter quote.addrRaw st.combinations
    combination = .ok st'.combinations
  valid : api.validate recipient = .ok recipient
  settled : Settled st quote.addrRaw h st'
  rewards : quote.rewards.val = st.owed quote.addrRaw / 10 ^ 18
  enough : quote.price.totalTicketWithFees.val ≤ quote.rewards.val
  pending : h.pendingRewards.val =
    (quote.rewards.val - quote.price.totalTicketWithFees.val) * 10 ^ 18
  balance : h.balance = (st.readHolder quote.addrRaw).balance
  total : st'.state.totalBalance = st.state.totalBalance
  prev : st'.state.prevRewardBalance.val + quote.price.totalTicketWithFees.val =
    st.state.prevRewardBalance.val
  claims : st'.claims = st.claims

theorem handleUpdateGlobalIndex_ok {api : Api} {querier : Querier} {env : Env} {info : MessageInfo}
    {st st' : Storage} {res : Response}
    (h : handleUpdateGlobalIndex api querier env info st = .ok (st', res)) :
    (∃ claimed, Updated api querier env info st st' claimed) ∧ res.messages = [] := by
  simp only [handleUpdateGlobalIndex, bind_ok, rejectIf_ok, orReject_ok, Word.sub_ok,
    Decimal.fromRatio_ok, decimalSummationIn256_ok, pure_ok, Prod.mk.injEq, not_not] at h
  obtain ⟨sender, hsender, _, admin, _, staked, balance, hbalance, claimed, hclaimed, per,
    ⟨_, hper⟩, index, hindex, rfl, rfl⟩ := h
  refine ⟨⟨claimed.val, ?_⟩, rfl⟩
  exact {
    admin := by rw [admin, hsender]
    staked := Nat.pos_of_ne_zero staked
    balance := hbalance
    prev := by simp only; omega
    globalIndex := by rw [hindex, hper]; rfl
    total := rfl, config := rfl, holders := rfl, claims := rfl, combinations := rfl }

theorem handleReceive_ok {api : Api} {info : MessageInfo} {st st' : Storage}
    {wrapper : Cw20.Cw20ReceiveMsg} {res : Response}
    (h : handleReceive api info st wrapper = .ok (st', res)) :
    (∃ a holder, Bonded api info st st' wrapper a holder) ∧ res.messages = [] := by
  simp only [handleReceive, bind_ok, rejectIf_ok, not_not] at h
  obtain ⟨token, htoken, _, sender, parsed, hparsed, h⟩ := h
  have msg : wrapper.msg = .bondStake := by
    cases hmsg : wrapper.msg <;> simp [hmsg, ReceiveMsg.fromBinary] at hparsed ⊢
  cases parsed
  simp only [handleBond, bind_ok, rejectIf_ok, settledRewards_ok, Word.add_ok, pure_ok,
    Prod.mk.injEq, not_not] at h
  obtain ⟨_, funds, _, positive, a, ha, pending, ⟨behind, _, hpending⟩, balance, hbalance, total,
    htotal, rfl, rfl⟩ := h
  refine ⟨⟨a, ⟨balance, st.state.globalIndex, pending⟩, ?_⟩, rfl⟩
  exact {
    cw20 := by rw [sender, htoken]
    funds := funds
    msg := msg
    sender := ha
    positive := Nat.pos_of_ne_zero positive
    settled := ⟨rfl, rfl, behind, rfl, rfl⟩
    pending := hpending
    balance := hbalance
    total := htotal
    prev := rfl, claims := rfl, combinations := rfl }

theorem handleUnbound_ok {api : Api} {env : Env} {info : MessageInfo} {st st' : Storage}
    {amount : Uint128} {address : String} {res : Response}
    (h : handleUnbound api env info st amount address = .ok (st', res)) :
    (∃ a holder release, Unbonded api env info st st' amount address a holder release) ∧
      res.messages = [] := by
  simp only [handleUnbound, bind_ok, rejectIf_ok, settledRewards_ok, Word.add_ok, Word.sub_ok,
    pure_ok, Prod.mk.injEq, not_not] at h
  obtain ⟨sender, hsender, _, admin, a, ha, _, funds, _, positive, _, _, pending,
    ⟨behind, _, hpending⟩, balance, hbalance, total, htotal, release, hrelease, rfl, rfl⟩ := h
  refine ⟨⟨a, ⟨balance, st.state.globalIndex, pending⟩, release, ?_⟩, rfl⟩
  exact {
    admin := by rw [admin, hsender]
    funds := funds
    holder := ha
    positive := Nat.pos_of_ne_zero positive
    settled := ⟨rfl, rfl, behind, rfl, rfl⟩
    pending := hpending
    balance := hbalance
    total := htotal
    prev := rfl
    matures := hrelease
    claims := rfl, combinations := rfl }

theorem handleWithdrawStake_ok {api : Api} {env : Env} {info : MessageInfo} {st st' : Storage}
    {cap : Option Uint128} {address : String} {res : Response}
    (h : handleWithdrawStake api env info st cap address = .ok (st', res)) :
    ∃ a amount waiting token, Withdrawn api env info st st' cap address a amount waiting token ∧
      res = ⟨[⟨.execute token (.cw20 (.burn amount)) [], none⟩],
        [⟨"action", "withdraw_stake"⟩, ⟨"recipient", address⟩, ⟨"withdraw", amount.toString⟩]⟩ := by
  simp only [handleWithdrawStake, claimTokens, bind_ok, rejectIf_ok, pure_ok, Prod.mk.injEq,
    Prod.exists, not_not] at h
  obtain ⟨sender, hsender, _, admin, a, ha, claims, amount, ⟨total, waiting, split, rfl, rfl⟩, _,
    positive, token, htoken, rfl, rfl⟩ := h
  refine ⟨a, total, waiting, token, ?_, rfl⟩
  exact {
    admin := by rw [admin, hsender]
    holder := ha
    cw20 := htoken
    partition := split
    positive := Nat.pos_of_ne_zero positive
    rest := rfl }

/-- The facts a quote rests on. -/
theorem quoteTickets_ok {api : Api} {querier : Querier} {st : Storage} {recipient : String}
    {combination : List String} {quote : Quote}
    (h : quoteTickets api querier st recipient combination = .ok quote) :
    api.canonicalize recipient = .ok quote.addrRaw ∧
      (st.readHolder quote.addrRaw).index.val ≤ st.state.globalIndex.val ∧
      quote.rewards.val = st.owed quote.addrRaw / 10 ^ 18 ∧
      priceTickets api querier st.config combination = .ok quote.price ∧
      quote.price.totalTicketWithFees.val ≤ quote.rewards.val := by
  simp only [quoteTickets, bind_ok, rejectIf_ok, settledRewards_ok, Decimal.mulUint_ok,
    pure_ok] at h
  obtain ⟨_, _, a, ha, decimals, ⟨behind, _, hdecimals⟩, rewards, hrewards, _, _, price, hprice,
    _, enough, rfl⟩ := h
  rw [Uint128.val_one, Nat.one_mul, hdecimals] at hrewards
  exact ⟨ha, behind, hrewards, hprice, Nat.le_of_not_lt enough⟩

theorem handleGetTicket_ok {api : Api} {querier : Querier} {st st' : Storage} {recipient : String}
    {combination : List String} {res : Response}
    (h : handleGetTicket api querier st recipient combination = .ok (st', res)) :
    ∃ quote holder loterra,
      Bought api querier st st' recipient combination quote holder loterra ∧
      res.messages = [⟨.execute loterra (.register (some recipient) none combination)
        [⟨st.config.rewardDenom, quote.price.totalTicketCost⟩], none⟩] := by
  simp only [handleGetTicket, bind_ok, Word.sub_ok, Decimal.fromRatio_ok, pure_ok,
    Prod.mk.injEq] at h
  obtain ⟨quote, quoted, combinations, saved, prev, hprev, left, hleft, pending, ⟨_, hpending⟩,
    address, valid, loterra, hloterra, rfl, rfl⟩ := h
  obtain rfl := Api.validate_ok valid
  obtain ⟨_, behind, rewards, _, enough⟩ := quoteTickets_ok quoted
  refine ⟨quote, ⟨(st.readHolder quote.addrRaw).balance, st.state.globalIndex, pending⟩, loterra,
    ?_, rfl⟩
  exact {
    quoted := quoted
    lottery := hloterra
    saved := saved
    valid := valid
    settled := ⟨rfl, rfl, behind, rfl, rfl⟩
    rewards := rewards
    enough := enough
    pending := by rw [hpending, Uint128.val_one, Nat.div_one, ← hleft, Nat.add_sub_cancel]
    balance := rfl
    total := rfl
    prev := hprev
    claims := rfl }

/-- Everything a call that goes through can have done. -/
inductive Effect (api : Api) (querier : Querier) (env : Env) (info : MessageInfo)
    (st st' : Storage) : ExecuteMsg → Prop
  | updated {claimed : ℕ} (done : Updated api querier env info st st' claimed) :
      Effect api querier env info st st' .updateGlobalIndex
  | bonded {wrapper : Cw20.Cw20ReceiveMsg} {a : CanonicalAddr} {h : Holder}
      (done : Bonded api info st st' wrapper a h) :
      Effect api querier env info st st' (.receive wrapper)
  | unbonded {amount : Uint128} {address : String} {a : CanonicalAddr} {h : Holder}
      {release : Uint64} (done : Unbonded api env info st st' amount address a h release) :
      Effect api querier env info st st' (.unbondStake amount address)
  | withdrawn {cap : Option Uint128} {address : String} {a : CanonicalAddr} {amount : Uint128}
      {waiting : List Claim} {token : Addr}
      (done : Withdrawn api env info st st' cap address a amount waiting token) :
      Effect api querier env info st st' (.withdrawStake cap address)
  | bought {recipient : String} {combination : List String} {quote : Quote} {h : Holder}
      {loterra : Addr} (done : Bought api querier st st' recipient combination quote h loterra) :
      Effect api querier env info st st' (.getTicket recipient combination)

theorem execute_effect {api : Api} {querier : Querier} {env : Env} {info : MessageInfo}
    {msg : ExecuteMsg} {st st' : Storage} {res : Response}
    (h : execute api st ⟨querier, env, info, msg⟩ = .ok (st', res)) :
    Effect api querier env info st st' msg := by
  cases msg with
  | updateGlobalIndex =>
      obtain ⟨⟨_, done⟩, _⟩ := handleUpdateGlobalIndex_ok h
      exact .updated done
  | unbondStake amount address =>
      obtain ⟨⟨_, _, _, done⟩, _⟩ := handleUnbound_ok h
      exact .unbonded done
  | withdrawStake cap address =>
      obtain ⟨_, _, _, _, done, _⟩ := handleWithdrawStake_ok h
      exact .withdrawn done
  | receive wrapper =>
      obtain ⟨⟨_, _, done⟩, _⟩ := handleReceive_ok h
      exact .bonded done
  | getTicket recipient combination =>
      obtain ⟨_, _, _, done, _⟩ := handleGetTicket_ok h
      exact .bought done

end DogetherContracts.Staking
