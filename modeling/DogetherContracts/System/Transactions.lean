import DogetherContracts.System.Calls

/-! # The five transactions

In a deployed system only five kinds of transaction go through: the four of
dogether, and ticket purchases. For each of them: what every contract did, and the
exact list of executed messages. -/
namespace DogetherContracts.System
open Checked

variable {χ : Type} {api : Api} {out : Outside χ} {dep : Deployment api}

/-- The three contracts know each other, and only staking holds tokens. -/
structure Wired (dep : Deployment api) (w : World χ) : Prop where
  stakingAddress : w.pool.state.stakingAddress = dep.staking.raw
  cw20Address : w.pool.state.cw20Address = dep.cw20.raw
  minter : w.cw20.tokenInfo.mint.map (·.minter) = some dep.pool.addr
  admin : w.staking.config.admin = dep.pool.raw
  token : w.staking.config.cw20TokenAddr = dep.cw20.raw
  holder : ∀ a, a ≠ dep.staking.addr → (w.cw20.balanceOf a).val = 0

/-! The internal calls. -/

section Internal

variable {gas : ℕ} {w w' : World χ} {r : Receipt} {sender : Addr} {funds : List Coin}

theorem call_receive {wrapper : Cw20.Cw20ReceiveMsg}
    (h : runCall out dep gas
      (.message sender (.execute dep.staking.addr (.staking (.receive wrapper)) funds)) w =
        .ok (w', r)) :
    ∃ x staking a holder, Staking.Bonded api ⟨sender, funds⟩ w.staking staking wrapper a holder ∧
      w' = { w with staking, outside := x } ∧
      r.executed = [(sender, .execute dep.staking.addr (.staking (.receive wrapper)) funds)] := by
  obtain ⟨_, x, m, staking, res, rest, same, _, executed, messages, rfl⟩ := call_staking h
  cases same
  obtain ⟨⟨a, holder, done⟩, none_sent⟩ := Staking.handleReceive_ok executed
  rw [none_sent] at messages
  obtain ⟨rfl, rfl⟩ := runMessages_nil messages
  exact ⟨x, staking, a, holder, done, rfl, rfl⟩

theorem call_unbond {amount : Uint128} {address : String}
    (h : runCall out dep gas (.message sender
      (.execute dep.staking.addr (.staking (.unbondStake amount address)) funds)) w =
        .ok (w', r)) :
    ∃ x staking a holder release, Staking.Unbonded api ⟨w.block, dep.staking.addr⟩ ⟨sender, funds⟩
        w.staking staking amount address a holder release ∧
      w' = { w with staking, outside := x } ∧ r.executed =
        [(sender, .execute dep.staking.addr (.staking (.unbondStake amount address)) funds)] := by
  obtain ⟨_, x, m, staking, res, rest, same, _, executed, messages, rfl⟩ := call_staking h
  cases same
  obtain ⟨⟨a, holder, release, done⟩, none_sent⟩ := Staking.handleUnbound_ok executed
  rw [none_sent] at messages
  obtain ⟨rfl, rfl⟩ := runMessages_nil messages
  exact ⟨x, staking, a, holder, release, done, rfl, rfl⟩

theorem call_update
    (h : runCall out dep gas
      (.message sender (.execute dep.staking.addr (.staking .updateGlobalIndex) funds)) w =
        .ok (w', r)) :
    ∃ x staking claimed, Staking.Updated api (out.querier x) ⟨w.block, dep.staking.addr⟩
        ⟨sender, funds⟩ w.staking staking claimed ∧
      w' = { w with staking, outside := x } ∧
      r.executed = [(sender, .execute dep.staking.addr (.staking .updateGlobalIndex) funds)] := by
  obtain ⟨_, x, m, staking, res, rest, same, _, executed, messages, rfl⟩ := call_staking h
  cases same
  obtain ⟨⟨claimed, done⟩, none_sent⟩ := Staking.handleUpdateGlobalIndex_ok executed
  rw [none_sent] at messages
  obtain ⟨rfl, rfl⟩ := runMessages_nil messages
  exact ⟨x, staking, claimed, done, rfl, rfl⟩

theorem call_burn {amount : Uint128}
    (h : runCall out dep gas
      (.message sender (.execute dep.cw20.addr (.cw20 (.burn amount)) funds)) w = .ok (w', r)) :
    ∃ x cw20 res, Cw20.Burned ⟨sender, funds⟩ w.cw20 amount cw20 res ∧
      w' = { w with cw20, outside := x } ∧
      r.executed = [(sender, .execute dep.cw20.addr (.cw20 (.burn amount)) funds)] := by
  obtain ⟨_, x, m, cw20, res, rest, same, _, executed, messages, hr⟩ := call_cw20 h
  cases same
  have done := Cw20.executeBurn_ok executed
  rw [done.message] at messages
  obtain ⟨rfl, rfl⟩ := runMessages_nil messages
  exact ⟨x, cw20, res, done, rfl, hr⟩

theorem call_bond {staking : Account api} {amount : Uint128} {recipient : Addr}
    (own : staking.addr = dep.staking.addr)
    (h : runCall out dep gas (.message sender (.execute dep.cw20.addr
      (.cw20 (.bond staking.addr amount .bondStake recipient)) funds)) w = .ok (w', r)) :
    ∃ x cw20 staking a holder res,
      Cw20.Bonded ⟨sender, funds⟩ w.cw20 dep.staking.addr amount .bondStake recipient cw20 res ∧
      Staking.Bonded api ⟨dep.cw20.addr, []⟩ w.staking staking ⟨recipient, amount, .bondStake⟩ a
        holder ∧
      w' = { w with cw20, staking, outside := x } ∧
      r.executed = [(sender, .execute dep.cw20.addr
          (.cw20 (.bond dep.staking.addr amount .bondStake recipient)) funds),
        (dep.cw20.addr, .execute dep.staking.addr
          (.staking (.receive ⟨recipient, amount, .bondStake⟩)) [])] := by
  rw [own] at h
  obtain ⟨_, x, m, cw20, res, rest, same, _, executed, messages, hr⟩ := call_cw20 h
  cases same
  have bonded := Cw20.executeBond_ok executed
  rw [bonded.message] at messages
  obtain ⟨w₁, first, last, received, ended, hlist⟩ := runMessages_cons messages
  obtain ⟨rfl, rfl⟩ := runMessages_nil ended
  obtain ⟨x', staking, a, holder, done, rfl, hfirst⟩ := call_receive received
  refine ⟨x', cw20, staking, a, holder, res, bonded, done, rfl, ?_⟩
  rw [hr, hlist, hfirst]
  rfl

/-- A withdrawal burns what it releases, and says so in its first event. -/
theorem call_withdraw {address : String}
    (h : runCall out dep gas (.message sender (.execute dep.staking.addr
      (.staking (.withdrawStake none address)) funds)) w = .ok (w', r))
    (token : w.staking.config.cw20TokenAddr = dep.cw20.raw) :
    ∃ x cw20 staking a amount waiting res,
      Staking.Withdrawn api ⟨w.block, dep.staking.addr⟩ ⟨sender, funds⟩ w.staking staking none
        address a amount waiting dep.cw20.addr ∧
      Cw20.Burned ⟨dep.staking.addr, []⟩ w.cw20 amount cw20 res ∧
      w' = { w with cw20, staking, outside := x } ∧
      r.executed = [(sender, .execute dep.staking.addr
          (.staking (.withdrawStake none address)) funds),
        (dep.staking.addr, .execute dep.cw20.addr (.cw20 (.burn amount)) [])] ∧
      r.events.find? (fun e => e.ty = "wasm") = some ⟨"wasm",
        [⟨"contract_address", dep.staking.addr⟩, ⟨"action", "withdraw_stake"⟩,
          ⟨"recipient", address⟩, ⟨"withdraw", amount.toString⟩]⟩ := by
  obtain ⟨_, x, m, staking, res, rest, same, _, executed, messages, rfl⟩ := call_staking h
  cases same
  obtain ⟨a, amount, waiting, target, done, rfl⟩ := Staking.handleWithdrawStake_ok executed
  obtain rfl : target = dep.cw20.addr := Account.humanize_ok (token ▸ done.cw20)
  obtain ⟨w₁, first, last, burned, ended, hlist⟩ := runMessages_cons messages
  obtain ⟨rfl, rfl⟩ := runMessages_nil ended
  obtain ⟨x', cw20, res, burn, rfl, hfirst⟩ := call_burn burned
  refine ⟨x', cw20, staking, a, amount, waiting, res, done, burn, rfl, ?_, ?_⟩
  · simp only [hlist, hfirst]
    rfl
  · rfl

end Internal

/-! The transactions. -/

inductive TxEffect (out : Outside χ) (dep : Deployment api) (w : World χ) (tx : Tx api)
    (w' : World χ) (executed : List (Addr × CosmosMsg)) : Prop
  | pooled {x : χ} {res : Response} {res' : Response} {sent : Uint128} {net : Coin}
      {moneyMarket : Addr} {h : Staking.Holder}
      (msg : tx.msg = .pool .pool)
      (pool : Pool.Pooled api (out.querier x) ⟨tx.sender.addr, tx.funds⟩ w.pool w'.pool res sent net
        moneyMarket dep.staking.addr dep.cw20.addr)
      (cw20 : Cw20.Bonded ⟨dep.pool.addr, []⟩ w.cw20 dep.staking.addr net.amount .bondStake
        tx.sender.addr w'.cw20 res')
      (staking : Staking.Bonded api ⟨dep.cw20.addr, []⟩ w.staking w'.staking
        ⟨tx.sender.addr, net.amount, .bondStake⟩ tx.sender.raw h)
      (block : w'.block = w.block)
      (list : executed = [(tx.sender.addr, .execute dep.pool.addr (.pool .pool) tx.funds),
        (dep.pool.addr, .execute moneyMarket .depositStable [net]),
        (dep.pool.addr, .execute dep.cw20.addr
          (.cw20 (.bond dep.staking.addr net.amount .bondStake tx.sender.addr)) []),
        (dep.cw20.addr, .execute dep.staking.addr
          (.staking (.receive ⟨tx.sender.addr, net.amount, .bondStake⟩)) [])])
  | unPooled {amount : Uint128} {h : Staking.Holder} {release : Uint64}
      (msg : tx.msg = .pool (.unPool amount))
      (pool : w'.pool = w.pool) (cw20 : w'.cw20 = w.cw20)
      (staking : Staking.Unbonded api ⟨w.block, dep.staking.addr⟩ ⟨dep.pool.addr, []⟩ w.staking
        w'.staking amount tx.sender.addr tx.sender.raw h release)
      (block : w'.block = w.block)
      (list : executed =
        [(tx.sender.addr, .execute dep.pool.addr (.pool (.unPool amount)) tx.funds),
        (dep.pool.addr, .execute dep.staking.addr
          (.staking (.unbondStake amount tx.sender.addr)) [])])
  | claimed {x : χ} {amount redeemed : Uint128} {waiting : List Staking.Claim} {res res' : Response}
      {rate : Decimal256} {net : Coin} {moneyMarket aust : Addr}
      (msg : tx.msg = .pool .claimUnPool)
      (staking : Staking.Withdrawn api ⟨w.block, dep.staking.addr⟩ ⟨dep.pool.addr, []⟩ w.staking
        w'.staking none tx.sender.addr tx.sender.raw amount waiting dep.cw20.addr)
      (cw20 : Cw20.Burned ⟨dep.staking.addr, []⟩ w.cw20 amount w'.cw20 res)
      (pool : Pool.Paid api (out.querier x) w.pool w'.pool res' amount redeemed rate net
        tx.sender.addr moneyMarket aust)
      (before : List.foldlM (outsideStep out dep) w.outside
        [(tx.sender.addr, .execute dep.pool.addr (.pool .claimUnPool) tx.funds),
        (dep.pool.addr, .execute dep.staking.addr
          (.staking (.withdrawStake none tx.sender.addr)) []),
        (dep.staking.addr, .execute dep.cw20.addr (.cw20 (.burn amount)) [])] = .ok x)
      (block : w'.block = w.block)
      (list : executed =
        [(tx.sender.addr, .execute dep.pool.addr (.pool .claimUnPool) tx.funds),
        (dep.pool.addr, .execute dep.staking.addr
          (.staking (.withdrawStake none tx.sender.addr)) []),
        (dep.staking.addr, .execute dep.cw20.addr (.cw20 (.burn amount)) []),
        (dep.pool.addr, .execute aust (.send moneyMarket redeemed .redeemStable) []),
        (dep.pool.addr, .bankSend tx.sender.addr [net])])
  | redeemed {x x' : χ} {res : Response} {rate : Decimal256} {balance redeemed : Uint128}
      {interest : Decimal} {earnings : Coin} {moneyMarket aust : Addr} {claimed : ℕ}
      (msg : tx.msg = .pool .redeemEarning)
      (pool : Pool.Redeemed api (out.querier x) ⟨w.block, dep.pool.addr⟩ w.pool w'.pool res rate
        balance redeemed interest earnings moneyMarket aust dep.staking.addr)
      (cw20 : w'.cw20 = w.cw20)
      (staking : Staking.Updated api (out.querier x') ⟨w.block, dep.staking.addr⟩
        ⟨dep.pool.addr, [earnings]⟩ w.staking w'.staking claimed)
      (before : out.transfer tx.sender.addr dep.pool.addr tx.funds w.outside = .ok x)
      (block : w'.block = w.block)
      (list : executed =
        [(tx.sender.addr, .execute dep.pool.addr (.pool .redeemEarning) tx.funds),
        (dep.pool.addr, .execute aust (.send moneyMarket redeemed .redeemStable) []),
        (dep.pool.addr, .execute dep.staking.addr (.staking .updateGlobalIndex) [earnings])])
  | bought {x : χ} {recipient : String} {combination : List String} {quote : Staking.Quote}
      {h : Staking.Holder} {loterra : Addr}
      (msg : tx.msg = .staking (.getTicket recipient combination))
      (pool : w'.pool = w.pool) (cw20 : w'.cw20 = w.cw20)
      (staking : Staking.Bought api (out.querier x) w.staking w'.staking recipient combination quote
        h loterra)
      (block : w'.block = w.block)
      (list : executed = [(tx.sender.addr, .execute dep.staking.addr
          (.staking (.getTicket recipient combination)) tx.funds),
        (dep.staking.addr, .execute loterra (.register (some recipient) none combination)
          [⟨w.staking.config.rewardDenom, quote.price.totalTicketCost⟩])])

section Inversion

variable {w w' : World χ} {tx : Tx api} {r : Receipt} {gas : ℕ}

theorem pool_effect (wired : Wired dep w) (msg : tx.msg = .pool .pool)
    (h : runCall out dep gas (.message tx.sender.addr
      (.execute dep.pool.addr (.pool .pool) tx.funds)) w = .ok (w', r)) :
    TxEffect out dep w tx w' r.executed := by
  obtain ⟨_, x, m, pool, res, rest, same, _, executed, messages, hr⟩ := call_pool h
  cases same
  obtain ⟨sent, net, moneyMarket, staking, cw20, done⟩ := Pool.tryPool_ok executed
  obtain rfl : staking = dep.staking.addr :=
    Account.humanize_ok (wired.stakingAddress ▸ done.stakingAddr)
  obtain rfl : cw20 = dep.cw20.addr := Account.humanize_ok (wired.cw20Address ▸ done.cw20Addr)
  rw [done.messages] at messages
  obtain ⟨w₁, first, rest₁, deposit, messages, hlist⟩ := runMessages_cons messages
  obtain ⟨⟨x₁, rfl⟩, hfirst⟩ := call_foreign rfl deposit
  obtain ⟨w₂, second, rest₂, bond, ended, hlist₂⟩ := runMessages_cons messages
  obtain ⟨rfl, rfl⟩ := runMessages_nil ended
  obtain ⟨x₂, cw20, staking, a, holder, res', minted, bonded, rfl, hsecond⟩ := call_bond rfl bond
  obtain rfl : a = tx.sender.raw := Account.canonicalize_ok bonded.sender
  refine .pooled msg done minted bonded rfl ?_
  rw [hr, hlist, hlist₂, hfirst, hsecond]
  rfl

theorem unPool_effect (wired : Wired dep w) {amount : Uint128}
    (msg : tx.msg = .pool (.unPool amount))
    (h : runCall out dep gas (.message tx.sender.addr
      (.execute dep.pool.addr (.pool (.unPool amount)) tx.funds)) w = .ok (w', r)) :
    TxEffect out dep w tx w' r.executed := by
  obtain ⟨_, x, m, pool, res, rest, same, _, executed, messages, hr⟩ := call_pool h
  cases same
  obtain ⟨staking, human, rfl, sent⟩ := Pool.tryUnPool_ok executed
  obtain rfl : staking = dep.staking.addr := Account.humanize_ok (wired.stakingAddress ▸ human)
  rw [sent] at messages
  obtain ⟨w₁, first, rest₁, unbond, ended, hlist⟩ := runMessages_cons messages
  obtain ⟨rfl, rfl⟩ := runMessages_nil ended
  obtain ⟨x₁, staking, a, holder, release, done, rfl, hfirst⟩ := call_unbond unbond
  obtain rfl : a = tx.sender.raw := Account.canonicalize_ok done.holder
  refine .unPooled msg rfl rfl done rfl ?_
  rw [hr, hlist, hfirst]
  rfl

theorem claimUnPool_effect (wired : Wired dep w) (msg : tx.msg = .pool .claimUnPool)
    (h : runCall out dep gas (.message tx.sender.addr
      (.execute dep.pool.addr (.pool .claimUnPool) tx.funds)) w = .ok (w', r)) :
    TxEffect out dep w tx w' r.executed := by
  obtain ⟨_, x, m, pool, res, rest, same, moved, executed, messages, hr⟩ := call_pool h
  cases same
  obtain ⟨staking, human, rfl, sent⟩ := Pool.tryClaimUnPool_ok executed
  obtain rfl : staking = dep.staking.addr := Account.humanize_ok (wired.stakingAddress ▸ human)
  rw [sent] at messages
  obtain ⟨w₁, first, replied, withdraw, reply, hlist⟩ := runMessages_reply messages
  have outside := runCall_outside withdraw
  obtain ⟨x₁, cw20, staking, a, amount, waiting, res₁, done, burned, rfl, hfirst, event⟩ :=
    call_withdraw withdraw wired.token
  obtain rfl : a = tx.sender.raw := Account.canonicalize_ok done.holder
  obtain ⟨_, pool', res₂, rest₂, answered, messages₂, hreplied⟩ := call_reply reply
  obtain ⟨redeemed, rate, net, moneyMarket, aust, paid⟩ :=
    Pool.withdrawReply_ok amount tx.sender.addr event rfl rfl answered
  rw [paid.messages] at messages₂
  obtain ⟨w₂, third, rest₃, redeem, messages₃, hlist₂⟩ := runMessages_cons messages₂
  obtain ⟨⟨x₂, rfl⟩, hthird⟩ := call_foreign rfl redeem
  obtain ⟨w₃, fourth, rest₄, payout, ended, hlist₃⟩ := runMessages_cons messages₃
  obtain ⟨rfl, rfl⟩ := runMessages_nil ended
  obtain ⟨⟨x₃, rfl⟩, hfourth⟩ := call_bank payout
  refine .claimed msg done burned paid ?_ rfl ?_
  · rw [hfirst] at outside
    rw [List.foldlM_cons]
    simp only [outsideStep, moved, ok_bind, if_pos (show ours dep dep.pool.addr from .inl rfl)]
    exact outside
  · rw [hr, hlist, hfirst, hreplied, hlist₂, hlist₃, hthird, hfourth]
    rfl

theorem redeemEarning_effect (wired : Wired dep w) (msg : tx.msg = .pool .redeemEarning)
    (h : runCall out dep gas (.message tx.sender.addr
      (.execute dep.pool.addr (.pool .redeemEarning) tx.funds)) w = .ok (w', r)) :
    TxEffect out dep w tx w' r.executed := by
  obtain ⟨_, x, m, pool, res, rest, same, moved, executed, messages, hr⟩ := call_pool h
  cases same
  obtain ⟨rate, balance, redeemed, interest, earnings, moneyMarket, aust, staking, done⟩ :=
    Pool.tryRedeemEarning_ok executed
  obtain rfl : staking = dep.staking.addr :=
    Account.humanize_ok (wired.stakingAddress ▸ done.stakingAddr)
  rw [done.messages] at messages
  obtain ⟨w₁, first, rest₁, redeem, messages, hlist⟩ := runMessages_cons messages
  obtain ⟨⟨x₁, rfl⟩, hfirst⟩ := call_foreign rfl redeem
  obtain ⟨w₂, second, rest₂, update, ended, hlist₂⟩ := runMessages_cons messages
  obtain ⟨rfl, rfl⟩ := runMessages_nil ended
  obtain ⟨x₂, staking, claimed, updated, rfl, hsecond⟩ := call_update update
  refine .redeemed msg done rfl updated moved rfl ?_
  rw [hr, hlist, hlist₂, hfirst, hsecond]
  rfl

theorem getTicket_effect {recipient : String} {combination : List String}
    (msg : tx.msg = .staking (.getTicket recipient combination))
    (h : runCall out dep gas (.message tx.sender.addr (.execute dep.staking.addr
      (.staking (.getTicket recipient combination)) tx.funds)) w = .ok (w', r)) :
    TxEffect out dep w tx w' r.executed := by
  obtain ⟨_, x, m, staking, res, rest, same, _, executed, messages, rfl⟩ := call_staking h
  cases same
  obtain ⟨quote, holder, loterra, done, sent⟩ := Staking.handleGetTicket_ok executed
  rw [sent] at messages
  obtain ⟨w₁, first, rest₁, register, ended, hlist⟩ := runMessages_cons messages
  obtain ⟨rfl, rfl⟩ := runMessages_nil ended
  obtain ⟨⟨x₁, rfl⟩, hfirst⟩ := call_foreign rfl register
  refine .bought msg rfl rfl done rfl ?_
  simp only [hlist, hfirst]
  rfl

/-- Direct calls to the token and to the admin's half of staking are refused. -/
theorem runTx_effect (wired : Wired dep w) (h : runTx out dep w tx = .ok (w', r)) :
    TxEffect out dep w tx w' r.executed := by
  simp only [runTx, bind_ok, rejectIf_ok, not_not] at h
  obtain ⟨_, external, _, target, h⟩ := h
  have notPool : tx.sender.addr ≠ dep.pool.addr := fun same => external (.inl same)
  have notCw20 : tx.sender.addr ≠ dep.cw20.addr := fun same => external (.inr (.inl same))
  have notStaking : tx.sender.addr ≠ dep.staking.addr := fun same => external (.inr (.inr same))
  have notAdmin : api.canonicalize tx.sender.addr ≠ .ok w.staking.config.admin := by
    rw [Account.canonicalize_addr, wired.admin]
    exact fun same => Account.raw_ne notPool (Except.ok.inj same)
  rcases target with target | target | target <;> rw [target] at h
  · obtain ⟨_, _, m, _, _, _, msg, _⟩ := call_pool h
    rw [msg] at h
    cases m with
    | pool => exact pool_effect wired msg h
    | unPool amount => exact unPool_effect wired msg h
    | claimUnPool => exact claimUnPool_effect wired msg h
    | redeemEarning => exact redeemEarning_effect wired msg h
  · obtain ⟨_, _, m, _, _, _, msg, _, executed, _⟩ := call_cw20 h
    cases m with
    | burn amount =>
        have burned := Cw20.executeBurn_ok executed
        obtain ⟨balance, lowered, _⟩ := burned.balances
        have nothing := wired.holder _ notStaking
        have positive := burned.positive
        simp only at lowered
        omega
    | bond contract amount payload recipient =>
        have minter := (Cw20.executeBond_ok executed).minter
        rw [wired.minter] at minter
        exact absurd (Option.some.inj minter).symm notPool
  · obtain ⟨_, _, m, _, _, _, msg, _, executed, _⟩ := call_staking h
    rw [msg] at h
    cases m with
    | updateGlobalIndex =>
        obtain ⟨⟨_, done⟩, _⟩ := Staking.handleUpdateGlobalIndex_ok executed
        exact absurd done.admin notAdmin
    | unbondStake amount address =>
        obtain ⟨⟨_, _, _, done⟩, _⟩ := Staking.handleUnbound_ok executed
        exact absurd done.admin notAdmin
    | withdrawStake cap address =>
        obtain ⟨_, _, _, _, done, _⟩ := Staking.handleWithdrawStake_ok executed
        exact absurd done.admin notAdmin
    | receive wrapper =>
        obtain ⟨⟨_, _, done⟩, _⟩ := Staking.handleReceive_ok executed
        have token := done.cw20
        rw [wired.token, Account.humanize_raw] at token
        exact absurd (Except.ok.inj token).symm notCw20
    | getTicket recipient combination => exact getTicket_effect msg h

end Inversion
end DogetherContracts.System
