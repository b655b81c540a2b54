import DogetherContracts.Pool.Payouts
import DogetherContracts.Staking.Tickets
import DogetherContracts.System.Accepted
import DogetherContracts.System.Draws

/-! # Earnings and tickets

The two transactions that move rewards: what a redemption and a purchase need from
the contracts and from the outside, and that they need nothing else. -/
namespace DogetherContracts.Staking
open Checked

/-- An update takes the admin, some stake, a balance that has not shrunk, and room
for the index. -/
theorem handleUpdateGlobalIndex_accepted_iff {api : Api} {querier : Querier} {env : Env}
    {info : MessageInfo} {st : Storage} :
    (∃ st' res, handleUpdateGlobalIndex api querier env info st = .ok (st', res)) ↔
      api.canonicalize info.sender = .ok st.config.admin ∧ 0 < st.state.totalBalance.val ∧
      ∃ held, querier.balance env.contract st.config.rewardDenom = some held ∧
        st.state.prevRewardBalance.val ≤ held.val ∧
        st.state.globalIndex.val + LazyIndex.perWeight (10 ^ 18)
          (held.val - st.state.prevRewardBalance.val) st.state.totalBalance.val < 2 ^ 128 := by
  constructor
  · rintro ⟨st', res, h⟩
    obtain ⟨⟨claimed, done⟩, _⟩ := handleUpdateGlobalIndex_ok h
    have grown := done.prev
    refine ⟨done.admin, done.staked, st'.state.prevRewardBalance, done.balance, by omega, ?_⟩
    rw [grown, Nat.add_sub_cancel_left, ← done.globalIndex]
    exact st'.state.globalIndex.lt
  · rintro ⟨admin, staked, held, answered, grown, fits⟩
    obtain ⟨claimed, hclaimed⟩ := Word.sub_of_le (e := overflow) grown
    have value := Word.sub_ok.mp hclaimed
    have difference : claimed.val = held.val - st.state.prevRewardBalance.val := by omega
    have per : Decimal.fromRatio claimed st.state.totalBalance = .ok ⟨⟨LazyIndex.perWeight (10 ^ 18)
        (held.val - st.state.prevRewardBalance.val) st.state.totalBalance.val, by omega⟩⟩ := by
      rw [Decimal.fromRatio_ok]
      refine ⟨staked.ne', ?_⟩
      rw [difference]
      rfl
    have raised : decimalSummationIn256 st.state.globalIndex ⟨⟨LazyIndex.perWeight (10 ^ 18)
        (held.val - st.state.prevRewardBalance.val) st.state.totalBalance.val, by omega⟩⟩ =
        .ok ⟨⟨_, fits⟩⟩ := decimalSummationIn256_ok.mpr rfl
    simp only [handleUpdateGlobalIndex, admin, rejectIf_neg _ (not_not.mpr rfl),
      rejectIf_neg _ staked.ne', answered, orReject, hclaimed, per, raised, ok_bind]
    exact ⟨_, _, rfl⟩

/-- A purchase with a valid quote fails only in the loop or on an address. -/
theorem handleGetTicket_of_quote {api : Api} {querier : Querier} {st : Storage} {dust : ℕ}
    {recipient : String} {combination : List String} {quote : Quote} {loterra : Addr}
    (sound : Solvent st dust)
    (quoted : quoteTickets api querier st recipient combination = .ok quote)
    (distinct : combination.Nodup)
    (fresh : ∀ combo ∈ combination,
      (quote.price.lottery.lotteryCounter, quote.addrRaw, combo) ∉ st.combinations)
    (representable : Representable st quote.addrRaw)
    (valid : api.validate recipient = .ok recipient)
    (lottery : api.humanize st.config.loterraAddr = .ok loterra) :
    ∃ st' res, handleGetTicket api querier st recipient combination = .ok (st', res) := by
  obtain ⟨combinations, saved⟩ := saveCombinations_ok_iff.mpr ⟨distinct, fresh⟩
  obtain ⟨_, _, rewards, _, enough⟩ := quoteTickets_ok quoted
  obtain ⟨newBalance, lowered⟩ := Word.sub_of_le (e := overflow) (sound.quoted_le quoted)
  obtain ⟨left, hleft⟩ := Word.sub_of_le (e := Fault.panic) enough
  have within : left.val * 10 ^ 18 < 2 ^ 128 := by
    have part := Word.sub_ok.mp hleft
    have owed := representable.2
    have whole := Nat.div_mul_le_self (st.owed quote.addrRaw) (10 ^ 18)
    rw [← rewards] at whole
    calc left.val * 10 ^ 18 ≤ quote.rewards.val * 10 ^ 18 := Nat.mul_le_mul_right _ (by omega)
      _ ≤ st.owed quote.addrRaw := whole
      _ < 2 ^ 128 := owed
  have pending : Decimal.fromRatio left Uint128.one = .ok ⟨⟨_, within⟩⟩ := by
    rw [Decimal.fromRatio_ok, Uint128.val_one, Nat.div_one]
    exact ⟨Nat.one_ne_zero, rfl⟩
  simp only [handleGetTicket, quoted, saved, lowered, hleft, pending, valid, lottery, ok_bind]
  exact ⟨_, _, rfl⟩

end DogetherContracts.Staking

namespace DogetherContracts.System
open Checked Run

variable {χ : Type} {api : Api} {out : Outside χ} {dep : Deployment api}

/-! `RedeemEarning`. -/

section Redeem

variable {w : World χ} {tx : Tx api}

/-- What an earnings call needs from outside: the answers it rests on, Anchor, and
the balance that staking is left with. -/
structure Earning (out : Outside χ) (dep : Deployment api) (w : World χ) (tx : Tx api)
    (t : Pool.Takings) (x x' : χ) (held : Uint128) : Prop where
  moved : out.transfer tx.sender.addr dep.pool.addr tx.funds w.outside = .ok x
  harvest : Pool.Harvest api (out.querier x) ⟨w.block, dep.pool.addr⟩ w.pool t
  external : ¬ ours dep t.aust
  after : List.foldlM (outsideStep out dep) x
    [(dep.pool.addr, .execute t.aust (.send t.moneyMarket t.redeemed .redeemStable) []),
    (dep.pool.addr, .execute dep.staking.addr (.staking .updateGlobalIndex) [t.earnings])] = .ok x'
  answered : (out.querier x').balance dep.staking.addr w.staking.config.rewardDenom = some held

/-- The balance has not shrunk, and the index has room for the growth. -/
def Credited (st : Staking.Storage) (held : Uint128) : Prop :=
  st.state.prevRewardBalance.val ≤ held.val ∧
    st.state.globalIndex.val + LazyIndex.perWeight (10 ^ 18)
      (held.val - st.state.prevRewardBalance.val) st.state.totalBalance.val < 2 ^ 128

theorem update_credited {gas : ℕ} {w w' : World χ} {r : Receipt} {funds : List Coin}
    (h : runCall out dep gas (.message dep.pool.addr
      (.execute dep.staking.addr (.staking .updateGlobalIndex) funds)) w = .ok (w', r)) :
    0 < w.staking.state.totalBalance.val ∧ (∃ held, Credited w.staking held ∧
      (out.querier w'.outside).balance dep.staking.addr w.staking.config.rewardDenom =
        some held) ∧
      r.executed =
        [(dep.pool.addr, .execute dep.staking.addr (.staking .updateGlobalIndex) funds)] := by
  obtain ⟨_, x, m, staking, res, rest, same, _, executed, messages, rfl⟩ := call_staking h
  cases same
  rw [(Staking.handleUpdateGlobalIndex_ok executed).2] at messages
  obtain ⟨rfl, rfl⟩ := runMessages_nil messages
  obtain ⟨_, staked, held, answered, credited⟩ :=
    Staking.handleUpdateGlobalIndex_accepted_iff.mp ⟨staking, res, executed⟩
  exact ⟨staked, ⟨held, credited, answered⟩, rfl⟩

theorem update_accepted (g : ℕ) {w : World χ} {funds : List Coin} {x : χ} {held : Uint128}
    (admin : w.staking.config.admin = dep.pool.raw)
    (staked : 0 < w.staking.state.totalBalance.val)
    (moved : out.transfer dep.pool.addr dep.staking.addr funds w.outside = .ok x)
    (answered : (out.querier x).balance dep.staking.addr w.staking.config.rewardDenom = some held)
    (credited : Credited w.staking held) :
    ∃ w' r, runCall out dep (g + 1) (.message dep.pool.addr
      (.execute dep.staking.addr (.staking .updateGlobalIndex) funds)) w = .ok (w', r) := by
  have sender : api.canonicalize dep.pool.addr = .ok w.staking.config.admin := by
    rw [admin, Account.canonicalize_addr]
  obtain ⟨staking, res, updated⟩ : ∃ staking res, Staking.handleUpdateGlobalIndex api
      (out.querier x) ⟨w.block, dep.staking.addr⟩ ⟨dep.pool.addr, funds⟩ w.staking =
      .ok (staking, res) :=
    Staking.handleUpdateGlobalIndex_accepted_iff.mpr ⟨sender, staked, held, answered, credited⟩
  refine call_of_enter g _ (enter_staking moved updated) ?_
  rw [(Staking.handleUpdateGlobalIndex_ok updated).2]
  exact ⟨_, _, rfl⟩

/-- A redemption goes through exactly when it brings no funds, the draw is due, Anchor
covers the pool within the range of the decimals and pays, and there is stake to
credit what staking then has. -/
theorem redeemEarning_accepted_iff (reachable : Reachable out dep w)
    (msg : tx.msg = .pool .redeemEarning) (contract : tx.contract = dep.pool.addr)
    (signed : ¬ ours dep tx.sender.addr) (gas : 2 ≤ tx.gas) :
    (∃ w' r, runTx out dep w tx = .ok (w', r)) ↔
      tx.funds = [] ∧ 0 < w.staking.state.totalBalance.val ∧ ∃ t x x' held,
        Earning out dep w tx t x x' held ∧ Credited w.staking held := by
  obtain ⟨g, hg⟩ : ∃ g, tx.gas = g + 2 := ⟨tx.gas - 2, by omega⟩
  have wired := reachable.wired
  rw [runTx_call contract dep.ours_pool signed, msg, hg]
  constructor
  · rintro ⟨w', r, h⟩
    obtain ⟨gas', x, m, pool, res, rest, is_redeem, moved, executed, messages, _⟩ := call_pool h
    cases is_redeem
    obtain ⟨funds, t, staking, harvest, human, sent⟩ := Pool.tryRedeemEarning_harvest executed
    obtain rfl : staking = dep.staking.addr := Account.humanize_ok (wired.stakingAddress ▸ human)
    rw [sent] at messages
    have after := runMessages_outside runCall_outside messages
    obtain ⟨w₁, first, rest₁, redeem, messages, hlist⟩ := runMessages_cons messages
    obtain ⟨⟨x₁, rfl⟩, hfirst⟩ := call_foreign rfl redeem
    obtain ⟨w₂, second, rest₂, update, ended, hlist₂⟩ := runMessages_cons messages
    obtain ⟨rfl, rfl⟩ := runMessages_nil ended
    obtain ⟨staked, ⟨held, credited, answered⟩, hsecond⟩ := update_credited update
    rw [hlist, hlist₂, hfirst, hsecond] at after
    exact ⟨funds, staked, t, x, w'.outside, held,
      ⟨moved, harvest, foreign_external rfl redeem, after, answered⟩, credited⟩
  · rintro ⟨funds, staked, t, x, x', held, earning, credited⟩
    have after := earning.after
    simp only [List.foldlM_cons, List.foldlM_nil, bind_ok, bind_pure,
      outsideStep_ours dep.ours_staking] at after
    obtain ⟨x₁, redeemed, moved⟩ := after
    have human : api.humanize w.pool.state.stakingAddress = .ok dep.staking.addr := by
      rw [wired.stakingAddress, Account.humanize_raw]
    obtain ⟨pool, res, ran, sent⟩ : ∃ pool res, Pool.tryRedeemEarning api (out.querier x)
        ⟨w.block, dep.pool.addr⟩ ⟨tx.sender.addr, tx.funds⟩ w.pool = .ok (pool, res) ∧
        res.messages = t.messages dep.staking.addr :=
      Pool.tryRedeemEarning_of_harvest funds earning.harvest human
    refine call_of_enter (g + 1) _ (enter_pool earning.moved ran) ?_
    rw [sent]
    have redeem : ∃ w' r, runCall out dep (g + 1) (.message dep.pool.addr
        (.execute t.aust (.send t.moneyMarket t.redeemed .redeemStable) []))
        { w with pool, outside := x } = .ok (w', r) :=
      (foreign_accepted_iff g rfl).mpr ⟨earning.external, x₁, redeemed⟩
    obtain ⟨w₁, r₁, redeem⟩ := redeem
    obtain ⟨⟨y, rfl⟩, executed⟩ := call_foreign rfl redeem
    have outside := runCall_outside redeem
    simp only [executed, List.foldlM_cons, List.foldlM_nil, bind_pure, redeemed] at outside
    obtain rfl := Except.ok.inj outside
    have update : ∃ w' r, runCall out dep (g + 1) (.message dep.pool.addr
        (.execute dep.staking.addr (.staking .updateGlobalIndex) [t.earnings]))
        { w with pool, outside := x₁ } = .ok (w', r) :=
      update_accepted g wired.admin staked moved earning.answered credited
    obtain ⟨w₂, r₂, update⟩ := update
    exact messages_of_first redeem (messages_of_first update ⟨_, _, rfl⟩)

/-- Bob's redemption is due, and Anchor's rate has risen. -/
theorem bob_redemption_accepted : ∃ w, Reachable Sample.out Sample.dep w ∧
    0 < w.staking.state.totalBalance.val ∧ ∃ t x x' held,
      Earning Sample.out Sample.dep w (Sample.call Sample.bob .redeemEarning []) t x x' held ∧
        Credited w.staking held := by
  obtain ⟨w, deployed, ⟨w', r⟩, ran, _⟩ : ∃ w, Sample.start = .ok w ∧
      ∃ p, runTx Sample.out Sample.dep
        (run (step Sample.out Sample.dep) w (Sample.waiting.take 5))
        (Sample.call Sample.bob .redeemEarning []) = .ok p ∧ p.2.executed.length = 3 := by
    decide +kernel
  have start : Reachable Sample.out Sample.dep w := .deployed rfl rfl deployed
  have reachable := start.run (Sample.waiting.take 5)
  generalize run (step Sample.out Sample.dep) w (Sample.waiting.take 5) = w₁ at ran reachable
  have signed : ¬ ours Sample.dep Sample.bob.addr := by decide
  obtain ⟨_, staked, taken⟩ :=
    (redeemEarning_accepted_iff reachable rfl rfl signed (by decide)).mp ⟨w', r, ran⟩
  exact ⟨w₁, reachable, staked, taken⟩

end Redeem

/-! `GetTicket`. -/

section Purchase

variable {w : World χ} {tx : Tx api}

/-- What a purchase needs from outside: the price, and a lottery that takes the coins. -/
structure Purchase (out : Outside χ) (dep : Deployment api) (w : World χ) (tx : Tx api)
    (recipient : String) (combination : List String) (price : Staking.TicketPrice)
    (lottery : Addr) (x x' : χ) : Prop where
  moved : out.transfer tx.sender.addr dep.staking.addr tx.funds w.outside = .ok x
  priced : Staking.priceTickets api (out.querier x) w.staking.config combination = .ok price
  lotteryAddr : api.humanize w.staking.config.loterraAddr = .ok lottery
  external : ¬ ours dep lottery
  after : outsideStep out dep x (dep.staking.addr,
    .execute lottery (.register (some recipient) none combination)
      [⟨w.staking.config.rewardDenom, price.totalTicketCost⟩]) = .ok x'

/-- A purchase goes through exactly when its combinations are new, the whole rewards
of the recipient pay for them, and the lottery takes the tickets. -/
theorem getTicket_accepted_iff {recipient : String} {combination : List String}
    (reachable : Reachable out dep w)
    (msg : tx.msg = .staking (.getTicket recipient combination))
    (contract : tx.contract = dep.staking.addr) (signed : ¬ ours dep tx.sender.addr)
    (gas : 2 ≤ tx.gas) :
    (∃ w' r, runTx out dep w tx = .ok (w', r)) ↔
      combination ≠ [] ∧ combination.Nodup ∧ api.validate recipient = .ok recipient ∧
        ∃ a price lottery x x', api.addrCanonicalize recipient = some a ∧
          Staking.Representable w.staking a ∧ 0 < w.staking.owed a / 10 ^ 18 ∧
          price.totalTicketWithFees.val ≤ w.staking.owed a / 10 ^ 18 ∧
          (∀ combo ∈ combination,
            (price.lottery.lotteryCounter, a, combo) ∉ w.staking.combinations) ∧
          Purchase out dep w tx recipient combination price lottery x x' := by
  obtain ⟨g, hg⟩ : ∃ g, tx.gas = g + 2 := ⟨tx.gas - 2, by omega⟩
  obtain ⟨dust, solvent⟩ := reachable.backing.solvent
  rw [runTx_call contract dep.ours_staking signed, msg, hg]
  constructor
  · rintro ⟨w', r, h⟩
    obtain ⟨gas', x, m, staking, res, rest, is_purchase, moved, executed, messages, _⟩ :=
      call_staking h
    cases is_purchase
    obtain ⟨quote, holder, lottery, done, sent⟩ := Staking.handleGetTicket_ok executed
    obtain ⟨listed, a, price, canonical, representable, priced, positive, enough⟩ :=
      (solvent.quote_iff recipient combination).mp ⟨quote, done.quoted⟩
    obtain ⟨canonical', _, _, priced', _⟩ := Staking.quoteTickets_ok done.quoted
    obtain rfl := Option.some.inj (canonical.symm.trans (orReject_ok.mp canonical'))
    obtain rfl := Except.ok.inj (priced.symm.trans priced')
    obtain ⟨distinct, fresh⟩ := Staking.saveCombinations_ok_iff.mp ⟨_, done.saved⟩
    rw [sent] at messages
    have after := runMessages_outside runCall_outside messages
    obtain ⟨w₁, first, rest₁, register, ended, hlist⟩ := runMessages_cons messages
    obtain ⟨rfl, rfl⟩ := runMessages_nil ended
    rw [hlist, (call_foreign rfl register).2] at after
    simp only [Receipt.empty, List.append_nil, List.foldlM_cons, List.foldlM_nil,
      bind_pure] at after
    exact ⟨listed, distinct, done.valid, quote.addrRaw, quote.price, lottery, x, w'.outside,
      canonical, representable, positive, enough, fresh,
      ⟨moved, priced, done.lottery, foreign_external rfl register, after⟩⟩
  · rintro ⟨listed, distinct, valid, a, price, lottery, x, x', canonical, representable, positive,
      enough, fresh, purchase⟩
    obtain ⟨quote, quoted⟩ := (solvent.quote_iff recipient combination).mpr
      ⟨listed, a, price, canonical, representable, purchase.priced, positive, enough⟩
    obtain ⟨canonical', _, _, priced', _⟩ := Staking.quoteTickets_ok quoted
    obtain rfl := Option.some.inj (canonical.symm.trans (orReject_ok.mp canonical'))
    obtain rfl := Except.ok.inj (purchase.priced.symm.trans priced')
    obtain ⟨staking, res, bought⟩ := Staking.handleGetTicket_of_quote solvent quoted distinct fresh
      representable valid purchase.lotteryAddr
    refine call_of_enter (g + 1) _ (enter_staking purchase.moved bought) ?_
    obtain ⟨_, _, loterra, done, sent⟩ := Staking.handleGetTicket_ok bought
    obtain rfl := Except.ok.inj (quoted.symm.trans done.quoted)
    obtain rfl := Except.ok.inj (purchase.lotteryAddr.symm.trans done.lottery)
    rw [sent]
    have register : ∃ w' r, runCall out dep (g + 1) (.message dep.staking.addr
        (.execute lottery (.register (some recipient) none combination)
          [⟨w.staking.config.rewardDenom, quote.price.totalTicketCost⟩]))
        { w with staking, outside := x } = .ok (w', r) :=
      (foreign_accepted_iff g rfl).mpr ⟨purchase.external, x', purchase.after⟩
    obtain ⟨w₁, r₁, register⟩ := register
    exact messages_of_first register ⟨_, _, rfl⟩

namespace Sample

/-- The lottery sells tickets at 10 each in its seventh round. -/
def lottery : Outside Reserve :=
  { Sample.out with querier := fun x =>
      { querier x with loterraConfig := fun _ => some ⟨.ofNat 10, .ofNat 7⟩ } }

/-- Alice pools 2000, and the 50 that staking holds are credited to her. -/
def credited : List (Input Reserve Sample.api) := [
  .transaction (pool alice (.ofNat 2000)),
  .outside ⟨.ofNat 1900, better, better_pos⟩,
  .transaction (call alice .redeemEarning [])]

/-- Bob buys two tickets for Alice. -/
def tickets : Tx Sample.api :=
  ⟨bob, Sample.dep.staking.addr, .staking (.getTicket "alice" ["01", "02"]), [], 5⟩

end Sample

theorem alice_tickets_accepted : ∃ w, Reachable Sample.lottery Sample.dep w ∧
    ∃ a price lottery x x', Sample.api.addrCanonicalize "alice" = some a ∧
      price.totalTicketWithFees.val ≤ w.staking.owed a / 10 ^ 18 ∧
      Purchase Sample.lottery Sample.dep w Sample.tickets "alice" ["01", "02"] price lottery
        x x' := by
  obtain ⟨w, deployed, ⟨w', r⟩, ran, _⟩ : ∃ w,
      deploy Sample.lottery Sample.dep Sample.deployer Sample.msg (Sample.block (.ofNat 1000))
        ⟨0, Sample.rate, Sample.rate_pos⟩ = .ok w ∧
      ∃ p, runTx Sample.lottery Sample.dep
        (run (step Sample.lottery Sample.dep) w Sample.credited) Sample.tickets = .ok p ∧
        p.2.executed.length = 2 := by
    decide +kernel
  have start : Reachable Sample.lottery Sample.dep w := .deployed rfl rfl deployed
  have reachable := start.run Sample.credited
  generalize run (step Sample.lottery Sample.dep) w Sample.credited = w₁ at ran reachable
  have signed : ¬ ours Sample.dep Sample.bob.addr := by decide
  obtain ⟨_, _, _, a, price, lottery, x, x', canonical, _, _, enough, _, purchase⟩ :=
    (getTicket_accepted_iff reachable rfl rfl signed (by decide)).mp ⟨w', r, ran⟩
  exact ⟨w₁, reachable, a, price, lottery, x, x', canonical, enough, purchase⟩

end Purchase
end DogetherContracts.System
