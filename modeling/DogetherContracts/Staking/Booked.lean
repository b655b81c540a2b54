import DogetherContracts.Staking.Solvency

/-! # The counter and the bank

The staking contract together with its bank balance in the reward denom. Funds
attached to a call arrive before it runs, and the messages it emits are paid with
the tax of the chain on top. A call that fails, or cannot be paid, is undone. -/
namespace DogetherContracts.Staking
open Checked Run

structure Funded where
  staking : Storage
  bank : Uint128

inductive Input where
  | call (call : Call)
  | transfer (amount : Uint128)

/-- The sum of the coins of one denom. -/
def amountOf (denom : String) (funds : List Coin) : ℕ :=
  (funds.map fun coin => if coin.denom = denom then coin.amount.val else 0).sum

/-- The tax on a transfer of `amount`, at raw rate `r` and cap `c`. -/
def chainTax (r c amount : ℕ) : ℕ := min (amount * r / 10 ^ 18) c

theorem chainTax_eq (r c amount : ℕ) : chainTax r c amount = Levy.onTop (10 ^ 18) r c amount := rfl

/-- What the chain debits for a list of coins: amount and tax of those in `denom`. -/
def debitOf (querier : Querier) (denom : String) (funds : List Coin) : Except Fault ℕ := do
  let rate ← orReject querier.taxRate .query
  let cap ← orReject (querier.taxCap denom) .query
  pure (amountOf denom funds + chainTax rate.val cap.val (amountOf denom funds))

def fundsOf : CosmosMsg → List Coin
  | .execute _ _ funds => funds
  | .instantiate _ _ _ funds _ => funds
  | .bankSend _ amount => amount

/-- What the chain debits for all messages of a response; a message without
funds costs nothing. -/
def outflow (querier : Querier) (denom : String) : List SubMsg → Except Fault ℕ
  | [] => .ok 0
  | sub :: messages => do
    let debit ← if fundsOf sub.msg = [] then pure 0 else debitOf querier denom (fundsOf sub.msg)
    let rest ← outflow querier denom messages
    pure (debit + rest)

/-- The answers of the call's querier, except that the contract's own balance is
the tracked one. -/
def withBank (call : Call) (denom : String) (bank : Uint128) : Call :=
  { call with querier := { call.querier with
      balance := fun addr d =>
        if addr = call.env.contract ∧ d = denom then some bank else call.querier.balance addr d } }

def runCall (api : Api) (s : Funded) (call : Call) : Except Fault Funded := do
  let denom := s.staking.config.rewardDenom
  let bank ← Word.narrow (Fault.chain "balance out of range")
    (s.bank.val + amountOf denom call.info.funds)
  let (staking, res) ← execute api s.staking (withBank call denom bank)
  let debit ← outflow call.querier denom res.messages
  let debit ← Word.narrow (Fault.chain "insufficient funds") debit
  let bank ← bank.sub (Fault.chain "insufficient funds") debit
  pure ⟨staking, bank⟩

def fundedStep (api : Api) (s : Funded) : Input → Funded
  | .transfer amount =>
    match s.bank.add (Fault.chain "balance out of range") amount with
    | .ok bank => { s with bank }
    | .error _ => s
  | .call call =>
    match runCall api s call with
    | .ok s' => s'
    | .error _ => s

/-- The counter is backed by money of the contract. -/
def Backed (s : Funded) : Prop := s.staking.state.prevRewardBalance.val ≤ s.bank.val

instance (s : Funded) : Decidable (Backed s) := inferInstanceAs (Decidable (_ ≤ _))

/-- The condition on rate, cap and cost under which the booked fee, which is the
tax contained in the cost, covers the tax due on top of it. -/
def FeeCovers (r c cost : ℕ) : Prop :=
  c ≤ cost - cost * 10 ^ 18 / (r + 10 ^ 18) ∨
    cost * r / 10 ^ 18 ≤ cost - cost * 10 ^ 18 / (r + 10 ^ 18)

instance (r c cost : ℕ) : Decidable (FeeCovers r c cost) :=
  inferInstanceAs (Decidable (_ ∨ _))

theorem feeCovers_iff {r c cost : ℕ} :
    FeeCovers r c cost ↔ chainTax r c cost ≤ containedTax r c cost := by
  rw [chainTax_eq, containedTax_eq]
  simp only [FeeCovers, Levy.onTop, Levy.contained, Levy.uncapped]
  omega

/-- The cost of a purchase at the queried price. -/
def ticketCost (api : Api) (querier : Querier) (config : Config) (combination : List String) :
    Option ℕ := do
  let loterra ← api.addrHumanize config.loterraAddr
  let lottery ← querier.loterraConfig loterra
  pure (lottery.pricePerTicketToRegister.val * combination.length)

/-- The condition at one step: a purchase that goes through meets `FeeCovers` at
the answers it was given. -/
def covered (api : Api) (s : Funded) : Input → Bool
  | .call call =>
    match call.msg with
    | .getTicket _ combination =>
      match call.querier.taxRate, call.querier.taxCap s.staking.config.rewardDenom,
        ticketCost api call.querier s.staking.config combination with
      | some rate, some cap, some cost =>
        !(runCall api s call).isOk || decide (FeeCovers rate.val cap.val cost)
      | _, _, _ => true
    | _ => true
  | .transfer _ => true

theorem priceTickets_ok {api : Api} {querier : Querier} {config : Config}
    {combination : List String} {price : TicketPrice}
    (h : priceTickets api querier config combination = .ok price) :
    ∃ rate cap, querier.taxRate = some rate ∧ querier.taxCap config.rewardDenom = some cap ∧
      ticketCost api querier config combination = some price.totalTicketCost.val ∧
      price.totalTicketWithFees.val = price.totalTicketCost.val +
        containedTax rate.val cap.val price.totalTicketCost.val := by
  simp only [priceTickets, bind_ok, Api.humanize, orReject_ok, Word.narrow_ok, deductTax_ok,
    Word.sub_ok, Word.add_ok, pure_ok] at h
  obtain ⟨loterra, hloterra, lottery, hlottery, cost, hcost, net,
    ⟨rate, cap, hrate, hcap, _, _, hnet⟩, fee, hfee, total, htotal, rfl⟩ := h
  refine ⟨rate, cap, hrate, hcap, ?_, ?_⟩
  · simp only [ticketCost, hloterra, hlottery, Option.bind_eq_bind, Option.bind_some,
      Option.pure_def, hcost]
  · simp only at hnet ⊢
    omega

/-- Only a purchase pays something out. -/
theorem outflow_none {api : Api} {st st' : Storage} {call : Call} {res : Response}
    {querier : Querier} {denom : String} (h : execute api st call = .ok (st', res))
    (other : ∀ recipient combination, call.msg ≠ .getTicket recipient combination) :
    outflow querier denom res.messages = .ok 0 := by
  obtain ⟨q, env, info, msg⟩ := call
  cases msg with
  | updateGlobalIndex =>
      rw [(handleUpdateGlobalIndex_ok h).2]
      rfl
  | unbondStake amount address =>
      rw [(handleUnbound_ok h).2]
      rfl
  | withdrawStake cap address =>
      obtain ⟨_, _, _, _, _, rfl⟩ := handleWithdrawStake_ok h
      rfl
  | receive wrapper =>
      rw [(handleReceive_ok h).2]
      rfl
  | getTicket recipient combination => exact absurd rfl (other recipient combination)

/-- A purchase pays the ticket cost with its tax. -/
theorem Bought.outflow {api : Api} {querier : Querier} {st st' : Storage} {recipient : String}
    {combination : List String} {quote : Quote} {h : Holder} {loterra : Addr}
    (done : Bought api querier st st' recipient combination quote h loterra) :
    ∃ rate cap, querier.taxRate = some rate ∧ querier.taxCap st.config.rewardDenom = some cap ∧
      ticketCost api querier st.config combination = some quote.price.totalTicketCost.val ∧
      st'.state.prevRewardBalance.val + (quote.price.totalTicketCost.val +
        containedTax rate.val cap.val quote.price.totalTicketCost.val) =
          st.state.prevRewardBalance.val ∧
      Staking.outflow querier st.config.rewardDenom
        [⟨.execute loterra (.register (some recipient) none combination)
          [⟨st.config.rewardDenom, quote.price.totalTicketCost⟩], none⟩] =
        .ok (quote.price.totalTicketCost.val +
          chainTax rate.val cap.val quote.price.totalTicketCost.val) := by
  obtain ⟨_, _, _, priced, _⟩ := quoteTickets_ok done.quoted
  obtain ⟨rate, cap, hrate, hcap, cost, total⟩ := priceTickets_ok priced
  refine ⟨rate, cap, hrate, hcap, cost, ?_, ?_⟩
  · rw [← total]
    exact done.prev
  · simp [Staking.outflow, fundsOf, debitOf, hrate, hcap, orReject, amountOf, pure, Except.pure]

theorem runCall_ok {api : Api} {s s' : Funded} {call : Call} (h : runCall api s call = .ok s') :
    ∃ (bank : Uint128) (res : Response) (debit : ℕ),
      bank.val = s.bank.val + amountOf s.staking.config.rewardDenom call.info.funds ∧
      execute api s.staking (withBank call s.staking.config.rewardDenom bank) =
        .ok (s'.staking, res) ∧
      outflow call.querier s.staking.config.rewardDenom res.messages = .ok debit ∧
      s'.bank.val + debit = bank.val := by
  simp only [runCall, bind_ok, Word.narrow_ok, Word.sub_ok, pure_ok, Prod.exists] at h
  obtain ⟨bank, hbank, staking, res, executed, debit, paid, small, hsmall, left, hleft, rfl⟩ := h
  exact ⟨bank, res, debit, hbank, executed, paid, by rw [← hsmall]; exact hleft⟩

/-- Across a purchase the counter loses the contained tax and the bank the tax on
top; apart from that they move together. -/
theorem purchase_slack {api : Api} {s s' : Funded} {call : Call} {recipient : String}
    {combination : List String} (msg : call.msg = .getTicket recipient combination)
    (h : runCall api s call = .ok s') :
    ∃ rate cap cost, call.querier.taxRate = some rate ∧
      call.querier.taxCap s.staking.config.rewardDenom = some cap ∧
      ticketCost api call.querier s.staking.config combination = some cost ∧
      s'.bank.val + chainTax rate.val cap.val cost + s.staking.state.prevRewardBalance.val =
        s.bank.val + amountOf s.staking.config.rewardDenom call.info.funds +
          s'.staking.state.prevRewardBalance.val + containedTax rate.val cap.val cost := by
  obtain ⟨bank, res, debit, hbank, executed, paid, left⟩ := runCall_ok h
  obtain ⟨querier, env, info, _⟩ := call
  cases msg
  obtain ⟨quote, holder, loterra, done, messages⟩ := handleGetTicket_ok executed
  obtain ⟨rate, cap, hrate, hcap, cost, booked, total⟩ := done.outflow
  rw [messages] at paid
  have same : debit = _ := Except.ok.inj (paid.symm.trans total)
  exact ⟨rate, cap, _, hrate, hcap, cost, by omega⟩

/-- The condition is exact: a purchase that goes through keeps what the bank has
over the counter if and only if it meets it. -/
theorem purchase_covered_iff {api : Api} {s s' : Funded} {call : Call} {recipient : String}
    {combination : List String} (msg : call.msg = .getTicket recipient combination)
    (h : runCall api s call = .ok s') :
    covered api s (.call call) = true ↔
      s.bank.val + amountOf s.staking.config.rewardDenom call.info.funds +
          s'.staking.state.prevRewardBalance.val ≤
        s'.bank.val + s.staking.state.prevRewardBalance.val := by
  obtain ⟨rate, cap, cost, hrate, hcap, hcost, slack⟩ := purchase_slack msg h
  simp only [covered, msg, hrate, hcap, hcost, h, Except.isOk, Except.toBool, Bool.not_true,
    Bool.false_or, decide_eq_true_eq, feeCovers_iff]
  omega

theorem fundedStep_backed {api : Api} {s : Funded} {input : Input} (backed : Backed s)
    (fee : covered api s input = true) : Backed (fundedStep api s input) := by
  cases input with
  | transfer amount =>
      simp only [fundedStep]
      split
      · next bank received =>
        exact backed.trans (by rw [Word.add_ok.mp received]; exact Nat.le_add_right _ _)
      · exact backed
  | call call =>
      simp only [fundedStep]
      split
      · next s' done =>
        by_cases purchase : ∃ recipient combination, call.msg = .getTicket recipient combination
        · obtain ⟨recipient, combination, msg⟩ := purchase
          have slack := (purchase_covered_iff msg done).mp fee
          unfold Backed at backed ⊢
          omega
        · push Not at purchase
          obtain ⟨bank, res, debit, hbank, executed, paid, left⟩ := runCall_ok done
          have free : outflow call.querier s.staking.config.rewardDenom res.messages = .ok 0 :=
            outflow_none executed purchase
          cases Except.ok.inj (paid.symm.trans free)
          unfold Backed at backed ⊢
          obtain ⟨querier, env, info, msg⟩ := call
          cases execute_effect executed with
          | updated update =>
              have own := update.balance
              simp only [and_self, if_true, Option.some.injEq] at own
              rw [← own]
              omega
          | bonded bond =>
              rw [bond.prev]
              omega
          | unbonded unbond =>
              rw [unbond.prev]
              omega
          | withdrawn withdraw =>
              rw [withdraw.rest]
              simp only
              omega
          | bought _ => exact absurd rfl (purchase _ _)
      · exact backed

/-- In a run whose purchases all meet the condition, the counter is backed in
every state, so an index update never fails on it. -/
theorem booked_rewards_backed (api : Api) (config : Config) (bank : Uint128) (inputs : List Input)
    (fees : Along (fundedStep api) (fun s input => covered api s input = true)
      ⟨.initial config, bank⟩ inputs) :
    Backed (run (fundedStep api) ⟨.initial config, bank⟩ inputs) ∧
      ∀ balance : Uint128, (run (fundedStep api) ⟨.initial config, bank⟩ inputs).bank.val ≤
          balance.val →
        ∃ claimed, balance.sub overflow (run (fundedStep api) ⟨.initial config, bank⟩
          inputs).staking.state.prevRewardBalance = .ok claimed := by
  have backed : Backed (run (fundedStep api) ⟨.initial config, bank⟩ inputs) :=
    along_invariant Backed (Nat.zero_le _) (fun _ _ h fee => fundedStep_backed h fee) fees
  refine ⟨backed, ?_⟩
  intro balance enough
  exact Word.sub_of_le (backed.trans enough)

/-- Alice stakes, two million units come in, and she buys one ticket at `price`. -/
def Sample.purchase (price : Uint128) : List Input :=
  [.call (bond "alice" ⟨10, by norm_num⟩), .transfer ⟨2000000, by norm_num⟩, .call (update 0),
    .call (buy "alice" price ["abc123"])]

/-- At a price of 100 the contained tax and the tax on top are both 1. -/
theorem small_purchase_backed :
    Backed (run (fundedStep Sample.api) ⟨.initial Sample.config, 0⟩
      (Sample.purchase ⟨100, by norm_num⟩)) :=
  (booked_rewards_backed Sample.api Sample.config 0 (Sample.purchase ⟨100, by norm_num⟩)
    (by decide +kernel)).1

/-- At a price of a million the counter is debited 9901 units of tax and the bank
10000; the next index update fails. -/
theorem purchase_not_backed :
    ¬ Backed (run (fundedStep Sample.api) ⟨.initial Sample.config, 0⟩
        (Sample.purchase ⟨1000000, by norm_num⟩)) ∧
      (runCall Sample.api (run (fundedStep Sample.api) ⟨.initial Sample.config, 0⟩
        (Sample.purchase ⟨1000000, by norm_num⟩)) (Sample.update 0)).isOk = false := by
  decide +kernel

end DogetherContracts.Staking
