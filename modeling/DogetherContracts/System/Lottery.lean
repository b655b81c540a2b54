import DogetherContracts.Staking.Forfeits
import DogetherContracts.Staking.Tickets
import DogetherContracts.System.Configured
import DogetherContracts.System.Earnings
import DogetherContracts.System.Funds

/-! # Tickets

The record that staking keeps of the tickets, against the messages that the lottery
gets: every ticket on record was sent once, and none was sent without a record. -/
namespace DogetherContracts.System
open Checked Run

variable {χ : Type} {api : Api} {out : Outside χ} {dep : Deployment api}

/-- One combination in a message to a lottery. -/
structure Ticket where
  lottery : Addr
  recipient : Option CanonicalAddr
  combination : String
  deriving DecidableEq, Repr

def ticketsOf (api : Api) : CosmosMsg → List Ticket
  | .execute target (.register recipient _ combination) _ =>
    combination.map fun combo => ⟨target, recipient.bind api.addrCanonicalize, combo⟩
  | _ => []

/-- The coins that go along with tickets. -/
def ticketCoins : CosmosMsg → ℕ
  | .execute _ (.register _ _ _) funds => coins funds
  | _ => 0

/-- The tickets that one input sends, if it goes through. -/
def sent (out : Outside χ) (dep : Deployment api) (w : World χ) : Input χ api → List Ticket
  | .transaction tx =>
    match runTx out dep w tx with
    | .ok (_, r) => r.executed.flatMap fun e => ticketsOf api e.2
    | .error _ => []
  | .newBlock _ | .outside _ => []

/-- All tickets that a run sends, in order. -/
def deliveries (out : Outside χ) (dep : Deployment api) (w : World χ)
    (inputs : List (Input χ api)) : List Ticket :=
  history (step out dep) (fun tickets w input => tickets ++ sent out dep w input) [] w inputs

/-- What an input adds to the rewards on record. -/
def bookedRewards (out : Outside χ) (dep : Deployment api) (w : World χ) (input : Input χ api) :
    ℕ :=
  (step out dep w input).staking.state.prevRewardBalance.val -
    w.staking.state.prevRewardBalance.val

/-- The ticket behind a key of the record. -/
def ticketFor (lottery : Account api) (key : Staking.CombinationKey) : Ticket :=
  ⟨lottery.addr, some key.2.1, key.2.2⟩

/-- The record of staking, and what the lottery got for it. -/
structure Delivered (dep : Deployment api) (lottery : Account api) (w : World χ)
    (tickets : List Ticket) (paid booked : ℕ) : Prop where
  wired : Wired dep w
  address : w.staking.config.loterraAddr = lottery.raw
  record : ∃ keys, Staking.Registered w.staking keys ∧ tickets = keys.map (ticketFor lottery)
  covered : paid + w.staking.state.prevRewardBalance.val ≤ booked

section Step

variable {w w' : World χ} {tx : Tx api} {executed : List (Addr × CosmosMsg)}
  {lottery : Account api} {tickets : List Ticket} {paid booked : ℕ}

/-- The record is about staking alone. -/
theorem Delivered.of_same (delivered : Delivered dep lottery w tickets paid booked)
    (wired : Wired dep w') (same : w'.staking = w.staking) :
    Delivered dep lottery w' tickets paid booked where
  wired := wired
  address := same ▸ delivered.address
  record := same ▸ delivered.record
  covered := same ▸ delivered.covered

/-- Only a purchase sends tickets, and it sends what it registers. -/
theorem TxEffect.delivered (effect : TxEffect out dep w tx w' executed)
    (delivered : Delivered dep lottery w tickets paid booked) :
    Delivered dep lottery w' (tickets ++ executed.flatMap fun e => ticketsOf api e.2)
      (paid + amounts ticketCoins executed)
      (booked + (w'.staking.state.prevRewardBalance.val -
        w.staking.state.prevRewardBalance.val)) := by
  have wired := effect.wired delivered.wired
  have address : w'.staking.config.loterraAddr = lottery.raw := by
    rw [effect.config, delivered.address]
  have covered := delivered.covered
  obtain ⟨keys, registered, rfl⟩ := delivered.record
  -- Without a purchase the combinations stay, and nothing is sent.
  have kept (combinations : w'.staking.combinations = w.staking.combinations)
      (none_sent : (executed.flatMap fun e => ticketsOf api e.2) = [])
      (nothing : amounts ticketCoins executed = 0) :
      Delivered dep lottery w' (keys.map (ticketFor lottery) ++ executed.flatMap fun e =>
        ticketsOf api e.2) (paid + amounts ticketCoins executed)
        (booked + (w'.staking.state.prevRewardBalance.val -
          w.staking.state.prevRewardBalance.val)) := by
    rw [none_sent, nothing, List.append_nil]
    refine ⟨wired, address, ⟨keys, ⟨registered.distinct, fun key => ?_⟩, rfl⟩, by omega⟩
    rw [combinations]
    exact registered.stored key
  cases effect with
  | pooled _ _ _ staking _ list =>
      exact kept staking.combinations (by rw [list]; rfl) (by rw [list]; rfl)
  | unPooled _ _ _ staking _ list =>
      exact kept staking.combinations (by rw [list]; rfl) (by rw [list]; rfl)
  | claimed _ staking _ _ _ _ list =>
      exact kept (by rw [staking.rest]) (by rw [list]; rfl) (by rw [list]; rfl)
  | redeemed _ _ _ staking _ _ list =>
      exact kept staking.combinations (by rw [list]; rfl) (by rw [list]; rfl)
  | @bought x recipient combination quote h loterra _ _ _ staking _ list =>
      obtain rfl : loterra = lottery.addr :=
        Account.humanize_ok (delivered.address ▸ staking.lottery)
      obtain ⟨canonical, _, _, priced, _⟩ := Staking.quoteTickets_ok staking.quoted
      have total := Staking.priceTickets_total priced
      have lowered := staking.prev
      refine ⟨wired, address, ⟨_, staking.registered registered, ?_⟩, ?_⟩
      · rw [List.map_append, list]
        simp only [List.flatMap_cons, List.flatMap_nil, ticketsOf, List.nil_append, List.append_nil,
          List.map_map, Option.bind_some, orReject_ok.mp canonical]
        rfl
      · have cost : amounts ticketCoins executed = quote.price.totalTicketCost.val := by
          rw [list]
          simp [amounts, ticketCoins, coins]
        omega

theorem delivered_step (delivered : Delivered dep lottery w tickets paid booked)
    (input : Input χ api) :
    Delivered dep lottery (step out dep w input) (tickets ++ sent out dep w input)
      (paid + flow out dep anyone ticketCoins w input)
      (booked + bookedRewards out dep w input) := by
  have stepped : Stepped out dep w input (step out dep w input) :=
    step_stepped delivered.wired input
  have wired := stepped.wired delivered.wired
  rw [bookedRewards]
  generalize step out dep w input = w' at stepped wired
  cases stepped with
  | refused failed =>
      simp only [sent, flow, failed, List.append_nil, Nat.sub_self, Nat.add_zero]
      exact delivered
  | done ran effect =>
      simp only [sent, flow, ran, anyone, if_true]
      exact effect.delivered delivered
  | newBlock later =>
      simp only [sent, flow, List.append_nil, Nat.sub_self, Nat.add_zero]
      exact delivered.of_same wired rfl
  | oldBlock =>
      simp only [sent, flow, List.append_nil, Nat.sub_self, Nat.add_zero]
      exact delivered
  | outside x =>
      simp only [sent, flow, List.append_nil, Nat.sub_self, Nat.add_zero]
      exact delivered.of_same wired rfl

end Step

section Deployed

variable {deployer : Account api} {msg : Pool.InstantiateMsg} {m : Cw20.InstantiateMsg}
  {block : BlockInfo} {x : χ} {w : World χ} {lottery : Account api}

theorem deploy_lottery (hlottery : api.canonicalize msg.loterraAddress = .ok lottery.raw)
    (deployed : deploy out dep deployer msg block x = .ok w) :
    w.staking =
      .initial ⟨dep.pool.raw, dep.cw20.raw, lottery.raw, "uusd", msg.unbondingPeriod⟩ := by
  obtain ⟨_, _, _, loterra, human, loterra', _, _, _, _, _, hloterra, hhuman, hback, _, rfl⟩ :=
    deploy_exact deployed
  obtain rfl := Except.ok.inj (hlottery.symm.trans hloterra)
  obtain rfl := Account.humanize_ok hhuman
  obtain rfl := Account.canonicalize_ok hback
  rfl

theorem delivered_run (token : msg.messageCw20 = .cw20 m) (empty : m.initialBalances = [])
    (hlottery : api.canonicalize msg.loterraAddress = .ok lottery.raw)
    (deployed : deploy out dep deployer msg block x = .ok w) (inputs : List (Input χ api)) :
    Delivered dep lottery (run (step out dep) w inputs) (deliveries out dep w inputs)
      (flows out dep anyone ticketCoins w inputs)
      (tally (step out dep) (bookedRewards out dep) w inputs) := by
  have initial := deploy_lottery hlottery deployed
  induction inputs using List.reverseRecOn with
  | nil =>
      refine ⟨(deploy_ok token deployed).wired empty, by rw [run_nil, initial]; rfl,
        ⟨[], ⟨List.nodup_nil, fun key => ?_⟩, rfl⟩, ?_⟩
      · rw [run_nil, initial]
        exact iff_of_false Finmap.notMem_empty List.not_mem_nil
      · rw [run_nil, initial]
        exact Nat.le_refl 0
  | append_singleton inputs input ih =>
      simp only [run_snoc, deliveries, history_snoc, flows, tally_snoc]
      exact delivered_step ih input

/-- After any run the tickets that were sent, all of them to the lottery of the
deployment, are the tickets on record, each of them once; and with the coins that went
along, what is left on record is no more than what was booked. -/
theorem tickets_delivered (token : msg.messageCw20 = .cw20 m) (empty : m.initialBalances = [])
    (hlottery : api.canonicalize msg.loterraAddress = .ok lottery.raw)
    (deployed : deploy out dep deployer msg block x = .ok w) (inputs : List (Input χ api)) :
    let w' := run (step out dep) w inputs
    (∃ keys : List Staking.CombinationKey, keys.Nodup ∧
      (∀ key, key ∈ w'.staking.combinations ↔ key ∈ keys) ∧
      deliveries out dep w inputs = keys.map (ticketFor lottery)) ∧
    flows out dep anyone ticketCoins w inputs + w'.staking.state.prevRewardBalance.val ≤
      tally (step out dep) (bookedRewards out dep) w inputs := by
  intro w'
  have delivered := delivered_run token empty hlottery deployed inputs
  obtain ⟨keys, registered, tickets⟩ := delivered.record
  exact ⟨⟨keys, registered.distinct, registered.stored, tickets⟩, delivered.covered⟩

/-- Alice's two tickets are the only ones, and they are on record. -/
theorem alice_tickets_delivered : ∃ (w : World Sample.Reserve)
    (keys : List Staking.CombinationKey),
    deploy Sample.lottery Sample.dep Sample.deployer Sample.msg (Sample.block (.ofNat 1000))
        ⟨0, Sample.rate, Sample.rate_pos⟩ = .ok w ∧
      keys.map (fun key => key.2.2) = ["01", "02"] ∧
      ∀ key, key ∈ (run (step Sample.lottery Sample.dep) w
        (Sample.credited ++ [.transaction Sample.tickets])).staking.combinations ↔ key ∈ keys := by
  obtain ⟨w, deployed, tickets⟩ : ∃ w,
      deploy Sample.lottery Sample.dep Sample.deployer Sample.msg (Sample.block (.ofNat 1000))
          ⟨0, Sample.rate, Sample.rate_pos⟩ = .ok w ∧
        (deliveries Sample.lottery Sample.dep w
          (Sample.credited ++ [.transaction Sample.tickets])).map Ticket.combination =
          ["01", "02"] := by
    decide +kernel
  let loterra : Account Sample.api := ⟨"loterra", Api.raw 6, by decide +kernel, by decide +kernel⟩
  obtain ⟨⟨keys, _, stored, same⟩, _⟩ := tickets_delivered rfl rfl loterra.canonicalize_addr
    deployed (Sample.credited ++ [.transaction Sample.tickets])
  rw [same, List.map_map] at tickets
  exact ⟨w, keys, deployed, tickets, stored⟩

end Deployed
end DogetherContracts.System
