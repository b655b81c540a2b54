import DogetherContracts.Staking.State
import DogetherContracts.Taxation

/-! # Holders' operations

user.rs. A handler returns the storage after the call together with its
response; what it saved before an error is rolled back by the host, so an error
carries no storage. -/
namespace DogetherContracts.Staking
open Checked

/-- calculate the reward based on the sender's index and the global index. -/
def calculateDecimalRewards (globalIndex userIndex : Decimal) (userBalance : Uint128) :
    Except Fault Decimal := do
  let decimalBalance ← Decimal.fromRatio userBalance Uint128.one
  let indexes ← decimalSubtractionIn256 globalIndex userIndex
  decimalMultiplicationIn256 indexes decimalBalance

/-- The two steps with which every handler settles a holder: the reward since
the holder's index, added to the pending rewards. -/
def settledRewards (globalIndex : Decimal) (holder : Holder) : Except Fault Decimal := do
  let rewards ← calculateDecimalRewards globalIndex holder.index holder.balance
  decimalSummationIn256 rewards holder.pendingRewards

/-- The part of a purchase that the holder has no influence on. -/
structure TicketPrice where
  lottery : LoterraConfig
  totalTicketCost : Uint128
  totalFee : Uint128
  totalTicketWithFees : Uint128
  deriving DecidableEq, Repr

/-- Query price per tickets on lottery contract, multiply by the number of
combinations, and add the network fee. -/
def priceTickets (api : Api) (querier : Querier) (config : Config) (combination : List String) :
    Except Fault TicketPrice := do
  let loterra ← api.humanize config.loterraAddr
  let lottery ← orReject (querier.loterraConfig loterra) .query
  let totalTicketCost ←
    Word.narrow .panic (lottery.pricePerTicketToRegister.val * combination.length)
  let totalTicketCostNet ← deductTax querier ⟨config.rewardDenom, totalTicketCost⟩
  let totalFee ← totalTicketCost.sub .panic totalTicketCostNet.amount
  let totalTicketWithFees ← totalTicketCost.add .panic totalFee
  pure ⟨lottery, totalTicketCost, totalFee, totalTicketWithFees⟩

/-- What `handle_get_ticket` has computed once the funds check has passed. -/
structure Quote where
  addrRaw : CanonicalAddr
  rewards : Uint128
  price : TicketPrice
  deriving DecidableEq, Repr

def noRewards : Fault := genericErr "No rewards have accrued yet"

def notEnoughFunds (price : TicketPrice) (rewards : Uint128) : Fault :=
  genericErr ("Not enough funds, you want to buy " ++ price.totalTicketCost.toString ++
    "UST + " ++ price.totalFee.toString ++ "UST network fees tickets and you only have " ++
    rewards.toString ++ "UST")

/-- `handle_get_ticket` up to and including the check for enough rewards. -/
def quoteTickets (api : Api) (querier : Querier) (st : Storage) (recipient : String)
    (combination : List String) : Except Fault Quote := do
  rejectIf (combination = []) (genericErr "No combination found")
  let addrRaw ← api.canonicalize recipient
  let allRewardWithDecimals ← settledRewards st.state.globalIndex (st.readHolder addrRaw)
  let rewards ← allRewardWithDecimals.mulUint Uint128.one
  rejectIf (rewards.val = 0) noRewards
  let price ← priceTickets api querier st.config combination
  rejectIf (rewards < price.totalTicketWithFees) (notEnoughFunds price rewards)
  pure ⟨addrRaw, rewards, price⟩

def alreadyExist (combo : String) : Fault :=
  genericErr ("Combination " ++ combo ++ " already exist")

/-- The check-and-save loop of `handle_get_ticket`. -/
def saveCombinations (counter : Uint64) (addrRaw : CanonicalAddr) :
    Table CombinationKey String → List String → Except Fault (Table CombinationKey String)
  | saved, [] => .ok saved
  | saved, combo :: combination =>
    match saved.lookup (counter, addrRaw, combo) with
    | none => saveCombinations counter addrRaw (saved.insert (counter, addrRaw, combo) combo)
        combination
    | some _ => .error (alreadyExist combo)

def handleGetTicket (api : Api) (querier : Querier) (st : Storage) (recipient : String)
    (combination : List String) : Except Fault (Storage × Response) := do
  let quote ← quoteTickets api querier st recipient combination
  let combinations ← saveCombinations quote.price.lottery.lotteryCounter quote.addrRaw
    st.combinations combination
  let newBalance ← st.state.prevRewardBalance.sub overflow quote.price.totalTicketWithFees
  let left ← quote.rewards.sub .panic quote.price.totalTicketWithFees
  let pendingRewards ← Decimal.fromRatio left Uint128.one
  let address ← api.validate recipient
  let loterra ← api.humanize st.config.loterraAddr
  let holder := st.readHolder quote.addrRaw
  pure ({ st with
      state := { st.state with prevRewardBalance := newBalance }
      holders := st.holders.insert quote.addrRaw
        { holder with index := st.state.globalIndex, pendingRewards }
      combinations },
    Response.new
      |>.addMessage (.execute loterra (.register (some address) none combination)
        [⟨st.config.rewardDenom, quote.price.totalTicketCost⟩])
      |>.addAttribute "action" "get_ticket"
      |>.addAttribute "player_address" recipient
      |>.addAttribute "ticket_number" (Nat.repr combination.length))

def handleBond (api : Api) (info : MessageInfo) (st : Storage) (holderAddr : String)
    (amount : Uint128) : Except Fault (Storage × Response) := do
  rejectIf (info.funds ≠ []) (genericErr "Do not send funds with stake")
  rejectIf (amount.val = 0) (genericErr "Amount required")
  let addressRaw ← api.canonicalize holderAddr
  let holder := st.readHolder addressRaw
  let pendingRewards ← settledRewards st.state.globalIndex holder
  let balance ← holder.balance.add .panic amount
  let totalBalance ← st.state.totalBalance.add .panic amount
  pure ({ st with
      state := { st.state with totalBalance }
      holders := st.holders.insert addressRaw ⟨balance, st.state.globalIndex, pendingRewards⟩ },
    Response.new
      |>.addAttribute "action" "bond_stake"
      |>.addAttribute "holder_address" holderAddr
      |>.addAttribute "amount" amount.toString)

/-- `from_binary` into `ReceiveMsg`. -/
def ReceiveMsg.fromBinary : Binary → Except Fault ReceiveMsg
  | .bondStake => .ok .bondStake
  | .redeemStable | .bytes _ => .error (.std .parseErr)

def handleReceive (api : Api) (info : MessageInfo) (st : Storage) (wrapper : Cw20.Cw20ReceiveMsg) :
    Except Fault (Storage × Response) := do
  -- only loterra cw20 contract can send receive messages
  let token ← api.humanize st.config.cw20TokenAddr
  rejectIf (info.sender ≠ token) (genericErr "only loterra contract can send receive messages")
  match ← ReceiveMsg.fromBinary wrapper.msg with
  | .bondStake => handleBond api info st wrapper.sender wrapper.amount

def handleUnbound (api : Api) (env : Env) (info : MessageInfo) (st : Storage) (amount : Uint128)
    (address : String) : Except Fault (Storage × Response) := do
  let sender ← api.canonicalize info.sender
  rejectIf (st.config.admin ≠ sender) (genericErr "Not authorized")
  let addressRaw ← api.canonicalize address
  rejectIf (info.funds ≠ []) (genericErr "Do not send funds with stake")
  rejectIf (amount.val = 0) (genericErr "Amount required")
  let holder := st.readHolder addressRaw
  rejectIf (holder.balance < amount)
    (genericErr ("Decrease amount cannot exceed user balance: " ++ holder.balance.toString))
  let pendingRewards ← settledRewards st.state.globalIndex holder
  let balance ← holder.balance.sub overflow amount
  let totalBalance ← st.state.totalBalance.sub overflow amount
  let releaseHeight ← env.block.height.add .panic st.config.unbondingPeriod
  pure ({ st with
      state := { st.state with totalBalance }
      holders := st.holders.insert addressRaw ⟨balance, st.state.globalIndex, pendingRewards⟩
      claims := createClaim st.claims addressRaw amount (.atHeight releaseHeight) },
    Response.new
      |>.addAttribute "action" "unbond_stake"
      |>.addAttribute "holder_address" info.sender
      |>.addAttribute "amount" amount.toString)

def handleWithdrawStake (api : Api) (env : Env) (info : MessageInfo) (st : Storage)
    (cap : Option Uint128) (address : String) : Except Fault (Storage × Response) := do
  let sender ← api.canonicalize info.sender
  rejectIf (st.config.admin ≠ sender) (genericErr "Not authorized")
  let addressRaw ← api.canonicalize address
  let (claims, amount) ← claimTokens st.claims addressRaw env.block cap
  rejectIf (amount.val = 0) (genericErr "Wait for the unbonding period")
  let cw20HumanAddr ← api.humanize st.config.cw20TokenAddr
  pure ({ st with claims },
    Response.new
      |>.addMessage (.execute cw20HumanAddr (.cw20 (.burn amount)) [])
      |>.addAttribute "action" "withdraw_stake"
      |>.addAttribute "recipient" address
      |>.addAttribute "withdraw" amount.toString)

def queryAccruedRewards (api : Api) (st : Storage) (address : String) : Except Fault Uint128 := do
  let addressRaw ← api.canonicalize address
  let allRewardWithDecimals ← settledRewards st.state.globalIndex (st.readHolder addressRaw)
  allRewardWithDecimals.mulUint Uint128.one

/-- A settlement succeeds when the index is not ahead, the balance has a decimal
form and the result fits; it then is what the holder is owed. -/
theorem settledRewards_ok {globalIndex d : Decimal} {holder : Holder} :
    settledRewards globalIndex holder = .ok d ↔ holder.index.val ≤ globalIndex.val ∧
      holder.balance.val * 10 ^ 18 < 2 ^ 128 ∧ d.val = holder.position.accrued globalIndex.val := by
  have scaled (k b : ℕ) : k * (b * 10 ^ 18) / 10 ^ 18 = k * b := by
    rw [← Nat.mul_assoc, Nat.mul_div_cancel _ (by norm_num)]
  simp only [settledRewards, calculateDecimalRewards, bind_ok, Decimal.fromRatio_ok,
    decimalSubtractionIn256_ok, decimalMultiplicationIn256_ok, decimalSummationIn256_ok,
    Uint128.val_one, LazyIndex.Position.accrued, Holder.position]
  constructor
  · rintro ⟨reward, ⟨balance, ⟨_, hbalance⟩, difference, hdifference, hreward⟩, hd⟩
    rw [Nat.div_one] at hbalance
    rw [hbalance, scaled] at hreward
    have behind : globalIndex.val - holder.index.val = difference.val := by omega
    have fits := balance.lt
    rw [hbalance] at fits
    exact ⟨by omega, fits, by rw [hd, hreward, behind, Nat.add_comm]⟩
  · rintro ⟨behind, fits, hd⟩
    have top := globalIndex.lt
    have sum := d.lt
    refine ⟨⟨⟨(globalIndex.val - holder.index.val) * holder.balance.val, by omega⟩⟩,
      ⟨⟨⟨holder.balance.val * 10 ^ 18, fits⟩⟩, ⟨by norm_num, (Nat.div_one _).symm⟩,
        ⟨⟨globalIndex.val - holder.index.val, by omega⟩⟩, by simp only; omega, ?_⟩, ?_⟩
    · exact (scaled _ _).symm
    · rw [hd, Nat.add_comm]

theorem settledRewards_failsWith (globalIndex : Decimal) (holder : Holder) :
    FailsWith (settledRewards globalIndex holder) .panic := by
  have calculated : FailsWith (calculateDecimalRewards globalIndex holder.index holder.balance)
      .panic :=
    (Decimal.fromRatio_failsWith _ _).bind fun _ _ =>
      (decimalSubtractionIn256_failsWith _ _).bind fun _ _ =>
        decimalMultiplicationIn256_failsWith _ _
  exact calculated.bind fun _ _ => decimalSummationIn256_failsWith _ _

theorem priceTickets_total {api : Api} {querier : Querier} {config : Config}
    {combination : List String} {price : TicketPrice}
    (h : priceTickets api querier config combination = .ok price) :
    price.totalTicketWithFees.val = price.totalTicketCost.val + price.totalFee.val := by
  simp only [priceTickets, bind_ok, Word.add_ok, pure_ok] at h
  obtain ⟨_, _, _, _, _, _, _, _, _, _, _, total, rfl⟩ := h
  exact total

end DogetherContracts.Staking
