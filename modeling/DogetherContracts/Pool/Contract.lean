import DogetherContracts.CosmWasm.Message
import DogetherContracts.Math
import DogetherContracts.Taxation

/-! # The dogether contract

state.rs and contract.rs of dogether: deposits into Anchor, withdrawals through
the staking contract, and the redemption of earnings. -/
namespace DogetherContracts.Pool
open Checked

structure Config where
  admin : CanonicalAddr
  denom : String
  moneyMarketAddress : CanonicalAddr
  anchorAustAddress : CanonicalAddr
  codeIdStaking : Uint64
  labelStaking : String
  unbondingPeriod : Uint64
  loterraAddress : CanonicalAddr
  deriving DecidableEq, Repr

structure State where
  stakingAddress : CanonicalAddr
  cw20Address : CanonicalAddr
  drawPeriod : Uint64
  nextDraw : Uint64
  totalUstPool : Uint128
  deriving DecidableEq, Repr

structure Storage where
  config : Config
  state : State
  deriving DecidableEq, Repr

/-- `ContractResult` of a reply: the events of the submessage, or its error. -/
inductive ContractResult where
  | ok (events : List Event)
  | err (error : String)
  deriving DecidableEq, Repr

def instantiate (api : Api) (env : Env) (info : MessageInfo) (msg : InstantiateMsg) :
    Except Fault (Storage × Response) := do
  let admin ← api.canonicalize info.sender
  let moneyMarketAddress ← api.canonicalize msg.moneyMarketAddress
  let anchorAustAddress ← api.canonicalize msg.anchorAustAddress
  let loterraAddress ← api.canonicalize msg.loterraAddress
  pure (⟨⟨admin, "uusd", moneyMarketAddress, anchorAustAddress, msg.codeIdStaking,
      msg.labelStaking, msg.unbondingPeriod, loterraAddress⟩,
      ⟨admin, admin, msg.drawPeriod, msg.nextDraw, 0⟩⟩,
    Response.new
      |>.addSubmessage
        (.instantiate (some env.contract) msg.codeIdCw20 msg.messageCw20 [] msg.labelCw20) 0
      |>.addAttribute "instantiate" "Dogether"
      |>.addAttribute "instantiate_cw20" "Dogether cw20"
      |>.addAttribute "instantiate_staking" "Dogether staking")

def sentAmount (denom : String) : List Coin → Except Fault Uint128
  | [] => .error (.pool .emptyFunds)
  | [coin] => do
    rejectIf (coin.denom ≠ denom) (.pool .wrongDenom)
    pure coin.amount
  | _ => .error (.pool .multipleDenoms)

/-- Deposit stable coin to anchor, bond the net amount for the sender, and add it
to the pool. The source deducts the tax three times from the same coin. -/
def tryPool (api : Api) (querier : Querier) (info : MessageInfo) (st : Storage) :
    Except Fault (Storage × Response) := do
  let sent ← sentAmount st.config.denom info.funds
  let moneyMarket ← api.humanize st.config.moneyMarketAddress
  let net ← deductTax querier ⟨st.config.denom, sent⟩
  let staking ← api.humanize st.state.stakingAddress
  let cw20 ← api.humanize st.state.cw20Address
  let totalUstPool ← st.state.totalUstPool.add .panic net.amount
  pure ({ st with state := { st.state with totalUstPool } },
    Response.new
      |>.addMessage (.execute moneyMarket .depositStable [net])
      |>.addMessage
        (.execute cw20 (.cw20 (.bond staking net.amount .bondStake info.sender)) []))

def tryUnPool (api : Api) (info : MessageInfo) (st : Storage) (amount : Uint128) :
    Except Fault (Storage × Response) := do
  rejectIf (amount.val = 0) (.pool .emptyAmount)
  let staking ← api.humanize st.state.stakingAddress
  pure (st, Response.new
    |>.addMessage (.execute staking (.staking (.unbondStake amount info.sender)) []))

def tryClaimUnPool (api : Api) (info : MessageInfo) (st : Storage) :
    Except Fault (Storage × Response) := do
  let staking ← api.humanize st.state.stakingAddress
  pure (st, Response.new
    |>.addSubmessage (.execute staking (.staking (.withdrawStake none info.sender)) []) 2)

/-- `Decimal::from(Decimal256::from_ratio(ust, rate)) * 1`: the whole aUST units
that `ust` buys at the exchange rate. -/
def wholeAust (ust : Decimal) (exchangeRate : Decimal256) : Except Fault Uint128 := do
  let ratio ← Decimal256.fromRatio (Decimal256.ofDecimal ust).toWord exchangeRate.toWord
  let aust ← ratio.toDecimal
  aust.mulUint Uint128.one

/-- The aUST amount that `withdraw_reply` redeems for an amount of principal. -/
def principalToAust (amount : Uint128) (exchangeRate : Decimal256) : Except Fault Uint128 := do
  let ust ← Decimal.fromRatio amount Uint128.one
  wholeAust ust exchangeRate

/-- The interest accrued on the aUST balance: what it is worth over the pool. -/
def interestAccruedUst (totalUstPool aust : Uint128) (exchangeRate : Decimal256) :
    Except Fault Decimal := do
  let totalUstPool ← Decimal.fromRatio totalUstPool Uint128.one
  let totalAustBalance ← Decimal.fromRatio aust Uint128.one
  let rate ← exchangeRate.toDecimal
  let totalAustToUst ← decimalMultiplicationIn256 totalAustBalance rate
  decimalSubtractionIn256 totalAustToUst totalUstPool

/-- `checked_add(..).unwrap_or(..)`: fall back to the first amount on overflow. -/
def addOrKeep (amount balance : Uint128) : Uint128 :=
  match amount.add Fault.panic balance with
  | .ok sum => sum
  | .error _ => amount

def tryRedeemEarning (api : Api) (querier : Querier) (env : Env) (info : MessageInfo)
    (st : Storage) : Except Fault (Storage × Response) := do
  rejectIf (info.funds ≠ []) (.pool .doNotSendFunds)
  rejectIf (env.block.seconds < st.state.nextDraw.val)
    (.pool (.retryRedeemLater st.state.nextDraw.val))
  let moneyMarket ← api.humanize st.config.moneyMarketAddress
  let exchangeRate ← orReject (querier.epochState moneyMarket) .query
  let aust ← api.humanize st.config.anchorAustAddress
  let balanceAust ← orReject (querier.cw20Balance aust env.contract) .query
  let interestAccrued ← interestAccruedUst st.state.totalUstPool balanceAust exchangeRate
  let interestToWithdraw ← wholeAust interestAccrued exchangeRate
  let interestWhole ← interestAccrued.mulUint Uint128.one
  let precisionAmountToSend ← deductTax querier ⟨st.config.denom, interestWhole⟩
  let balance ← orReject (querier.balance env.contract st.config.denom) .query
  let staking ← api.humanize st.state.stakingAddress
  let earnings ← deductTax querier
    ⟨st.config.denom, addOrKeep precisionAmountToSend.amount balance⟩
  let nextDraw ← st.state.nextDraw.add .panic st.state.drawPeriod
  pure ({ st with state := { st.state with nextDraw } },
    Response.new
      |>.addMessage (.execute aust (.send moneyMarket interestToWithdraw .redeemStable) [])
      |>.addMessage (.execute staking (.staking .updateGlobalIndex) [earnings]))

def execute (api : Api) (querier : Querier) (env : Env) (info : MessageInfo) (st : Storage) :
    ExecuteMsg → Except Fault (Storage × Response)
  | .pool => tryPool api querier info st
  | .unPool amount => tryUnPool api info st amount
  | .claimUnPool => tryClaimUnPool api info st
  | .redeemEarning => tryRedeemEarning api querier env info st

/-! Replies. -/

def findAttribute (key : String) (attributes : List Attribute) : Option String :=
  (attributes.find? fun attr => attr.key = key).map (·.value)

/-- The value of an attribute of the first event of a type. -/
def findInEvents (ty key : String) (events : List Event) : Option String :=
  (events.find? fun e => e.ty = ty).bind fun ev => findAttribute key ev.attributes

def cw20InstanceReply (api : Api) (env : Env) (st : Storage) :
    ContractResult → Except Fault (Storage × Response)
  | .ok events => do
    let contractAddress ←
      orReject (findInEvents "instantiate_contract" "contract_address" events) .panic
    let cw20Address ← api.canonicalize contractAddress
    let loterraAddr ← api.humanize st.config.loterraAddress
    pure ({ st with state := { st.state with cw20Address } },
      Response.new
        |>.addSubmessage (.instantiate (some env.contract) st.config.codeIdStaking
          (.staking ⟨contractAddress, loterraAddr, st.config.denom, st.config.unbondingPeriod⟩) []
          st.config.labelStaking) 1
        |>.addAttribute "cw20-address" contractAddress
        |>.addAttribute "cw20-instantiate" "success")
  | .err _ => .error (.pool .unauthorized)

def stakingInstanceReply (api : Api) (st : Storage) :
    ContractResult → Except Fault (Storage × Response)
  | .ok events => do
    let contractAddress ←
      orReject (findInEvents "instantiate_contract" "contract_address" events) .panic
    let stakingAddress ← api.canonicalize contractAddress
    pure ({ st with state := { st.state with stakingAddress } },
      Response.new
        |>.addAttribute "staking-address" contractAddress
        |>.addAttribute "staking-instantiate" "success")
  | .err _ => .error (.pool .unauthorized)

def withdrawReply (api : Api) (querier : Querier) (st : Storage) :
    ContractResult → Except Fault (Storage × Response)
  | .ok events => do
    let wasm ← orReject (events.find? fun e => e.ty = "wasm") .panic
    let withdrawing ← orReject (findAttribute "withdraw" wasm.attributes) .panic
    let amountToWithdrawInUst ← Uint128.parse withdrawing
    let moneyMarket ← api.humanize st.config.moneyMarketAddress
    let exchangeRate ← orReject (querier.epochState moneyMarket) .query
    let interestToWithdraw ← principalToAust amountToWithdrawInUst exchangeRate
    let aust ← api.humanize st.config.anchorAustAddress
    let totalUstPool ← st.state.totalUstPool.sub .panic amountToWithdrawInUst
    let growAmount ← deductTax querier ⟨st.config.denom, amountToWithdrawInUst⟩
    let netAmount ← deductTax querier ⟨st.config.denom, growAmount.amount⟩
    let recipient ← orReject (findAttribute "recipient" wasm.attributes) .panic
    pure ({ st with state := { st.state with totalUstPool } },
      Response.new
        |>.addMessage (.execute aust (.send moneyMarket interestToWithdraw .redeemStable) [])
        |>.addMessage (.bankSend recipient [netAmount])
        |>.addAttribute "withdraw" netAmount.amount.toString
        |>.addAttribute "status" "success")
  | .err _ => .error (.pool .unauthorized)

def reply (api : Api) (querier : Querier) (env : Env) (st : Storage) (id : ℕ)
    (result : ContractResult) : Except Fault (Storage × Response) :=
  match id with
  | 0 => cw20InstanceReply api env st result
  | 1 => stakingInstanceReply api st result
  | 2 => withdrawReply api querier st result
  | _ => .error (.pool .unauthorized)

/-! Queries. -/

structure StateResponse where
  stakingAddress : Addr
  cw20Address : Addr
  drawPeriod : Uint64
  nextDraw : Uint64
  totalUstPool : Uint128
  deriving DecidableEq, Repr

structure ConfigResponse where
  admin : Addr
  denom : String
  moneyMarketAddress : Addr
  anchorAustAddress : Addr
  unbondingPeriod : Uint64
  loterraAddress : Addr
  deriving DecidableEq, Repr

def queryState (api : Api) (st : Storage) : Except Fault StateResponse := do
  let stakingAddress ← api.humanize st.state.stakingAddress
  let cw20Address ← api.humanize st.state.cw20Address
  pure ⟨stakingAddress, cw20Address, st.state.drawPeriod, st.state.nextDraw,
    st.state.totalUstPool⟩

def queryConfig (api : Api) (st : Storage) : Except Fault ConfigResponse := do
  let admin ← api.humanize st.config.admin
  let moneyMarketAddress ← api.humanize st.config.moneyMarketAddress
  let anchorAustAddress ← api.humanize st.config.anchorAustAddress
  let loterraAddress ← api.humanize st.config.loterraAddress
  pure ⟨admin, st.config.denom, moneyMarketAddress, anchorAustAddress, st.config.unbondingPeriod,
    loterraAddress⟩

end DogetherContracts.Pool
