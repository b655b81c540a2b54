import DogetherContracts.Staking.User
import DogetherContracts.Lib.Run

/-! # The staking contract

global.rs and contract.rs, and the machine they make: a call either goes through
or leaves the storage as it was. -/
namespace DogetherContracts.Staking
open Checked

/-- Increase the global index according to the rewards claimed since the last
update: what the contract's balance in the reward denom grew by. -/
def handleUpdateGlobalIndex (api : Api) (querier : Querier) (env : Env) (info : MessageInfo)
    (st : Storage) : Except Fault (Storage × Response) := do
  let sender ← api.canonicalize info.sender
  rejectIf (st.config.admin ≠ sender) (genericErr "Not authorized")
  rejectIf (st.state.totalBalance.val = 0) (genericErr "No asset is bonded by Hub")
  let balance ← orReject (querier.balance env.contract st.config.rewardDenom) .panic
  let claimedRewards ← balance.sub overflow st.state.prevRewardBalance
  let perBalance ← Decimal.fromRatio claimedRewards st.state.totalBalance
  let globalIndex ← decimalSummationIn256 st.state.globalIndex perBalance
  pure ({ st with state := { st.state with globalIndex, prevRewardBalance := balance } },
    Response.new
      |>.addAttribute "action" "update_global_index"
      |>.addAttribute "claimed_rewards" claimedRewards.toString)

def instantiate (api : Api) (info : MessageInfo) (msg : InstantiateMsg) :
    Except Fault (Storage × Response) := do
  let admin ← api.canonicalize info.sender
  let cw20TokenAddr ← api.canonicalize msg.cw20TokenAddr
  let loterraAddr ← api.canonicalize msg.loterraAddr
  pure (.initial ⟨admin, cw20TokenAddr, loterraAddr, msg.rewardDenom, msg.unbondingPeriod⟩, .new)

/-- One call as the host makes it: the answers to its queries, the block, the
caller and the message. -/
structure Call where
  querier : Querier
  env : Env
  info : MessageInfo
  msg : ExecuteMsg

def execute (api : Api) (st : Storage) (call : Call) : Except Fault (Storage × Response) :=
  match call.msg with
  | .getTicket recipient combination => handleGetTicket api call.querier st recipient combination
  | .updateGlobalIndex => handleUpdateGlobalIndex api call.querier call.env call.info st
  | .unbondStake amount address => handleUnbound api call.env call.info st amount address
  | .withdrawStake cap address => handleWithdrawStake api call.env call.info st cap address
  | .receive wrapper => handleReceive api call.info st wrapper

structure ConfigResponse where
  admin : Addr
  cw20TokenAddr : Addr
  rewardDenom : String
  unbondingPeriod : Uint64
  deriving DecidableEq, Repr

structure StateResponse where
  globalIndex : Decimal
  totalBalance : Uint128
  prevRewardBalance : Uint128
  deriving DecidableEq, Repr

def queryConfig (api : Api) (st : Storage) : Except Fault ConfigResponse := do
  let admin ← api.humanize st.config.admin
  let cw20TokenAddr ← api.humanize st.config.cw20TokenAddr
  pure ⟨admin, cw20TokenAddr, st.config.rewardDenom, st.config.unbondingPeriod⟩

def queryState (st : Storage) : StateResponse :=
  ⟨st.state.globalIndex, st.state.totalBalance, st.state.prevRewardBalance⟩

def step (api : Api) (st : Storage) (call : Call) : Storage :=
  match execute api st call with
  | .ok (st', _) => st'
  | .error _ => st

def succeeds (api : Api) (st : Storage) (call : Call) : Bool := (execute api st call).isOk

theorem step_error {api : Api} {st : Storage} {call : Call} {e : Fault}
    (h : execute api st call = .error e) : step api st call = st := by
  rw [step, h]

theorem step_ok {api : Api} {st st' : Storage} {call : Call} {res : Response}
    (h : execute api st call = .ok (st', res)) : step api st call = st' := by
  rw [step, h]

theorem succeeds_error {api : Api} {st : Storage} {call : Call} {e : Fault}
    (h : execute api st call = .error e) : succeeds api st call = false := by
  rw [succeeds, h]
  rfl

theorem succeeds_iff {api : Api} {st : Storage} {call : Call} :
    succeeds api st call = true ↔ ∃ r, execute api st call = .ok r := by
  unfold succeeds
  cases execute api st call <;> simp [Except.isOk, Except.toBool]

/-! A small contract with its calls, for concrete runs. The tax is 1 % with a cap
of 1 UST, and a ticket costs `price`. -/
namespace Sample

def api : Api := Api.book ["admin", "token", "loterra", "staking", "alice", "bob"]

def config : Config := ⟨Api.raw 0, Api.raw 1, Api.raw 2, "uusd", ⟨100, by norm_num⟩⟩

def querier (balance price : Uint128) : Querier where
  taxRate := some ⟨⟨10 ^ 16, by norm_num⟩⟩
  taxCap _ := some ⟨10 ^ 6, by norm_num⟩
  balance _ _ := some balance
  loterraConfig _ := some ⟨price, ⟨7, by norm_num⟩⟩
  epochState _ := none
  cw20Balance _ _ := none

def env : Env := ⟨⟨⟨1000, by norm_num⟩, ⟨0, by norm_num⟩⟩, "staking"⟩

def bond (holder : Addr) (amount : Uint128) : Call :=
  ⟨querier 0 0, env, ⟨"token", []⟩, .receive ⟨holder, amount, .bondStake⟩⟩

def unbond (holder : Addr) (amount : Uint128) : Call :=
  ⟨querier 0 0, env, ⟨"admin", []⟩, .unbondStake amount holder⟩

def update (balance : Uint128) : Call :=
  ⟨querier balance 0, env, ⟨"admin", []⟩, .updateGlobalIndex⟩

def buy (holder : Addr) (price : Uint128) (combination : List String) : Call :=
  ⟨querier 0 price, env, ⟨holder, []⟩, .getTicket holder combination⟩

end Sample
end DogetherContracts.Staking
