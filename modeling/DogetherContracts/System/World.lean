import DogetherContracts.Cw20.Contract
import DogetherContracts.Pool.Contract
import DogetherContracts.Staking.Contract

/-! # The deployed system

The three contracts in one world. The host runs the messages of a response in
order, depth first, and hands the events of a submessage to the reply that waits
for it; a transaction that fails anywhere is undone. Bank, Anchor, lottery and all
other accounts are outside: they answer queries, take transfers and execute the
messages sent to them, and they do not call back. -/
namespace DogetherContracts.System
open Checked

structure Outside (χ : Type) where
  querier : χ → Querier
  transfer : Addr → Addr → List Coin → χ → Except Fault χ
  execute : Addr → Addr → ExecMsg → List Coin → χ → Except Fault (χ × List Event)

/-- The accounts of the three contracts. -/
structure Deployment (api : Api) where
  pool : Account api
  cw20 : Account api
  staking : Account api
  pool_ne_cw20 : pool.addr ≠ cw20.addr
  pool_ne_staking : pool.addr ≠ staking.addr
  cw20_ne_staking : cw20.addr ≠ staking.addr

structure World (χ : Type) where
  pool : Pool.Storage
  cw20 : Cw20.Storage
  staking : Staking.Storage
  block : BlockInfo
  outside : χ

inductive Call where
  | message (sender : Addr) (msg : CosmosMsg)
  | reply (contract : Addr) (id : ℕ) (events : List Event)

/-- What a call leaves behind besides the world: its events, and all messages
executed on the way, in order, with their senders. -/
structure Receipt where
  events : List Event
  executed : List (Addr × CosmosMsg)

namespace Receipt

def empty : Receipt := ⟨[], []⟩

def append (r s : Receipt) : Receipt := ⟨r.events ++ s.events, r.executed ++ s.executed⟩

end Receipt

def Call.executed : Call → List (Addr × CosmosMsg)
  | .message sender msg => [(sender, msg)]
  | .reply _ _ _ => []

/-- The state of a call after the contract's own code has run. -/
structure Entered (χ : Type) where
  world : World χ
  self : Addr
  messages : List SubMsg
  events : List Event

/-- The event of a contract's attributes; there is none without attributes. -/
def wasmEvents (contract : Addr) (attributes : List Attribute) : List Event :=
  if attributes = [] then [] else [⟨"wasm", ⟨"contract_address", contract⟩ :: attributes⟩]

def parseError : Fault := .std .parseErr

def asPool : ExecMsg → Except Fault Pool.ExecuteMsg
  | .pool msg => .ok msg
  | _ => .error parseError

def asCw20 : ExecMsg → Except Fault Cw20.ExecuteMsg
  | .cw20 msg => .ok msg
  | _ => .error parseError

def asStaking : ExecMsg → Except Fault Staking.ExecuteMsg
  | .staking msg => .ok msg
  | _ => .error parseError

section Host

variable {χ : Type} {api : Api} (out : Outside χ) (dep : Deployment api)

def ours (a : Addr) : Prop := a = dep.pool.addr ∨ a = dep.cw20.addr ∨ a = dep.staking.addr

instance (a : Addr) : Decidable (ours dep a) := inferInstanceAs (Decidable (_ ∨ _ ∨ _))

/-- Move the funds, then run the contract's entry point. -/
def enterExecute (sender target : Addr) (msg : ExecMsg) (funds : List Coin) (w : World χ) :
    Except Fault (Entered χ) := do
  let outside ← out.transfer sender target funds w.outside
  let env : Env := ⟨w.block, target⟩
  let info : MessageInfo := ⟨sender, funds⟩
  if target = dep.pool.addr then
    let msg ← asPool msg
    let (pool, res) ← Pool.execute api (out.querier outside) env info w.pool msg
    pure ⟨{ w with pool, outside }, target, res.messages, wasmEvents target res.attributes⟩
  else if target = dep.cw20.addr then
    let msg ← asCw20 msg
    let (cw20, res) ← Cw20.execute api info w.cw20 msg
    pure ⟨{ w with cw20, outside }, target, res.messages, wasmEvents target res.attributes⟩
  else if target = dep.staking.addr then
    let msg ← asStaking msg
    let (staking, res) ← Staking.execute api w.staking ⟨out.querier outside, env, info, msg⟩
    pure ⟨{ w with staking, outside }, target, res.messages, wasmEvents target res.attributes⟩
  else
    let (outside, events) ← out.execute sender target msg funds outside
    pure ⟨{ w with outside }, target, [], events⟩

def enter (w : World χ) : Call → Except Fault (Entered χ)
  | .message sender (.execute target msg funds) => enterExecute out dep sender target msg funds w
  | .message sender (.bankSend toAddress amount) => do
    let outside ← out.transfer sender toAddress amount w.outside
    pure ⟨{ w with outside }, toAddress, [], []⟩
  | .message _ (.instantiate _ _ _ _ _) => .error (.chain "the system is already deployed")
  | .reply contract id events => do
    rejectIf (contract ≠ dep.pool.addr) (.chain "no reply entry point")
    let (pool, res) ← Pool.reply api (out.querier w.outside) ⟨w.block, contract⟩ w.pool id
      (.ok events)
    pure ⟨{ w with pool }, contract, res.messages, wasmEvents contract res.attributes⟩

/-- The messages of one response, each followed by its reply. -/
def runMessages (exec : Call → World χ → Except Fault (World χ × Receipt)) (self : Addr) :
    List SubMsg → World χ → Except Fault (World χ × Receipt)
  | [], w => .ok (w, .empty)
  | sub :: messages, w => do
    let (w, receipt) ← exec (.message self sub.msg) w
    let (w, replied) ← match sub.replyOnSuccess with
      | none => .ok (w, .empty)
      | some id => exec (.reply self id receipt.events) w
    let (w, rest) ← runMessages exec self messages w
    pure (w, (receipt.append replied).append rest)

/-- A call with everything it sets off; `gas` bounds the nesting. -/
def runCall : ℕ → Call → World χ → Except Fault (World χ × Receipt)
  | 0, _, _ => .error (.chain "out of gas")
  | gas + 1, call, w => do
    let entered ← enter out dep w call
    let (w, receipt) ← runMessages (runCall gas) entered.self entered.messages entered.world
    pure (w, ⟨entered.events ++ receipt.events, call.executed ++ receipt.executed⟩)

/-! Transactions and runs. -/

/-- A signed message to one of the contracts. The sender is an account in normal
form, and contracts do not sign. -/
structure Tx (api : Api) where
  sender : Account api
  contract : Addr
  msg : ExecMsg
  funds : List Coin
  gas : ℕ

def runTx (w : World χ) (tx : Tx api) : Except Fault (World χ × Receipt) := do
  rejectIf (ours dep tx.sender.addr) (.chain "a contract does not sign")
  rejectIf (¬ ours dep tx.contract) (.chain "not a contract of the system")
  runCall out dep tx.gas (.message tx.sender.addr (.execute tx.contract tx.msg tx.funds)) w

inductive Input (χ : Type) (api : Api) where
  | transaction (tx : Tx api)
  | newBlock (block : BlockInfo)
  | outside (x : χ)

/-- A failed transaction changes nothing, heights never decrease, and anything
may happen outside between transactions. -/
def step (w : World χ) : Input χ api → World χ
  | .transaction tx =>
    match runTx out dep w tx with
    | .ok (w', _) => w'
    | .error _ => w
  | .newBlock block => if w.block.height ≤ block.height then { w with block } else w
  | .outside x => { w with outside := x }

/-! Deployment: dogether is instantiated, its replies instantiate the other two. -/

def instantiateEvent (contract : Addr) : Event :=
  ⟨"instantiate_contract", [⟨"contract_address", contract⟩]⟩

def deploy (deployer : Account api) (msg : Pool.InstantiateMsg) (block : BlockInfo) (x : χ) :
    Except Fault (World χ) := do
  let env : Env := ⟨block, dep.pool.addr⟩
  let (pool, res) ← Pool.instantiate api env ⟨deployer.addr, []⟩ msg
  match res.messages with
  | [⟨.instantiate _ _ (.cw20 msg) _ _, some id⟩] => do
    let (cw20, _) ← Cw20.instantiate api ⟨dep.pool.addr, []⟩ msg
    let (pool, res) ← Pool.reply api (out.querier x) env pool id
      (.ok [instantiateEvent dep.cw20.addr])
    match res.messages with
    | [⟨.instantiate _ _ (.staking msg) _ _, some id⟩] => do
      let (staking, _) ← Staking.instantiate api ⟨dep.pool.addr, []⟩ msg
      let (pool, _) ← Pool.reply api (out.querier x) env pool id
        (.ok [instantiateEvent dep.staking.addr])
      pure ⟨pool, cw20, staking, block, x⟩
    | _ => .error parseError
  | _ => .error parseError

end Host
end DogetherContracts.System
