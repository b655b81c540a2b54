import DogetherContracts.CosmWasm.Host

/-! # Messages

The messages of the three contracts (msg.rs of each), of Anchor and of the
lottery, and the response with which a contract emits them. JSON encoding is
taken as faithful: a message on the wire is the value it encodes, and a contract
that receives a message of another contract fails to parse it. -/
namespace DogetherContracts

/-- The payload a cw20 token hands on: `to_binary` of a hook message, or bytes
that encode none of them. -/
inductive Binary where
  | bondStake
  | redeemStable
  | bytes (raw : List (Fin 256))
  deriving DecidableEq, Repr

namespace Cw20

structure Cw20Coin where
  address : String
  amount : Uint128
  deriving DecidableEq, Repr

structure InstantiateMsg where
  name : String
  symbol : String
  decimals : Word 8
  initialBalances : List Cw20Coin
  deriving DecidableEq, Repr

inductive ExecuteMsg where
  | burn (amount : Uint128)
  | bond (contract : String) (amount : Uint128) (msg : Binary) (recipient : String)
  deriving DecidableEq, Repr

structure Cw20ReceiveMsg where
  sender : String
  amount : Uint128
  msg : Binary
  deriving DecidableEq, Repr

end Cw20

namespace Staking

structure InstantiateMsg where
  cw20TokenAddr : Addr
  loterraAddr : Addr
  rewardDenom : String
  unbondingPeriod : Uint64
  deriving DecidableEq, Repr

inductive ExecuteMsg where
  | updateGlobalIndex
  | unbondStake (amount : Uint128) (address : String)
  | withdrawStake (cap : Option Uint128) (address : String)
  | receive (msg : Cw20.Cw20ReceiveMsg)
  | getTicket (recipient : String) (combination : List String)
  deriving DecidableEq, Repr

inductive ReceiveMsg where
  | bondStake
  deriving DecidableEq, Repr

end Staking

/-- What the cw20 instantiation message of the deployer, or dogether itself,
sends to a code id. -/
inductive InitMsg where
  | cw20 (msg : Cw20.InstantiateMsg)
  | staking (msg : Staking.InstantiateMsg)
  | bytes (raw : List (Fin 256))
  deriving DecidableEq, Repr

namespace Pool

structure InstantiateMsg where
  codeIdCw20 : Uint64
  messageCw20 : InitMsg
  labelCw20 : String
  codeIdStaking : Uint64
  labelStaking : String
  moneyMarketAddress : String
  anchorAustAddress : String
  nextDraw : Uint64
  drawPeriod : Uint64
  unbondingPeriod : Uint64
  loterraAddress : String
  deriving DecidableEq, Repr

inductive ExecuteMsg where
  | pool
  | unPool (amount : Uint128)
  | claimUnPool
  | redeemEarning
  deriving DecidableEq, Repr

end Pool

/-- A message as it travels to some contract. -/
inductive ExecMsg where
  | pool (msg : Pool.ExecuteMsg)
  | cw20 (msg : Cw20.ExecuteMsg)
  | staking (msg : Staking.ExecuteMsg)
  | depositStable
  | send (contract : Addr) (amount : Uint128) (msg : Binary)
  | register (address : Option Addr) (alteredBonus : Option Bool) (combination : List String)
  deriving DecidableEq, Repr

inductive CosmosMsg where
  | execute (contractAddr : Addr) (msg : ExecMsg) (funds : List Coin)
  | instantiate (admin : Option Addr) (codeId : Uint64) (msg : InitMsg) (funds : List Coin)
      (label : String)
  | bankSend (toAddress : Addr) (amount : List Coin)
  deriving DecidableEq, Repr

/-- A message to run, and the id of the reply to run when it succeeds. -/
structure SubMsg where
  msg : CosmosMsg
  replyOnSuccess : Option ℕ
  deriving DecidableEq, Repr

structure Response where
  messages : List SubMsg
  attributes : List Attribute
  deriving DecidableEq, Repr

namespace Response

def new : Response := ⟨[], []⟩

def addMessage (r : Response) (msg : CosmosMsg) : Response :=
  { r with messages := r.messages ++ [⟨msg, none⟩] }

def addSubmessage (r : Response) (msg : CosmosMsg) (id : ℕ) : Response :=
  { r with messages := r.messages ++ [⟨msg, some id⟩] }

def addAttribute (r : Response) (key value : String) : Response :=
  { r with attributes := r.attributes ++ [⟨key, value⟩] }

end Response

end DogetherContracts
