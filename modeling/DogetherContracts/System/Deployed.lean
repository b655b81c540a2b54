import DogetherContracts.Pool.Effects
import DogetherContracts.System.World

/-! # A completed deployment

Instantiating dogether, and then the other two from its replies, leaves three
contracts that know each other and hold nothing. -/
namespace DogetherContracts.Cw20
open Checked

/-- A token created without balances: dogether is its minter, and nobody holds any. -/
theorem instantiate_empty {api : Api} {info : MessageInfo} {msg : InstantiateMsg} {st : Storage}
    {res : Response} (empty : msg.initialBalances = [])
    (h : instantiate api info msg = .ok (st, res)) :
    st.tokenInfo.mint = some ⟨info.sender, none⟩ ∧ st.tokenInfo.totalSupply = 0 ∧
      st.balances = ∅ := by
  simp only [instantiate, empty, createAccounts, bind_ok, pure_ok, Prod.mk.injEq] at h
  obtain ⟨_, _, created, hcreated, rfl, _⟩ := h
  cases hcreated
  exact ⟨rfl, rfl, rfl⟩

end DogetherContracts.Cw20

namespace DogetherContracts.Staking
open Checked

theorem instantiate_ok {api : Api} {info : MessageInfo} {msg : InstantiateMsg} {st : Storage}
    {res : Response} (h : instantiate api info msg = .ok (st, res)) :
    ∃ admin token loterra, api.canonicalize info.sender = .ok admin ∧
      api.canonicalize msg.cw20TokenAddr = .ok token ∧
      st = .initial ⟨admin, token, loterra, msg.rewardDenom, msg.unbondingPeriod⟩ := by
  simp only [instantiate, bind_ok, pure_ok, Prod.mk.injEq] at h
  obtain ⟨admin, hadmin, token, htoken, loterra, _, rfl, _⟩ := h
  exact ⟨admin, token, loterra, hadmin, htoken, rfl⟩

end DogetherContracts.Staking

namespace DogetherContracts.System
open Checked

section Deployment

variable {χ : Type} {api : Api} {out : Outside χ} {dep : Deployment api}

/-- What deployment leaves behind. -/
structure Deployed (dep : Deployment api) (msg : Pool.InstantiateMsg) (m : Cw20.InstantiateMsg)
    (block : BlockInfo) (x : χ) (w : World χ) : Prop where
  stakingAddress : w.pool.state.stakingAddress = dep.staking.raw
  cw20Address : w.pool.state.cw20Address = dep.cw20.raw
  empty : w.pool.state.totalUstPool = 0
  market : api.canonicalize msg.moneyMarketAddress = .ok w.pool.config.moneyMarketAddress
  aust : api.canonicalize msg.anchorAustAddress = .ok w.pool.config.anchorAustAddress
  denom : w.pool.config.denom = "uusd"
  cw20 : ∃ res, Cw20.instantiate api ⟨dep.pool.addr, []⟩ m = .ok (w.cw20, res)
  staking : ∃ loterra, w.staking =
    .initial ⟨dep.pool.raw, dep.cw20.raw, loterra, "uusd", msg.unbondingPeriod⟩
  block : w.block = block
  outside : w.outside = x

theorem findInEvents_instantiateEvent (contract : Addr) :
    Pool.findInEvents "instantiate_contract" "contract_address" [instantiateEvent contract] =
      some contract := rfl

theorem deploy_ok {deployer : Account api} {msg : Pool.InstantiateMsg} {m : Cw20.InstantiateMsg}
    {block : BlockInfo} {x : χ} {w : World χ} (token : msg.messageCw20 = .cw20 m)
    (h : deploy out dep deployer msg block x = .ok w) : Deployed dep msg m block x w := by
  rw [deploy] at h
  obtain ⟨⟨pool, res⟩, started, h⟩ := bind_ok.mp h
  obtain ⟨admin, market, aust, loterra, hmarket, haust, rfl, messages⟩ :=
    Pool.instantiate_ok started
  simp only [messages, token] at h
  obtain ⟨⟨cw20, res₁⟩, minted, h⟩ := bind_ok.mp h
  obtain ⟨⟨pool, res₂⟩, replied, h⟩ := bind_ok.mp h
  obtain ⟨cw20Address, lottery, hcw20, rfl, messages₂⟩ :=
    Pool.cw20InstanceReply_ok (findInEvents_instantiateEvent _) replied
  obtain rfl := Account.canonicalize_ok hcw20
  simp only [messages₂] at h
  obtain ⟨⟨staking, res₃⟩, staked, h⟩ := bind_ok.mp h
  obtain ⟨⟨pool, res₄⟩, answered, h⟩ := bind_ok.mp h
  obtain ⟨stakingAddress, hstaking, rfl⟩ :=
    Pool.stakingInstanceReply_ok (findInEvents_instantiateEvent _) answered
  obtain rfl := Account.canonicalize_ok hstaking
  obtain ⟨owner, tokenRaw, lotteryRaw, howner, htoken, rfl⟩ := Staking.instantiate_ok staked
  obtain rfl := Account.canonicalize_ok howner
  obtain rfl := Account.canonicalize_ok htoken
  cases h
  exact {
    stakingAddress := rfl, cw20Address := rfl, empty := rfl
    market := hmarket
    aust := haust
    denom := rfl
    cw20 := ⟨res₁, minted⟩
    staking := ⟨lotteryRaw, rfl⟩
    block := rfl, outside := rfl }

end Deployment

/-! A small deployment with its outside: Anchor keeps the pool's aUST and the
exchange rate, the tax is 1 % with a cap of 100, and every bank balance is 50. -/
namespace Sample

structure Reserve where
  aust : Uint128
  rate : Decimal256
  positive : 0 < rate.val

def api : Api := Api.book
  ["deployer", "dogether", "token", "staking", "market", "aust", "loterra", "alice", "bob"]

def deployer : Account api := ⟨"deployer", Api.raw 0, by decide +kernel, by decide +kernel⟩
def market : Account api := ⟨"market", Api.raw 4, by decide +kernel, by decide +kernel⟩
def aust : Account api := ⟨"aust", Api.raw 5, by decide +kernel, by decide +kernel⟩
def alice : Account api := ⟨"alice", Api.raw 7, by decide +kernel, by decide +kernel⟩
def bob : Account api := ⟨"bob", Api.raw 8, by decide +kernel, by decide +kernel⟩

def dep : Deployment api where
  pool := ⟨"dogether", Api.raw 1, by decide +kernel, by decide +kernel⟩
  cw20 := ⟨"token", Api.raw 2, by decide +kernel, by decide +kernel⟩
  staking := ⟨"staking", Api.raw 3, by decide +kernel, by decide +kernel⟩
  pool_ne_cw20 := by decide
  pool_ne_staking := by decide
  cw20_ne_staking := by decide

def querier (x : Reserve) : Querier where
  taxRate := some ⟨.ofNat (10 ^ 16)⟩
  taxCap _ := some (.ofNat 100)
  balance _ _ := some (.ofNat 50)
  loterraConfig _ := none
  epochState addr := if addr = market.addr then some x.rate else none
  cw20Balance token holder :=
    if token = aust.addr ∧ holder = dep.pool.addr then some x.aust else none

/-- Only dogether's own deposits and redemptions move its aUST. -/
def executeAnchor (sender target : Addr) (msg : ExecMsg) (funds : List Coin) (x : Reserve) :
    Except Fault (Reserve × List Event) :=
  if sender = dep.pool.addr then
    match msg, funds with
    | .depositStable, [coin] => do
      rejectIf (target ≠ market.addr) parseError
      let aust ← Word.narrow overflow (x.aust.val + coin.amount.val * 10 ^ 18 / x.rate.val)
      pure ({ x with aust }, [])
    | .send _ amount .redeemStable, _ => do
      rejectIf (target ≠ aust.addr) parseError
      let aust ← x.aust.sub overflow amount
      pure ({ x with aust }, [])
    | _, _ => .error parseError
  else .ok (x, [])

def out : Outside Reserve where
  querier := querier
  transfer _ _ _ x := .ok x
  execute := executeAnchor

def token : Cw20.InstantiateMsg := ⟨"dogether", "DOG", .ofNat 6, []⟩

/-- An unbonding period of 100 blocks, and a draw that is due from the start. -/
def msg : Pool.InstantiateMsg where
  codeIdCw20 := .ofNat 1
  messageCw20 := .cw20 token
  labelCw20 := "cw20"
  codeIdStaking := .ofNat 2
  labelStaking := "staking"
  moneyMarketAddress := market.addr
  anchorAustAddress := aust.addr
  nextDraw := 0
  drawPeriod := 0
  unbondingPeriod := .ofNat 100
  loterraAddress := "loterra"

def block (height : Uint64) : BlockInfo := ⟨height, 0⟩

def start : Except Fault (World Reserve) :=
  deploy out dep deployer msg (block (.ofNat 1000))
    ⟨0, ⟨.ofNat (11 * 10 ^ 17)⟩, by decide +kernel⟩

def call (sender : Account api) (msg : Pool.ExecuteMsg) (funds : List Coin) : Tx api :=
  ⟨sender, dep.pool.addr, .pool msg, funds, 5⟩

def pool (sender : Account api) (amount : Uint128) : Tx api :=
  call sender .pool [⟨"uusd", amount⟩]

/-- Alice pools 2000, un-pools 600 of it and asks for it too early; Bob pools
1000, and the earnings at a better rate are redeemed before the 600 mature. -/
def waiting : List (Input Reserve api) := [
  .transaction (pool alice (.ofNat 2000)),
  .transaction (call alice (.unPool (.ofNat 600)) []),
  .transaction (call alice .claimUnPool []),
  .transaction (pool bob (.ofNat 1000)),
  .outside ⟨.ofNat 2800, ⟨.ofNat (13 * 10 ^ 17)⟩, by decide +kernel⟩,
  .transaction (call bob .redeemEarning []),
  .newBlock (block (.ofNat 1100))]

/-- And then she claims it. -/
def inputs : List (Input Reserve api) := waiting ++ [.transaction (call alice .claimUnPool [])]

end Sample
end DogetherContracts.System
