import DogetherContracts.Cw20.Accounts
import DogetherContracts.Staking.Range
import DogetherContracts.System.Reachable

/-! # Deployment and configuration

Which deployments go through, and what of them every later state still shows. -/
namespace DogetherContracts.Pool
open Checked

/-- What no entry point of dogether changes. -/
def SetUp (config : Config) (drawPeriod : Uint64) (st : Storage) : Prop :=
  st.config = config ∧ st.state.drawPeriod = drawPeriod

variable {api : Api} {querier : Querier} {env : Env} {info : MessageInfo} {st st' : Storage}
  {res : Response} {config : Config} {drawPeriod : Uint64}

theorem execute_setUp {msg : ExecuteMsg} (h : execute api querier env info st msg = .ok (st', res))
    (setUp : SetUp config drawPeriod st) : SetUp config drawPeriod st' := by
  cases msg with
  | pool =>
      obtain ⟨_, _, _, _, _, done⟩ := tryPool_ok h
      rw [done.rest]
      exact setUp
  | unPool amount =>
      obtain ⟨_, _, rfl, _⟩ := tryUnPool_ok h
      exact setUp
  | claimUnPool =>
      obtain ⟨_, _, rfl, _⟩ := tryClaimUnPool_ok h
      exact setUp
  | redeemEarning =>
      obtain ⟨_, _, _, _, _, _, _, _, done⟩ := tryRedeemEarning_ok h
      rw [done.rest]
      exact setUp

theorem reply_setUp {id : ℕ} {result : ContractResult}
    (h : reply api querier env st id result = .ok (st', res))
    (setUp : SetUp config drawPeriod st) : SetUp config drawPeriod st' := by
  unfold reply at h
  cases result with
  | err error => split at h <;> cases h
  | ok events =>
      split at h
      · simp only [cw20InstanceReply, bind_ok, pure_ok, Prod.mk.injEq] at h
        obtain ⟨_, _, _, _, _, _, rfl, _⟩ := h
        exact setUp
      · simp only [stakingInstanceReply, bind_ok, pure_ok, Prod.mk.injEq] at h
        obtain ⟨_, _, _, _, rfl, _⟩ := h
        exact setUp
      · obtain ⟨_, _, _, _, _, _, _, _, _, _, _, paid⟩ := withdrawReply_steps h
        rw [paid.rest]
        exact setUp
      · cases h

end DogetherContracts.Pool

namespace DogetherContracts.System
open Checked Run

variable {χ : Type} {api : Api} {out : Outside χ} {dep : Deployment api}

section Deploy

variable {deployer : Account api} {msg : Pool.InstantiateMsg} {m : Cw20.InstantiateMsg}
  {block : BlockInfo} {x : χ} {w : World χ} {market aust loterra loterra' : CanonicalAddr}
  {lottery : Addr}

/-- The world of a deployment, from the addresses of its message and the token. -/
def World.created (dep : Deployment api) (deployer : Account api) (msg : Pool.InstantiateMsg)
    (market aust loterra loterra' : CanonicalAddr) (block : BlockInfo) (x : χ)
    (cw20 : Cw20.Storage) : World χ where
  pool := ⟨⟨deployer.raw, "uusd", market, aust, msg.codeIdStaking, msg.labelStaking,
      msg.unbondingPeriod, loterra⟩,
    ⟨dep.staking.raw, dep.cw20.raw, msg.drawPeriod, msg.nextDraw, 0⟩⟩
  cw20 := cw20
  staking := .initial ⟨dep.pool.raw, dep.cw20.raw, loterra', "uusd", msg.unbondingPeriod⟩
  block := block
  outside := x

/-- Everything but the token is settled by the addresses of the message. -/
theorem deploy_eq (token : msg.messageCw20 = .cw20 m)
    (hmarket : api.canonicalize msg.moneyMarketAddress = .ok market)
    (haust : api.canonicalize msg.anchorAustAddress = .ok aust)
    (hloterra : api.canonicalize msg.loterraAddress = .ok loterra)
    (hlottery : api.humanize loterra = .ok lottery)
    (hloterra' : api.canonicalize lottery = .ok loterra') :
    deploy out dep deployer msg block x =
      (Cw20.instantiate api ⟨dep.pool.addr, []⟩ m).map fun r =>
        .created dep deployer msg market aust loterra loterra' block x r.1 := by
  simp only [deploy, Pool.instantiate, Account.canonicalize_addr, hmarket, haust, hloterra, ok_bind,
    pure_bind, token, Response.new, Response.addSubmessage, Response.addAttribute, Pool.reply,
    Pool.cw20InstanceReply, Pool.stakingInstanceReply, findInEvents_instantiateEvent, orReject,
    hlottery, Staking.instantiate, hloterra', List.nil_append]
  cases Cw20.instantiate api ⟨dep.pool.addr, []⟩ m <;> rfl

/-- What a deployment that went through has read, and the world it made of it. -/
theorem deploy_exact (h : deploy out dep deployer msg block x = .ok w) :
    ∃ m market aust loterra lottery loterra' cw20 res, msg.messageCw20 = .cw20 m ∧
      api.canonicalize msg.moneyMarketAddress = .ok market ∧
      api.canonicalize msg.anchorAustAddress = .ok aust ∧
      api.canonicalize msg.loterraAddress = .ok loterra ∧ api.humanize loterra = .ok lottery ∧
      api.canonicalize lottery = .ok loterra' ∧
      Cw20.instantiate api ⟨dep.pool.addr, []⟩ m = .ok (cw20, res) ∧
      w = .created dep deployer msg market aust loterra loterra' block x cw20 := by
  have ran := h
  rw [deploy] at h
  obtain ⟨⟨pool, res⟩, started, h⟩ := bind_ok.mp h
  simp only [Pool.instantiate, bind_ok, pure_ok, Prod.mk.injEq] at started
  obtain ⟨admin, _, market, hmarket, aust, haust, loterra, hloterra, rfl, rfl⟩ := started
  cases token : msg.messageCw20 with
  | staking m =>
      rw [token] at h
      cases h
  | bytes raw =>
      rw [token] at h
      cases h
  | cw20 m =>
      simp only [token, Response.new, Response.addSubmessage, Response.addAttribute,
        List.nil_append] at h
      obtain ⟨⟨cw20, res⟩, minted, h⟩ := bind_ok.mp h
      obtain ⟨⟨pool, _⟩, replied, h⟩ := bind_ok.mp h
      simp only [Pool.reply, Pool.cw20InstanceReply, findInEvents_instantiateEvent, orReject,
        ok_bind, Account.canonicalize_addr, bind_ok, pure_ok, Prod.mk.injEq] at replied
      obtain ⟨lottery, hlottery, rfl, rfl⟩ := replied
      simp only [Response.new, Response.addSubmessage, Response.addAttribute,
        List.nil_append] at h
      obtain ⟨staking, hstaking, _⟩ := bind_ok.mp h
      simp only [Staking.instantiate, bind_ok] at hstaking
      obtain ⟨_, _, _, _, loterra', hloterra', _⟩ := hstaking
      rw [deploy_eq token hmarket haust hloterra hlottery hloterra', minted] at ran
      exact ⟨m, market, aust, loterra, lottery, loterra', cw20, res, rfl, hmarket, haust, hloterra,
        hlottery, hloterra', minted, (Except.ok.inj ran).symm⟩

end Deploy

/-- A deployment goes through exactly when the token accepts its message and the host
knows the three addresses, of which the lottery's has to survive a round trip. -/
theorem deploy_accepted_iff (deployer : Account api) (msg : Pool.InstantiateMsg)
    (block : BlockInfo) (x : χ) :
    (∃ w, deploy out dep deployer msg block x = .ok w) ↔
      (∃ m, msg.messageCw20 = .cw20 m ∧ Cw20.WellFormed m ∧
        (∀ row ∈ m.initialBalances, ∃ a, api.addrValidate row.address = some a) ∧
        Cw20.listed m.initialBalances < 2 ^ 128) ∧
      (∃ market, api.canonicalize msg.moneyMarketAddress = .ok market) ∧
      (∃ aust, api.canonicalize msg.anchorAustAddress = .ok aust) ∧
      ∃ loterra lottery loterra', api.canonicalize msg.loterraAddress = .ok loterra ∧
        api.humanize loterra = .ok lottery ∧ api.canonicalize lottery = .ok loterra' := by
  constructor
  · rintro ⟨w, h⟩
    obtain ⟨m, market, aust, loterra, lottery, loterra', cw20, res, token, hmarket, haust,
      hloterra, hlottery, hloterra', minted, _⟩ := deploy_exact h
    exact ⟨⟨m, token, Cw20.instantiate_accepted.mp ⟨(cw20, res), minted⟩⟩, ⟨market, hmarket⟩,
      ⟨aust, haust⟩, loterra, lottery, loterra', hloterra, hlottery, hloterra'⟩
  · rintro ⟨⟨m, token, accepted⟩, ⟨market, hmarket⟩, ⟨aust, haust⟩, loterra, lottery, loterra',
      hloterra, hlottery, hloterra'⟩
    obtain ⟨created, hcreated⟩ := Cw20.instantiate_accepted.mpr accepted
    rw [deploy_eq token hmarket haust hloterra hlottery hloterra', hcreated]
    exact ⟨_, rfl⟩

/-! Properties of single storages that their own entry points keep. -/

/-- Each contract keeps its part, whoever calls it and whatever the queries answer. -/
structure Keeps (api : Api) (P : Pool.Storage → Prop) (C : Cw20.Storage → Prop)
    (S : Staking.Storage → Prop) : Prop where
  pool : ∀ {querier env info st msg st' res},
    Pool.execute api querier env info st msg = .ok (st', res) → P st → P st'
  reply : ∀ {querier env st id result st' res},
    Pool.reply api querier env st id result = .ok (st', res) → P st → P st'
  cw20 : ∀ {info st msg st' res}, Cw20.execute api info st msg = .ok (st', res) → C st → C st'
  staking : ∀ {st call st' res}, Staking.execute api st call = .ok (st', res) → S st → S st'

section Kept

variable {P : Pool.Storage → Prop} {C : Cw20.Storage → Prop} {S : Staking.Storage → Prop}

/-- The parts of a world. -/
def Holds (P : Pool.Storage → Prop) (C : Cw20.Storage → Prop) (S : Staking.Storage → Prop)
    (w : World χ) : Prop := P w.pool ∧ C w.cw20 ∧ S w.staking

theorem Keeps.enter (keeps : Keeps api P C S) {w : World χ} {call : Call} {entered : Entered χ}
    (holds : Holds P C S w) (h : System.enter out dep w call = .ok entered) :
    Holds P C S entered.world := by
  obtain ⟨p, c, s⟩ := holds
  cases call with
  | reply contract id events =>
      simp only [System.enter, bind_ok, pure_ok, Prod.exists] at h
      obtain ⟨_, _, pool, res, answered, rfl⟩ := h
      exact ⟨keeps.reply answered p, c, s⟩
  | message sender msg =>
      cases msg with
      | instantiate _ _ _ _ _ => cases h
      | bankSend toAddress amount =>
          simp only [System.enter, bind_ok, pure_ok] at h
          obtain ⟨x, _, rfl⟩ := h
          exact ⟨p, c, s⟩
      | execute target msg funds =>
          simp only [System.enter, enterExecute, bind_ok] at h
          obtain ⟨x, _, h⟩ := h
          split at h
          · simp only [bind_ok, pure_ok, Prod.exists] at h
            obtain ⟨_, _, pool, res, ran, rfl⟩ := h
            exact ⟨keeps.pool ran p, c, s⟩
          · split at h
            · simp only [bind_ok, pure_ok, Prod.exists] at h
              obtain ⟨_, _, cw20, res, ran, rfl⟩ := h
              exact ⟨p, keeps.cw20 ran c, s⟩
            · split at h
              · simp only [bind_ok, pure_ok, Prod.exists] at h
                obtain ⟨_, _, staking, res, ran, rfl⟩ := h
                exact ⟨p, c, keeps.staking ran s⟩
              · simp only [bind_ok, pure_ok, Prod.exists] at h
                obtain ⟨_, _, _, rfl⟩ := h
                exact ⟨p, c, s⟩

theorem Keeps.messages {exec : Call → World χ → Except Fault (World χ × Receipt)} {self : Addr}
    (each : ∀ {call w w' r}, Holds P C S w → exec call w = .ok (w', r) → Holds P C S w')
    {messages : List SubMsg} {w w' : World χ} {r : Receipt} (holds : Holds P C S w)
    (h : runMessages exec self messages w = .ok (w', r)) : Holds P C S w' := by
  induction messages generalizing w w' r with
  | nil =>
      obtain ⟨rfl, rfl⟩ := runMessages_nil h
      exact holds
  | cons sub messages ih =>
      obtain ⟨msg, id⟩ := sub
      cases id with
      | none =>
          obtain ⟨w₁, first, rest, hfirst, hrest, _⟩ := runMessages_cons h
          exact ih (each holds hfirst) hrest
      | some id =>
          simp only [runMessages, bind_ok, pure_ok, Prod.exists, Prod.mk.injEq] at h
          obtain ⟨w₁, first, hfirst, w₂, replied, hreplied, w₃, rest, hrest, rfl, rfl⟩ := h
          exact ih (each (each holds hfirst) hreplied) hrest

theorem Keeps.call (keeps : Keeps api P C S) {gas : ℕ} {call : Call} {w w' : World χ} {r : Receipt}
    (holds : Holds P C S w) (h : runCall out dep gas call w = .ok (w', r)) :
    Holds P C S w' := by
  induction gas generalizing call w w' r with
  | zero => cases h
  | succ gas ih =>
      simp only [runCall, bind_ok, pure_ok, Prod.exists, Prod.mk.injEq] at h
      obtain ⟨entered, hentered, w₁, rest, hrest, rfl, rfl⟩ := h
      exact Keeps.messages ih (keeps.enter holds hentered) hrest

/-- What the entry points keep, every run of the system keeps. -/
theorem Keeps.run (keeps : Keeps api P C S) {w : World χ} (holds : Holds P C S w)
    (inputs : List (Input χ api)) : Holds P C S (Run.run (step out dep) w inputs) := by
  refine run_invariant (Holds P C S) holds ?_ inputs
  intro w input holds
  cases input with
  | transaction tx =>
      rw [step]
      split
      · next w' r ran =>
        simp only [runTx, bind_ok] at ran
        obtain ⟨_, _, _, _, ran⟩ := ran
        exact keeps.call holds ran
      · exact holds
  | newBlock block =>
      rw [step]
      split
      · exact holds
      · exact holds
  | outside x => exact holds

end Kept

theorem setUp_kept (config : Pool.Config) (drawPeriod : Uint64) (m : Cw20.InstantiateMsg)
    (mint : Option Cw20.MinterData) (staking : Staking.Config) :
    Keeps api (Pool.SetUp config drawPeriod) (Cw20.SetUp m mint)
      (fun st => st.config = staking) where
  pool := Pool.execute_setUp
  reply := Pool.reply_setUp
  cw20 := Cw20.execute_setUp
  staking := by
    intro st call st' res h configured
    have kept := Staking.step_config api st call
    rw [Staking.step_ok h] at kept
    rw [kept, configured]

/-- Every state answers the queries for the configuration with what the deployment was
given, and the contracts name each other. -/
theorem configuration_fixed {deployer : Account api} {msg : Pool.InstantiateMsg}
    {m : Cw20.InstantiateMsg} {block : BlockInfo} {x : χ} {w : World χ}
    {market aust loterra : Account api} (token : msg.messageCw20 = .cw20 m)
    (empty : m.initialBalances = []) (deployed : deploy out dep deployer msg block x = .ok w)
    (hmarket : api.canonicalize msg.moneyMarketAddress = .ok market.raw)
    (haust : api.canonicalize msg.anchorAustAddress = .ok aust.raw)
    (hloterra : api.canonicalize msg.loterraAddress = .ok loterra.raw)
    (inputs : List (Input χ api)) :
    let w' := run (step out dep) w inputs
    Pool.queryConfig api w'.pool = .ok ⟨deployer.addr, "uusd", market.addr, aust.addr,
      msg.unbondingPeriod, loterra.addr⟩ ∧
    Pool.queryState api w'.pool = .ok ⟨dep.staking.addr, dep.cw20.addr, msg.drawPeriod,
      w'.pool.state.nextDraw, w'.pool.state.totalUstPool⟩ ∧
    Staking.queryConfig api w'.staking =
      .ok ⟨dep.pool.addr, dep.cw20.addr, "uusd", msg.unbondingPeriod⟩ ∧
    Cw20.queryTokenInfo w'.cw20 =
      ⟨m.name, m.symbol, m.decimals, w'.cw20.tokenInfo.totalSupply⟩ ∧
    Cw20.queryMinter w'.cw20 = some ⟨dep.pool.addr, none⟩ := by
  intro w'
  have reachable : Reachable out dep w' := (Reachable.deployed token empty deployed).run inputs
  have wired := reachable.wired
  let setUp : Pool.Config := ⟨deployer.raw, "uusd", market.raw, aust.raw, msg.codeIdStaking,
    msg.labelStaking, msg.unbondingPeriod, loterra.raw⟩
  have start : Holds (Pool.SetUp setUp msg.drawPeriod)
      (Cw20.SetUp m (some ⟨dep.pool.addr, none⟩)) (fun st => st.config =
        ⟨dep.pool.raw, dep.cw20.raw, loterra.raw, "uusd", msg.unbondingPeriod⟩) w := by
    rw [deploy_eq token hmarket haust hloterra loterra.humanize_raw loterra.canonicalize_addr]
      at deployed
    cases minted : Cw20.instantiate api ⟨dep.pool.addr, []⟩ m with
    | error e =>
        rw [minted] at deployed
        cases deployed
    | ok r =>
        rw [minted] at deployed
        cases deployed
        exact ⟨⟨rfl, rfl⟩, Cw20.instantiate_setUp minted, rfl⟩
  obtain ⟨⟨config, drawPeriod⟩, ⟨totalSupply, info⟩, staking⟩ :
      Holds _ _ _ w' := (setUp_kept _ _ _ _ _).run start inputs
  refine ⟨?_, ?_, ?_, ?_, ?_⟩
  · simp only [Pool.queryConfig, config, setUp, Account.humanize_raw, ok_bind]
    rfl
  · simp only [Pool.queryState, wired.stakingAddress, wired.cw20Address, Account.humanize_raw,
      ok_bind, drawPeriod]
    rfl
  · simp only [Staking.queryConfig, staking, Account.humanize_raw, ok_bind]
    rfl
  · simp only [Cw20.queryTokenInfo, info]
  · simp only [Cw20.queryMinter, info]
    rfl

/-- The sample shows its configuration after all of its inputs. -/
theorem sample_configured : ∃ w, Sample.start = .ok w ∧
    let w' := run (step Sample.out Sample.dep) w Sample.inputs
    Staking.queryConfig Sample.api w'.staking =
      .ok ⟨"dogether", "token", "uusd", .ofNat 100⟩ ∧
    Cw20.queryMinter w'.cw20 = some ⟨"dogether", none⟩ := by
  obtain ⟨w, deployed, _⟩ : ∃ w, Sample.start = .ok w ∧ True := by decide +kernel
  let loterra : Account Sample.api := ⟨"loterra", Api.raw 6, by decide +kernel, by decide +kernel⟩
  obtain ⟨_, _, staking, _, minter⟩ := configuration_fixed rfl rfl deployed
    Sample.market.canonicalize_addr Sample.aust.canonicalize_addr loterra.canonicalize_addr
    Sample.inputs
  exact ⟨w, deployed, staking, minter⟩

end DogetherContracts.System
