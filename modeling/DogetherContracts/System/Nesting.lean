import DogetherContracts.System.Calls

/-! # Messages set off by messages

Which messages a call can emit depends on the call alone. Every one of them nests
less deeply than the call, so no transaction loops, whatever the storages hold and
wherever the addresses in them lead. -/
namespace DogetherContracts.System
open Checked

/-- The messages of the response to a call. -/
inductive Emits : Call → List SubMsg → Prop
  | silent (call : Call) : Emits call []
  | pooled {sender target market cw20 staking : Addr} {funds : List Coin} {net : Coin} :
      Emits (.message sender (.execute target (.pool .pool) funds))
        [⟨.execute market .depositStable [net], none⟩,
          ⟨.execute cw20 (.cw20 (.bond staking net.amount .bondStake sender)) [], none⟩]
  | unPooled {sender target staking : Addr} {funds : List Coin} {amount : Uint128} :
      Emits (.message sender (.execute target (.pool (.unPool amount)) funds))
        [⟨.execute staking (.staking (.unbondStake amount sender)) [], none⟩]
  | claimed {sender target staking : Addr} {funds : List Coin} :
      Emits (.message sender (.execute target (.pool .claimUnPool) funds))
        [⟨.execute staking (.staking (.withdrawStake none sender)) [], some 2⟩]
  | redeemed {sender target market aust staking : Addr} {funds : List Coin} {units : Uint128}
      {earnings : Coin} :
      Emits (.message sender (.execute target (.pool .redeemEarning) funds))
        [⟨.execute aust (.send market units .redeemStable) [], none⟩,
          ⟨.execute staking (.staking .updateGlobalIndex) [earnings], none⟩]
  | bonded {sender target recipient : Addr} {contract : String} {funds : List Coin}
      {amount : Uint128} {payload : Binary} :
      Emits (.message sender (.execute target (.cw20 (.bond contract amount payload recipient))
          funds))
        [⟨.execute contract (.staking (.receive ⟨recipient, amount, payload⟩)) [], none⟩]
  | withdrawn {sender target cw20 : Addr} {address : String} {funds : List Coin}
      {cap : Option Uint128} {amount : Uint128} :
      Emits (.message sender (.execute target (.staking (.withdrawStake cap address)) funds))
        [⟨.execute cw20 (.cw20 (.burn amount)) [], none⟩]
  | bought {sender target loterra : Addr} {recipient : String} {combination : List String}
      {funds : List Coin} {cost : Coin} :
      Emits (.message sender (.execute target (.staking (.getTicket recipient combination)) funds))
        [⟨.execute loterra (.register (some recipient) none combination) [cost], none⟩]
  | created {contract : Addr} {events : List Event} {admin : Option Addr} {codeId : Uint64}
      {msg : InitMsg} {label : String} :
      Emits (.reply contract 0 events) [⟨.instantiate admin codeId msg [] label, some 1⟩]
  | paid {contract market aust recipient : Addr} {events : List Event} {units : Uint128}
      {net : Coin} :
      Emits (.reply contract 2 events)
        [⟨.execute aust (.send market units .redeemStable) [], none⟩,
          ⟨.bankSend recipient [net], none⟩]

section Emitted

variable {χ : Type} {api : Api} {out : Outside χ} {dep : Deployment api}

theorem reply_emits {querier : Querier} {env : Env} {st st' : Pool.Storage} {id : ℕ}
    {events : List Event} {res : Response} {contract : Addr}
    (h : Pool.reply api querier env st id (.ok events) = .ok (st', res)) :
    Emits (.reply contract id events) res.messages := by
  match id with
  | 0 =>
      simp only [Pool.reply, Pool.cw20InstanceReply, bind_ok, pure_ok, Prod.mk.injEq] at h
      obtain ⟨_, _, _, _, _, _, _, rfl⟩ := h
      exact .created
  | 1 =>
      simp only [Pool.reply, Pool.stakingInstanceReply, bind_ok, pure_ok, Prod.mk.injEq] at h
      obtain ⟨_, _, _, _, _, rfl⟩ := h
      exact .silent _
  | 2 =>
      obtain ⟨_, _, _, _, _, _, _, _, _, _, _, paid⟩ := Pool.withdrawReply_steps h
      rw [paid.messages]
      exact .paid
  | _ + 3 => cases h

theorem pool_emits {querier : Querier} {env : Env} {info : MessageInfo} {st st' : Pool.Storage}
    {msg : Pool.ExecuteMsg} {res : Response} {target : Addr}
    (h : Pool.execute api querier env info st msg = .ok (st', res)) :
    Emits (.message info.sender (.execute target (.pool msg) info.funds)) res.messages := by
  cases msg with
  | pool =>
      obtain ⟨_, _, _, _, _, done⟩ := Pool.tryPool_ok h
      rw [done.messages]
      exact .pooled
  | unPool amount =>
      obtain ⟨_, _, _, sent⟩ := Pool.tryUnPool_ok h
      rw [sent]
      exact .unPooled
  | claimUnPool =>
      obtain ⟨_, _, _, sent⟩ := Pool.tryClaimUnPool_ok h
      rw [sent]
      exact .claimed
  | redeemEarning =>
      obtain ⟨_, _, _, _, _, _, _, _, done⟩ := Pool.tryRedeemEarning_ok h
      rw [done.messages]
      exact .redeemed

theorem cw20_emits {info : MessageInfo} {st st' : Cw20.Storage} {msg : Cw20.ExecuteMsg}
    {res : Response} {target : Addr} (h : Cw20.execute api info st msg = .ok (st', res)) :
    Emits (.message info.sender (.execute target (.cw20 msg) info.funds)) res.messages := by
  cases msg with
  | burn amount =>
      rw [(Cw20.executeBurn_ok h).message]
      exact .silent _
  | bond contract amount payload recipient =>
      rw [(Cw20.executeBond_ok h).message]
      exact .bonded

theorem staking_emits {st st' : Staking.Storage} {call : Staking.Call} {res : Response}
    {target : Addr} (h : Staking.execute api st call = .ok (st', res)) :
    Emits (.message call.info.sender (.execute target (.staking call.msg) call.info.funds))
      res.messages := by
  obtain ⟨querier, env, info, msg⟩ := call
  cases msg with
  | updateGlobalIndex =>
      rw [(Staking.handleUpdateGlobalIndex_ok h).2]
      exact .silent _
  | unbondStake amount address =>
      rw [(Staking.handleUnbound_ok h).2]
      exact .silent _
  | withdrawStake cap address =>
      obtain ⟨_, _, _, _, _, rfl⟩ := Staking.handleWithdrawStake_ok h
      exact .withdrawn
  | receive wrapper =>
      rw [(Staking.handleReceive_ok h).2]
      exact .silent _
  | getTicket recipient combination =>
      obtain ⟨_, _, _, _, sent⟩ := Staking.handleGetTicket_ok h
      rw [sent]
      exact .bought

theorem enter_emits {w : World χ} {call : Call} {entered : Entered χ}
    (h : enter out dep w call = .ok entered) : Emits call entered.messages := by
  cases call with
  | reply contract id events =>
      simp only [enter, bind_ok, pure_ok, Prod.exists] at h
      obtain ⟨_, _, pool, res, replied, rfl⟩ := h
      exact reply_emits replied
  | message sender msg =>
      cases msg with
      | instantiate _ _ _ _ _ => cases h
      | bankSend toAddress amount =>
          simp only [enter, bind_ok, pure_ok] at h
          obtain ⟨x, _, rfl⟩ := h
          exact .silent _
      | execute target msg funds =>
          simp only [enter, enterExecute, bind_ok] at h
          obtain ⟨x, _, h⟩ := h
          split at h
          · simp only [bind_ok, asPool_ok, pure_ok, Prod.exists] at h
            obtain ⟨m, rfl, pool, res, executed, rfl⟩ := h
            exact pool_emits executed
          · split at h
            · simp only [bind_ok, asCw20_ok, pure_ok, Prod.exists] at h
              obtain ⟨m, rfl, cw20, res, executed, rfl⟩ := h
              exact cw20_emits executed
            · split at h
              · simp only [bind_ok, asStaking_ok, pure_ok, Prod.exists] at h
                obtain ⟨m, rfl, staking, res, executed, rfl⟩ := h
                exact staking_emits executed
              · simp only [bind_ok, pure_ok, Prod.exists] at h
                obtain ⟨x', events, _, rfl⟩ := h
                exact .silent _

end Emitted

/-- How deep a call and the messages it sets off can nest. -/
def nesting : Call → ℕ
  | .message _ (.execute _ (.pool .pool) _) => 3
  | .message _ (.execute _ (.pool (.unPool _)) _) => 2
  | .message _ (.execute _ (.pool .claimUnPool) _) => 3
  | .message _ (.execute _ (.pool .redeemEarning) _) => 2
  | .message _ (.execute _ (.cw20 (.bond _ _ _ _)) _) => 2
  | .message _ (.execute _ (.staking (.withdrawStake _ _)) _) => 2
  | .message _ (.execute _ (.staking (.getTicket _ _)) _) => 2
  | .reply _ 0 _ => 2
  | .reply _ 2 _ => 2
  | _ => 1

/-- How many messages a call and what it sets off can execute. -/
def volume : Call → ℕ
  | .message _ (.execute _ (.pool .pool) _) => 4
  | .message _ (.execute _ (.pool (.unPool _)) _) => 2
  | .message _ (.execute _ (.pool .claimUnPool) _) => 5
  | .message _ (.execute _ (.pool .redeemEarning) _) => 3
  | .message _ (.execute _ (.cw20 (.bond _ _ _ _)) _) => 2
  | .message _ (.execute _ (.staking (.withdrawStake _ _)) _) => 2
  | .message _ (.execute _ (.staking (.getTicket _ _)) _) => 2
  | .message _ _ => 1
  | .reply _ 0 _ => 1
  | .reply _ 2 _ => 2
  | .reply _ _ _ => 0

/-- The calls a submessage of `self` leads to: itself, and its reply. -/
def leads (self : Addr) (sub : SubMsg) (events : List Event) : List Call :=
  .message self sub.msg :: match sub.replyOnSuccess with
    | some id => [.reply self id events]
    | none => []

theorem nesting_pos (call : Call) : 0 < nesting call := by
  unfold nesting
  split <;> decide

theorem nesting_le (call : Call) : nesting call ≤ 3 := by
  unfold nesting
  split <;> decide

theorem volume_le (call : Call) : volume call ≤ 5 := by
  unfold volume
  split <;> decide

theorem Emits.nesting_lt {call : Call} {messages : List SubMsg} (h : Emits call messages)
    (self : Addr) (events : List Event) :
    ∀ sub ∈ messages, ∀ c ∈ leads self sub events, nesting c < nesting call := by
  cases h with
  | silent => simp
  | pooled => simp [leads, nesting]
  | unPooled => simp [leads, nesting]
  | claimed => simp [leads, nesting]
  | redeemed => simp [leads, nesting]
  | bonded => simp [leads, nesting]
  | withdrawn => simp [leads, nesting]
  | bought => simp [leads, nesting]
  | created => simp [leads, nesting]
  | paid => simp [leads, nesting]

/-- The volume of a reply does not depend on its events. -/
theorem volume_reply (contract : Addr) (id : ℕ) (events : List Event) :
    volume (.reply contract id events) = volume (.reply contract id []) := by
  match id with
  | 0 | 1 | 2 | _ + 3 => rfl

/-- The volumes of all calls that the messages lead to. -/
def volumes (self : Addr) (messages : List SubMsg) : ℕ :=
  (messages.map fun sub => ((leads self sub []).map volume).sum).sum

theorem volumes_cons (self : Addr) (msg : CosmosMsg) (id : Option ℕ) (messages : List SubMsg) :
    volumes self (⟨msg, id⟩ :: messages) = volume (.message self msg) +
      (id.elim 0 fun id => volume (.reply self id [])) + volumes self messages := by
  cases id <;> simp [volumes, leads]

theorem Emits.volume_le {call : Call} {messages : List SubMsg} (h : Emits call messages)
    (self : Addr) : call.executed.length + volumes self messages ≤ volume call := by
  cases h with
  | silent =>
      simp only [volumes, List.map_nil, List.sum_nil, Nat.add_zero]
      cases call with
      | message sender msg =>
          simp only [Call.executed, List.length_singleton]
          unfold volume
          split <;> simp_all
      | reply _ _ _ => exact Nat.zero_le _
  | pooled => simp [volumes, leads, Call.executed, volume]
  | unPooled => simp [volumes, leads, Call.executed, volume]
  | claimed => simp [volumes, leads, Call.executed, volume]
  | redeemed => simp [volumes, leads, Call.executed, volume]
  | bonded => simp [volumes, leads, Call.executed, volume]
  | withdrawn => simp [volumes, leads, Call.executed, volume]
  | bought => simp [volumes, leads, Call.executed, volume]
  | created => simp [volumes, leads, Call.executed, volume]
  | paid => simp [volumes, leads, Call.executed, volume]

section Gas

variable {χ : Type} {api : Api} {out : Outside χ} {dep : Deployment api}

/-- The messages of a response only matter through the calls they lead to. -/
theorem runMessages_congr {exec exec' : Call → World χ → Except Fault (World χ × Receipt)}
    {self : Addr} {messages : List SubMsg}
    (same : ∀ sub ∈ messages, ∀ events, ∀ c ∈ leads self sub events, exec c = exec' c)
    (w : World χ) : runMessages exec self messages w = runMessages exec' self messages w := by
  induction messages generalizing w with
  | nil => rfl
  | cons sub messages ih =>
      have first := same sub List.mem_cons_self
      have rest := fun w => ih (fun sub' member => same sub' (List.mem_cons_of_mem sub member)) w
      obtain ⟨msg, id⟩ := sub
      have sent : exec (.message self msg) = exec' (.message self msg) :=
        first [] _ List.mem_cons_self
      cases id with
      | none => simp only [runMessages, sent, rest]
      | some id =>
          have replied (events : List Event) :
              exec (.reply self id events) = exec' (.reply self id events) :=
            first events _ (List.mem_cons_of_mem _ List.mem_cons_self)
          simp only [runMessages, sent, replied, rest]

/-- Gas beyond the nesting of a call changes nothing. -/
theorem runCall_nesting {call : Call} {n : ℕ} (le : nesting call ≤ n) (gas : ℕ) (w : World χ) :
    runCall out dep (n + gas) call w = runCall out dep n call w := by
  induction n generalizing call w with
  | zero => exact absurd (nesting_pos call) (Nat.not_lt_of_le le)
  | succ n ih =>
      rw [Nat.add_right_comm, runCall, runCall]
      cases entry : enter out dep w call with
      | error e => rfl
      | ok entered =>
          have emits := enter_emits entry
          have deeper : runMessages (runCall out dep (n + gas)) entered.self entered.messages
                entered.world =
              runMessages (runCall out dep n) entered.self entered.messages entered.world := by
            apply runMessages_congr
            intro sub member events c led
            have lt := emits.nesting_lt entered.self events sub member c led
            funext w'
            exact ih (by omega) w'
          rw [ok_bind, ok_bind, deeper]

theorem runMessages_volume {exec : Call → World χ → Except Fault (World χ × Receipt)}
    (each : ∀ {call w w' r}, exec call w = .ok (w', r) → r.executed.length ≤ volume call)
    {self : Addr} {messages : List SubMsg} {w w' : World χ} {r : Receipt}
    (h : runMessages exec self messages w = .ok (w', r)) :
    r.executed.length ≤ volumes self messages := by
  induction messages generalizing w w' r with
  | nil =>
      obtain ⟨rfl, rfl⟩ := runMessages_nil h
      exact Nat.zero_le _
  | cons sub messages ih =>
      obtain ⟨msg, id⟩ := sub
      rw [volumes_cons]
      cases id with
      | none =>
          obtain ⟨w₁, first, rest, hfirst, hrest, executed⟩ := runMessages_cons h
          have head := each hfirst
          have tail := ih hrest
          rw [executed, List.length_append, Option.elim_none]
          omega
      | some id =>
          simp only [runMessages, bind_ok, pure_ok, Prod.exists, Prod.mk.injEq] at h
          obtain ⟨w₁, first, hfirst, w₂, replied, hreplied, w₃, rest, hrest, rfl, rfl⟩ := h
          have head := each hfirst
          have answer := each hreplied
          rw [volume_reply] at answer
          have tail := ih hrest
          simp only [Receipt.append, List.length_append, Option.elim_some]
          omega

theorem runCall_volume {gas : ℕ} {call : Call} {w w' : World χ} {r : Receipt}
    (h : runCall out dep gas call w = .ok (w', r)) : r.executed.length ≤ volume call := by
  induction gas generalizing call w w' r with
  | zero => cases h
  | succ gas ih =>
      simp only [runCall, bind_ok, pure_ok, Prod.exists, Prod.mk.injEq] at h
      obtain ⟨entered, entry, w₁, rest, hrest, rfl, rfl⟩ := h
      have below := runMessages_volume ih hrest
      have total := (enter_emits entry).volume_le entered.self
      rw [List.length_append]
      omega

/-- A transaction is over after three levels of messages and executes at most five
of them: more gas changes nothing, whatever the three storages hold. -/
theorem nesting_bounded (w : World χ) (tx : Tx api) (gas : ℕ) :
    runTx out dep w { tx with gas := 3 + gas } = runTx out dep w { tx with gas := 3 } ∧
      ∀ w' r, runTx out dep w tx = .ok (w', r) → r.executed.length ≤ 5 := by
  constructor
  · simp only [runTx, runCall_nesting (nesting_le _) gas]
  · intro w' r h
    simp only [runTx, bind_ok] at h
    obtain ⟨_, _, _, _, ran⟩ := h
    exact (runCall_volume ran).trans (volume_le _)

end Gas
end DogetherContracts.System
