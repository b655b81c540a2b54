import DogetherContracts.System.Calls

/-! # Calls that go through

Forward rules for the host, beside the inversion rules: when a contract's own code
succeeds and so do the messages it sends, the call does. -/
namespace DogetherContracts.System
open Checked

variable {χ : Type} {api : Api} {out : Outside χ} {dep : Deployment api}

theorem Deployment.ours_pool (dep : Deployment api) : ours dep dep.pool.addr := .inl rfl

theorem Deployment.ours_cw20 (dep : Deployment api) : ours dep dep.cw20.addr := .inr (.inl rfl)

theorem Deployment.ours_staking (dep : Deployment api) : ours dep dep.staking.addr :=
  .inr (.inr rfl)

theorem runTx_call {w : World χ} {tx : Tx api} {target : Addr} (contract : tx.contract = target)
    (own : ours dep target) (signed : ¬ ours dep tx.sender.addr) :
    runTx out dep w tx =
      runCall out dep tx.gas (.message tx.sender.addr (.execute target tx.msg tx.funds)) w := by
  simp only [runTx, rejectIf_neg _ signed, contract, rejectIf_neg _ (not_not.mpr own), ok_bind]

/-- Only dogether understands its messages. -/
theorem runTx_pool {w w' : World χ} {tx : Tx api} {r : Receipt} {m : Pool.ExecuteMsg}
    (msg : tx.msg = .pool m) (h : runTx out dep w tx = .ok (w', r)) :
    tx.contract = dep.pool.addr ∧ runCall out dep tx.gas
      (.message tx.sender.addr (.execute dep.pool.addr (.pool m) tx.funds)) w = .ok (w', r) := by
  simp only [runTx, bind_ok, rejectIf_ok, not_not] at h
  obtain ⟨_, _, _, target, h⟩ := h
  rw [msg] at h
  rcases target with target | target | target <;> rw [target] at h
  · exact ⟨target, h⟩
  · obtain ⟨_, _, _, _, _, _, other, _⟩ := call_cw20 h
    cases other
  · obtain ⟨_, _, _, _, _, _, other, _⟩ := call_staking h
    cases other

/-- And only staking understands its own. -/
theorem runTx_staking {w w' : World χ} {tx : Tx api} {r : Receipt} {m : Staking.ExecuteMsg}
    (msg : tx.msg = .staking m) (h : runTx out dep w tx = .ok (w', r)) :
    tx.contract = dep.staking.addr := by
  simp only [runTx, bind_ok, rejectIf_ok, not_not] at h
  obtain ⟨_, _, _, target, h⟩ := h
  rw [msg] at h
  rcases target with target | target | target <;> rw [target] at h
  · obtain ⟨_, _, _, _, _, _, other, _⟩ := call_pool h
    cases other
  · obtain ⟨_, _, _, _, _, _, other, _⟩ := call_cw20 h
    cases other
  · exact target

section Forward

variable (gas : ℕ) {w w₁ w₂ : World χ} {self sender target : Addr} {funds : List Coin}

theorem call_of_enter {call : Call} (entered : Entered χ)
    (entry : enter out dep w call = .ok entered)
    (ran : ∃ w' r, runMessages (runCall out dep gas) entered.self entered.messages entered.world =
      .ok (w', r)) : ∃ w' r, runCall out dep (gas + 1) call w = .ok (w', r) := by
  obtain ⟨w', r, ran⟩ := ran
  rw [runCall, entry, ok_bind, ran, ok_bind]
  exact ⟨_, _, rfl⟩

section Messages

variable {exec : Call → World χ → Except Fault (World χ × Receipt)} {msg : CosmosMsg}
  {messages : List SubMsg} {r₁ r₂ : Receipt}

theorem messages_of_first (first : exec (.message self msg) w = .ok (w₁, r₁))
    (rest : ∃ w' r, runMessages exec self messages w₁ = .ok (w', r)) :
    ∃ w' r, runMessages exec self (⟨msg, none⟩ :: messages) w = .ok (w', r) := by
  obtain ⟨w', r, rest⟩ := rest
  simp only [runMessages, first, rest, ok_bind]
  exact ⟨_, _, rfl⟩

theorem messages_of_reply {id : ℕ} (first : exec (.message self msg) w = .ok (w₁, r₁))
    (answer : exec (.reply self id r₁.events) w₁ = .ok (w₂, r₂)) :
    ∃ w' r, runMessages exec self [⟨msg, some id⟩] w = .ok (w', r) := by
  simp only [runMessages, first, answer, ok_bind]
  exact ⟨_, _, rfl⟩

end Messages

theorem outsideStep_ours {x : χ} {msg : ExecMsg} (own : ours dep target) :
    outsideStep out dep x (sender, .execute target msg funds) =
      out.transfer sender target funds x := by
  simp only [outsideStep, if_pos own, bind_pure]

theorem enterExecute_foreign {msg : ExecMsg} (alien : foreign msg = true) :
    enterExecute out dep sender target msg funds w =
      if ours dep target then out.transfer sender target funds w.outside >>= fun _ =>
        .error parseError
      else out.transfer sender target funds w.outside >>= fun x =>
        out.execute sender target msg funds x >>= fun (x, events) =>
          pure ⟨{ w with outside := x }, target, [], events⟩ := by
  have noPool : asPool msg = .error parseError := by cases msg <;> first | rfl | cases alien
  have noCw20 : asCw20 msg = .error parseError := by cases msg <;> first | rfl | cases alien
  have noStaking : asStaking msg = .error parseError := by cases msg <;> first | rfl | cases alien
  by_cases own : ours dep target
  · rw [if_pos own, enterExecute]
    congr 1
    funext x
    rcases own with own | own | own
    · rw [if_pos own, noPool, error_bind]
    · rw [if_neg (own ▸ dep.pool_ne_cw20.symm), if_pos own, noCw20, error_bind]
    · rw [if_neg (own ▸ dep.pool_ne_staking.symm), if_neg (own ▸ dep.cw20_ne_staking.symm),
        if_pos own, noStaking, error_bind]
  · rw [if_neg own, enterExecute]
    have notPool : target ≠ dep.pool.addr := fun same => own (.inl same)
    have notCw20 : target ≠ dep.cw20.addr := fun same => own (.inr (.inl same))
    have notStaking : target ≠ dep.staking.addr := fun same => own (.inr (.inr same))
    simp only [if_neg notPool, if_neg notCw20, if_neg notStaking]

theorem foreign_external {gas : ℕ} {w' : World χ} {r : Receipt} {msg : ExecMsg}
    (alien : foreign msg = true)
    (h : runCall out dep gas (.message sender (.execute target msg funds)) w = .ok (w', r)) :
    ¬ ours dep target := by
  intro own
  obtain ⟨_, entered, _, entry, _⟩ := runCall_ok h
  rw [enter, enterExecute_foreign alien, if_pos own] at entry
  obtain ⟨_, _, failed⟩ := bind_ok.mp entry
  cases failed

/-- A foreign message is a matter of the outside, unless it goes to one of the
three contracts, which do not understand it. -/
theorem foreign_accepted_iff {msg : ExecMsg} (alien : foreign msg = true) :
    (∃ w' r, runCall out dep (gas + 1) (.message sender (.execute target msg funds)) w =
      .ok (w', r)) ↔
      ¬ ours dep target ∧ ∃ x,
        outsideStep out dep w.outside (sender, .execute target msg funds) = .ok x := by
  constructor
  · rintro ⟨w', r, h⟩
    have executed := (call_foreign alien h).2
    have outside := runCall_outside h
    simp only [executed, List.foldlM_cons, List.foldlM_nil, bind_pure] at outside
    exact ⟨foreign_external alien h, w'.outside, outside⟩
  · rintro ⟨external, x, h⟩
    simp only [outsideStep, if_neg external, bind_ok, pure_ok, Prod.exists] at h
    obtain ⟨x₁, moved, x₂, events, ran, rfl⟩ := h
    refine call_of_enter gas ⟨{ w with outside := x₂ }, target, [], events⟩ ?_ ⟨_, _, rfl⟩
    rw [enter, enterExecute_foreign alien, if_neg external, moved, ok_bind, ran, ok_bind]
    rfl

theorem enter_pool {m : Pool.ExecuteMsg} {x : χ} {pool : Pool.Storage} {res : Response}
    (moved : out.transfer sender dep.pool.addr funds w.outside = .ok x)
    (ran : Pool.execute api (out.querier x) ⟨w.block, dep.pool.addr⟩ ⟨sender, funds⟩ w.pool m =
      .ok (pool, res)) :
    enter out dep w (.message sender (.execute dep.pool.addr (.pool m) funds)) =
      .ok ⟨{ w with pool, outside := x }, dep.pool.addr, res.messages,
        wasmEvents dep.pool.addr res.attributes⟩ := by
  simp only [enter, enterExecute, if_true, asPool, moved, ran, ok_bind]
  rfl

theorem enter_cw20 {m : Cw20.ExecuteMsg} {x : χ} {cw20 : Cw20.Storage} {res : Response}
    (moved : out.transfer sender dep.cw20.addr funds w.outside = .ok x)
    (ran : Cw20.execute api ⟨sender, funds⟩ w.cw20 m = .ok (cw20, res)) :
    enter out dep w (.message sender (.execute dep.cw20.addr (.cw20 m) funds)) =
      .ok ⟨{ w with cw20, outside := x }, dep.cw20.addr, res.messages,
        wasmEvents dep.cw20.addr res.attributes⟩ := by
  simp only [enter, enterExecute, dep.pool_ne_cw20.symm, if_false, if_true, asCw20, moved, ran,
    ok_bind]
  rfl

theorem enter_staking {m : Staking.ExecuteMsg} {x : χ} {staking : Staking.Storage} {res : Response}
    (moved : out.transfer sender dep.staking.addr funds w.outside = .ok x)
    (ran : Staking.execute api w.staking
      ⟨out.querier x, ⟨w.block, dep.staking.addr⟩, ⟨sender, funds⟩, m⟩ = .ok (staking, res)) :
    enter out dep w (.message sender (.execute dep.staking.addr (.staking m) funds)) =
      .ok ⟨{ w with staking, outside := x }, dep.staking.addr, res.messages,
        wasmEvents dep.staking.addr res.attributes⟩ := by
  simp only [enter, enterExecute, dep.pool_ne_staking.symm, dep.cw20_ne_staking.symm, if_false,
    if_true, asStaking, moved, ran, ok_bind]
  rfl

theorem enter_reply {id : ℕ} {events : List Event} {pool : Pool.Storage} {res : Response}
    (ran : Pool.reply api (out.querier w.outside) ⟨w.block, dep.pool.addr⟩ w.pool id (.ok events) =
      .ok (pool, res)) :
    enter out dep w (.reply dep.pool.addr id events) =
      .ok ⟨{ w with pool }, dep.pool.addr, res.messages,
        wasmEvents dep.pool.addr res.attributes⟩ := by
  simp only [enter, rejectIf_neg _ (not_not.mpr rfl), ran, ok_bind]
  rfl

/-- Paying out takes no more than the outside. -/
theorem payment_accepted {msg : ExecMsg} (alien : foreign msg = true) {payee : Addr}
    {coins : List Coin} {x : χ} (external : ¬ ours dep target)
    (h : [(self, .execute target msg []), (self, .bankSend payee coins)].foldlM
      (outsideStep out dep) w.outside = .ok x) :
    ∃ w' r, runMessages (runCall out dep (gas + 1)) self
      [⟨.execute target msg [], none⟩, ⟨.bankSend payee coins, none⟩] w = .ok (w', r) := by
  simp only [List.foldlM_cons, List.foldlM_nil, bind_ok, bind_pure] at h
  obtain ⟨x₁, sent, paid⟩ := h
  obtain ⟨w₁, r₁, first⟩ := (foreign_accepted_iff gas alien).mpr ⟨external, x₁, sent⟩
  obtain ⟨⟨y, rfl⟩, executed⟩ := call_foreign alien first
  have outside := runCall_outside first
  simp only [executed, List.foldlM_cons, List.foldlM_nil, bind_pure, sent] at outside
  obtain rfl := Except.ok.inj outside
  refine messages_of_first first ?_
  have bank : ∃ w' r, runCall out dep (gas + 1) (.message self (.bankSend payee coins))
      { w with outside := x₁ } = .ok (w', r) := by
    refine call_of_enter gas ⟨{ w with outside := x }, payee, [], []⟩ ?_ ⟨_, _, rfl⟩
    simp only [outsideStep] at paid
    simp only [enter, paid, ok_bind]
    rfl
  obtain ⟨w₂, r₂, second⟩ := bank
  exact messages_of_first second ⟨_, _, rfl⟩

end Forward

end DogetherContracts.System
