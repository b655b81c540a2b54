import DogetherContracts.Pool.Effects
import DogetherContracts.Staking.Effects
import DogetherContracts.System.World

/-! # What a call does to the world

Inversion rules for the host: one for each kind of message the system sends, and
one for the messages of a response. -/
namespace DogetherContracts.System
open Checked

variable {χ : Type} {api : Api} {out : Outside χ} {dep : Deployment api}

theorem asPool_ok {msg : ExecMsg} {m : Pool.ExecuteMsg} : asPool msg = .ok m ↔ msg = .pool m := by
  cases msg <;> simp [asPool]

theorem asCw20_ok {msg : ExecMsg} {m : Cw20.ExecuteMsg} : asCw20 msg = .ok m ↔ msg = .cw20 m := by
  cases msg <;> simp [asCw20]

theorem asStaking_ok {msg : ExecMsg} {m : Staking.ExecuteMsg} :
    asStaking msg = .ok m ↔ msg = .staking m := by
  cases msg <;> simp [asStaking]

theorem runCall_ok {gas : ℕ} {call : Call} {w w' : World χ} {r : Receipt}
    (h : runCall out dep gas call w = .ok (w', r)) :
    ∃ gas' entered rest, enter out dep w call = .ok entered ∧
      runMessages (runCall out dep gas') entered.self entered.messages entered.world =
        .ok (w', rest) ∧
      r = ⟨entered.events ++ rest.events, call.executed ++ rest.executed⟩ := by
  cases gas with
  | zero => cases h
  | succ gas =>
      simp only [runCall, bind_ok, pure_ok, Prod.exists, Prod.mk.injEq] at h
      obtain ⟨entered, hentered, w₁, rest, hrest, rfl, rfl⟩ := h
      exact ⟨gas, entered, rest, hentered, hrest, rfl⟩

section Messages

variable {exec : Call → World χ → Except Fault (World χ × Receipt)} {self : Addr}
  {w w' : World χ} {r : Receipt} {msg : CosmosMsg} {messages : List SubMsg}

theorem runMessages_nil (h : runMessages exec self [] w = .ok (w', r)) :
    w' = w ∧ r = .empty := by
  cases h
  exact ⟨rfl, rfl⟩

theorem runMessages_cons
    (h : runMessages exec self (⟨msg, none⟩ :: messages) w = .ok (w', r)) :
    ∃ w₁ first rest, exec (.message self msg) w = .ok (w₁, first) ∧
      runMessages exec self messages w₁ = .ok (w', rest) ∧
      r.executed = first.executed ++ rest.executed := by
  simp only [runMessages, bind_ok, pure_ok, Prod.exists, Prod.mk.injEq] at h
  obtain ⟨w₁, first, hfirst, w₂, replied, hreplied, w₃, rest, hrest, rfl, rfl⟩ := h
  cases hreplied
  exact ⟨w₁, first, rest, hfirst, hrest, by simp [Receipt.append, Receipt.empty]⟩

theorem runMessages_reply {id : ℕ}
    (h : runMessages exec self [⟨msg, some id⟩] w = .ok (w', r)) :
    ∃ w₁ first replied, exec (.message self msg) w = .ok (w₁, first) ∧
      exec (.reply self id first.events) w₁ = .ok (w', replied) ∧
      r.executed = first.executed ++ replied.executed := by
  simp only [runMessages, bind_ok, pure_ok, Prod.exists, Prod.mk.injEq, Except.ok.injEq] at h
  obtain ⟨w₁, first, hfirst, w₂, replied, hreplied, w₃, rest, ⟨rfl, rfl⟩, rfl, rfl⟩ := h
  exact ⟨w₁, first, replied, hfirst, hreplied, by simp [Receipt.append, Receipt.empty]⟩

end Messages

/-! Entering a contract. -/

section Enter

variable {gas : ℕ} {sender target : Addr} {msg : ExecMsg} {funds : List Coin} {w w' : World χ}
  {r : Receipt}

theorem call_pool
    (h : runCall out dep gas (.message sender (.execute dep.pool.addr msg funds)) w = .ok (w', r)) :
    ∃ gas' x m pool res rest, msg = .pool m ∧
      out.transfer sender dep.pool.addr funds w.outside = .ok x ∧
      Pool.execute api (out.querier x) ⟨w.block, dep.pool.addr⟩ ⟨sender, funds⟩ w.pool m =
        .ok (pool, res) ∧
      runMessages (runCall out dep gas') dep.pool.addr res.messages
        { w with pool, outside := x } = .ok (w', rest) ∧
      r.executed = (sender, .execute dep.pool.addr msg funds) :: rest.executed := by
  obtain ⟨gas', entered, rest, hentered, hrest, rfl⟩ := runCall_ok h
  simp only [enter, enterExecute, if_true, bind_ok, asPool_ok, pure_ok, Prod.exists] at hentered
  obtain ⟨x, hx, m, rfl, pool, res, hexec, rfl⟩ := hentered
  exact ⟨gas', x, m, pool, res, rest, rfl, hx, hexec, hrest, rfl⟩

theorem call_cw20
    (h : runCall out dep gas (.message sender (.execute dep.cw20.addr msg funds)) w = .ok (w', r)) :
    ∃ gas' x m cw20 res rest, msg = .cw20 m ∧
      out.transfer sender dep.cw20.addr funds w.outside = .ok x ∧
      Cw20.execute api ⟨sender, funds⟩ w.cw20 m = .ok (cw20, res) ∧
      runMessages (runCall out dep gas') dep.cw20.addr res.messages
        { w with cw20, outside := x } = .ok (w', rest) ∧
      r.executed = (sender, .execute dep.cw20.addr msg funds) :: rest.executed := by
  obtain ⟨gas', entered, rest, hentered, hrest, rfl⟩ := runCall_ok h
  simp only [enter, enterExecute, dep.pool_ne_cw20.symm, if_false, if_true, bind_ok, asCw20_ok,
    pure_ok, Prod.exists] at hentered
  obtain ⟨x, hx, m, rfl, cw20, res, hexec, rfl⟩ := hentered
  exact ⟨gas', x, m, cw20, res, rest, rfl, hx, hexec, hrest, rfl⟩

theorem call_staking
    (h : runCall out dep gas (.message sender (.execute dep.staking.addr msg funds)) w =
      .ok (w', r)) :
    ∃ gas' x m staking res rest, msg = .staking m ∧
      out.transfer sender dep.staking.addr funds w.outside = .ok x ∧
      Staking.execute api w.staking
        ⟨out.querier x, ⟨w.block, dep.staking.addr⟩, ⟨sender, funds⟩, m⟩ = .ok (staking, res) ∧
      runMessages (runCall out dep gas') dep.staking.addr res.messages
        { w with staking, outside := x } = .ok (w', rest) ∧
      r = ⟨wasmEvents dep.staking.addr res.attributes ++ rest.events,
        (sender, .execute dep.staking.addr msg funds) :: rest.executed⟩ := by
  obtain ⟨gas', entered, rest, hentered, hrest, rfl⟩ := runCall_ok h
  simp only [enter, enterExecute, dep.pool_ne_staking.symm, dep.cw20_ne_staking.symm, if_false,
    if_true, bind_ok, asStaking_ok, pure_ok, Prod.exists] at hentered
  obtain ⟨x, hx, m, rfl, staking, res, hexec, rfl⟩ := hentered
  exact ⟨gas', x, m, staking, res, rest, rfl, hx, hexec, hrest, rfl⟩

/-- A message of Anchor or the lottery runs outside; none of the three contracts
understands it. -/
def foreign : ExecMsg → Bool
  | .depositStable | .send _ _ _ | .register _ _ _ => true
  | .pool _ | .cw20 _ | .staking _ => false

theorem call_foreign (alien : foreign msg = true)
    (h : runCall out dep gas (.message sender (.execute target msg funds)) w = .ok (w', r)) :
    (∃ x, w' = { w with outside := x }) ∧ r.executed = [(sender, .execute target msg funds)] := by
  have notPool (m : Pool.ExecuteMsg) : asPool msg ≠ .ok m := by
    intro same
    rw [asPool_ok.mp same] at alien
    cases alien
  have notCw20 (m : Cw20.ExecuteMsg) : asCw20 msg ≠ .ok m := by
    intro same
    rw [asCw20_ok.mp same] at alien
    cases alien
  have notStaking (m : Staking.ExecuteMsg) : asStaking msg ≠ .ok m := by
    intro same
    rw [asStaking_ok.mp same] at alien
    cases alien
  obtain ⟨gas', entered, rest, hentered, hrest, rfl⟩ := runCall_ok h
  simp only [enter, enterExecute, bind_ok] at hentered
  obtain ⟨x, _, hentered⟩ := hentered
  split at hentered
  · obtain ⟨m, parsed, _⟩ := bind_ok.mp hentered
    exact absurd parsed (notPool m)
  · split at hentered
    · obtain ⟨m, parsed, _⟩ := bind_ok.mp hentered
      exact absurd parsed (notCw20 m)
    · split at hentered
      · obtain ⟨m, parsed, _⟩ := bind_ok.mp hentered
        exact absurd parsed (notStaking m)
      · simp only [bind_ok, pure_ok, Prod.exists] at hentered
        obtain ⟨x', events, _, rfl⟩ := hentered
        obtain ⟨rfl, rfl⟩ := runMessages_nil hrest
        exact ⟨⟨x', rfl⟩, rfl⟩

theorem call_bank {toAddress : Addr} {amount : List Coin}
    (h : runCall out dep gas (.message sender (.bankSend toAddress amount)) w = .ok (w', r)) :
    (∃ x, w' = { w with outside := x }) ∧ r.executed = [(sender, .bankSend toAddress amount)] := by
  obtain ⟨gas', entered, rest, hentered, hrest, rfl⟩ := runCall_ok h
  simp only [enter, bind_ok, pure_ok] at hentered
  obtain ⟨x, _, rfl⟩ := hentered
  obtain ⟨rfl, rfl⟩ := runMessages_nil hrest
  exact ⟨⟨x, rfl⟩, rfl⟩

theorem call_reply {id : ℕ} {events : List Event}
    (h : runCall out dep gas (.reply dep.pool.addr id events) w = .ok (w', r)) :
    ∃ gas' pool res rest,
      Pool.reply api (out.querier w.outside) ⟨w.block, dep.pool.addr⟩ w.pool id (.ok events) =
        .ok (pool, res) ∧
      runMessages (runCall out dep gas') dep.pool.addr res.messages { w with pool } =
        .ok (w', rest) ∧
      r.executed = rest.executed := by
  obtain ⟨gas', entered, rest, hentered, hrest, rfl⟩ := runCall_ok h
  simp only [enter, bind_ok, rejectIf_ok, pure_ok, Prod.exists] at hentered
  obtain ⟨_, _, pool, res, hexec, rfl⟩ := hentered
  exact ⟨gas', pool, res, rest, hexec, hrest, rfl⟩

end Enter

/-! The outside follows from the executed messages alone. -/

/-- One executed message, seen from outside. -/
def outsideStep (out : Outside χ) (dep : Deployment api) (x : χ) :
    Addr × CosmosMsg → Except Fault χ
  | (sender, .execute target msg funds) => do
    let x ← out.transfer sender target funds x
    if ours dep target then pure x
    else do
      let (x, _) ← out.execute sender target msg funds x
      pure x
  | (sender, .bankSend toAddress amount) => out.transfer sender toAddress amount x
  | (_, .instantiate _ _ _ _ _) => .error (.chain "the system is already deployed")

theorem enter_outside {call : Call} {w : World χ} {entered : Entered χ}
    (h : enter out dep w call = .ok entered) :
    call.executed.foldlM (outsideStep out dep) w.outside = .ok entered.world.outside := by
  cases call with
  | reply contract id events =>
      simp only [enter, bind_ok, pure_ok, Prod.exists] at h
      obtain ⟨_, _, pool, res, _, rfl⟩ := h
      rfl
  | message sender msg =>
      simp only [Call.executed, List.foldlM_cons, List.foldlM_nil, bind_pure]
      cases msg with
      | instantiate _ _ _ _ _ => cases h
      | bankSend toAddress amount =>
          simp only [enter, bind_ok, pure_ok] at h
          obtain ⟨x, moved, rfl⟩ := h
          exact moved
      | execute target msg funds =>
          simp only [enter, enterExecute, bind_ok] at h
          obtain ⟨x, moved, h⟩ := h
          simp only [outsideStep, moved, ok_bind]
          split at h
          · next isPool =>
            rw [if_pos (show ours dep target from .inl isPool)]
            simp only [bind_ok, pure_ok, Prod.exists] at h
            obtain ⟨_, _, _, _, _, rfl⟩ := h
            rfl
          · next notPool =>
            split at h
            · next isCw20 =>
              rw [if_pos (show ours dep target from .inr (.inl isCw20))]
              simp only [bind_ok, pure_ok, Prod.exists] at h
              obtain ⟨_, _, _, _, _, rfl⟩ := h
              rfl
            · next notCw20 =>
              split at h
              · next isStaking =>
                rw [if_pos (show ours dep target from .inr (.inr isStaking))]
                simp only [bind_ok, pure_ok, Prod.exists] at h
                obtain ⟨_, _, _, _, _, rfl⟩ := h
                rfl
              · next notStaking =>
                have notOurs : ¬ ours dep target := by
                  rintro (same | same | same)
                  · exact notPool same
                  · exact notCw20 same
                  · exact notStaking same
                simp only [bind_ok, pure_ok, Prod.exists] at h
                obtain ⟨x', events, ran, rfl⟩ := h
                rw [if_neg notOurs, ran]
                simp only [ok_bind]
                rfl

theorem runMessages_outside {exec : Call → World χ → Except Fault (World χ × Receipt)}
    {self : Addr} (each : ∀ {call w w' r}, exec call w = .ok (w', r) →
      r.executed.foldlM (outsideStep out dep) w.outside = .ok w'.outside)
    {messages : List SubMsg} {w w' : World χ} {r : Receipt}
    (h : runMessages exec self messages w = .ok (w', r)) :
    r.executed.foldlM (outsideStep out dep) w.outside = .ok w'.outside := by
  induction messages generalizing w w' r with
  | nil =>
      obtain ⟨rfl, rfl⟩ := runMessages_nil h
      rfl
  | cons sub messages ih =>
      obtain ⟨msg, id⟩ := sub
      cases id with
      | none =>
          obtain ⟨w₁, first, rest, hfirst, hrest, executed⟩ := runMessages_cons h
          simp only [executed, List.foldlM_append, each hfirst, ih hrest, ok_bind]
      | some id =>
          simp only [runMessages, bind_ok, pure_ok, Prod.exists, Prod.mk.injEq] at h
          obtain ⟨w₁, first, hfirst, w₂, replied, hreplied, w₃, rest, hrest, rfl, rfl⟩ := h
          simp only [Receipt.append, List.foldlM_append, each hfirst, each hreplied, ih hrest,
            ok_bind]

theorem runCall_outside {gas : ℕ} {call : Call} {w w' : World χ} {r : Receipt}
    (h : runCall out dep gas call w = .ok (w', r)) :
    r.executed.foldlM (outsideStep out dep) w.outside = .ok w'.outside := by
  induction gas generalizing call w w' r with
  | zero => cases h
  | succ gas ih =>
      simp only [runCall, bind_ok, pure_ok, Prod.exists, Prod.mk.injEq] at h
      obtain ⟨entered, hentered, w₁, rest, hrest, rfl, rfl⟩ := h
      simp only [List.foldlM_append, enter_outside hentered, ok_bind]
      exact runMessages_outside ih hrest

theorem runTx_outside {w w' : World χ} {tx : Tx api} {r : Receipt}
    (h : runTx out dep w tx = .ok (w', r)) :
    r.executed.foldlM (outsideStep out dep) w.outside = .ok w'.outside := by
  simp only [runTx, bind_ok] at h
  obtain ⟨_, _, _, _, h⟩ := h
  exact runCall_outside h

end DogetherContracts.System
