import DogetherContracts.Staking.Claims
import DogetherContracts.Staking.Eager

/-! # Range of the reward arithmetic

As long as the amounts ever bonded and the rewards ever claimed have a decimal
form, every settlement of every holder does. -/
namespace DogetherContracts.Staking
open Checked Run

/-- The largest whole number that `Decimal` holds. -/
def maxWhole : ℕ := (2 ^ 128 - 1) / 10 ^ 18

theorem scaled_lt {n : ℕ} (h : n ≤ maxWhole) : n * 10 ^ 18 < 2 ^ 128 :=
  calc n * 10 ^ 18 ≤ maxWhole * 10 ^ 18 := Nat.mul_le_mul_right _ h
    _ < 2 ^ 128 := by decide

def bondedAmount (api : Api) (st : Storage) (call : Call) : ℕ :=
  match call.msg with
  | .receive wrapper => if succeeds api st call then wrapper.amount.val else 0
  | _ => 0

def claimedAmount (api : Api) (st : Storage) (call : Call) : ℕ :=
  match call.msg with
  | .updateGlobalIndex => if succeeds api st call then claimedRewards st call else 0
  | _ => 0

/-- Stake in the contract was bonded, and rewards in the counter were claimed. -/
structure Bounded (st : Storage) (bonded claimed : ℕ) : Prop where
  total : st.state.totalBalance.val ≤ bonded
  prev : st.state.prevRewardBalance.val ≤ claimed

theorem step_bounded (api : Api) {st : Storage} {bonded claimed : ℕ}
    (h : Bounded st bonded claimed) (call : Call) :
    Bounded (step api st call) (bonded + bondedAmount api st call)
      (claimed + claimedAmount api st call) := by
  have total := h.total
  have prev := h.prev
  cases result : execute api st call with
  | error e =>
      rw [step_error result]
      exact ⟨by omega, by omega⟩
  | ok r =>
      have accepted : succeeds api st call = true := succeeds_iff.mpr ⟨r, result⟩
      rw [step_ok result]
      obtain ⟨querier, env, info, msg⟩ := call
      cases execute_effect result with
      | updated done =>
          simp only [bondedAmount, claimedAmount, accepted, if_true, done.claimed_eq]
          refine ⟨?_, ?_⟩
          · rw [done.total]
            exact total
          · rw [done.prev]
            omega
      | bonded done =>
          simp only [bondedAmount, claimedAmount, accepted, if_true]
          refine ⟨?_, ?_⟩
          · rw [done.total]
            omega
          · rw [done.prev]
            exact prev
      | unbonded done =>
          have removed := done.total
          refine ⟨by simp only [bondedAmount]; omega, ?_⟩
          rw [done.prev]
          exact prev
      | withdrawn done =>
          rw [done.rest]
          exact ⟨total, prev⟩
      | bought done =>
          have spent := done.prev
          refine ⟨?_, by simp only [claimedAmount]; omega⟩
          rw [done.total]
          exact total

theorem reached_bounded (api : Api) (config : Config) (calls : List Call) :
    Bounded (reached api config calls)
      (tally (step api) (bondedAmount api) (.initial config) calls)
      (tally (step api) (claimedAmount api) (.initial config) calls) := by
  induction calls using List.reverseRecOn with
  | nil => exact ⟨Nat.le_refl _, Nat.le_refl _⟩
  | append_singleton calls call ih =>
      simpa only [reached, run_snoc, tally_snoc] using step_bounded api ih call

theorem step_config (api : Api) (st : Storage) (call : Call) :
    (step api st call).config = st.config := by
  cases result : execute api st call with
  | error e => rw [step_error result]
  | ok r =>
      rw [step_ok result]
      obtain ⟨querier, env, info, msg⟩ := call
      cases execute_effect result with
      | updated done => exact done.config
      | bonded done => exact done.settled.config
      | unbonded done => exact done.settled.config
      | withdrawn done => rw [done.rest]
      | bought done => exact done.settled.config

theorem reached_config (api : Api) (config : Config) (calls : List Call) :
    (reached api config calls).config = config :=
  run_invariant (fun st => st.config = config) rfl
    (fun st call h => (step_config api st call).trans h) calls

/-- Within the bounds every holder's settlement is in range. -/
theorem Solvent.representable {st : Storage} {dust bonded claimed : ℕ} (sound : Solvent st dust)
    (h : Bounded st bonded claimed) (hb : bonded ≤ maxWhole) (hc : claimed ≤ maxWhole)
    (a : CanonicalAddr) : Representable st a := by
  constructor
  · apply scaled_lt
    have part := st.balance_le_balances a
    rw [← sound.staked] at part
    exact (part.trans h.total).trans hb
  · exact ((st.owed_le_liability a).trans sound.covers.enough).trans_lt
      (scaled_lt (h.prev.trans hc))

theorem handleUnbound_succeeds {api : Api} {env : Env} {info : MessageInfo} {st : Storage}
    {amount : Uint128} {address : String} {a : CanonicalAddr} {d : Decimal}
    (admin : api.addrCanonicalize info.sender = some st.config.admin) (funds : info.funds = [])
    (canonical : api.addrCanonicalize address = some a) (positive : 0 < amount.val)
    (held : amount.val ≤ (st.readHolder a).balance.val)
    (settled : settledRewards st.state.globalIndex (st.readHolder a) = .ok d)
    (total : amount.val ≤ st.state.totalBalance.val)
    (height : env.block.height.val + st.config.unbondingPeriod.val < 2 ^ 64) :
    ∃ r, handleUnbound api env info st amount address = .ok r := by
  obtain ⟨balance, hbalance⟩ := Word.sub_of_le (e := overflow) held
  obtain ⟨rest, hrest⟩ := Word.sub_of_le (e := overflow) total
  obtain ⟨release, hrelease⟩ := Word.add_of_lt (e := Fault.panic) height
  have enough : ¬ (st.readHolder a).balance < amount := Nat.not_lt_of_le held
  simp only [handleUnbound, Api.canonicalize, orReject_ok.mpr admin, orReject_ok.mpr canonical,
    ok_bind, rejectIf_neg _ (not_not.mpr rfl), rejectIf_neg _ (not_not.mpr funds),
    rejectIf_neg _ (Nat.ne_of_gt positive), rejectIf_neg _ enough, settled,
    hbalance, hrest, hrelease]
  exact ⟨_, rfl⟩

theorem handleReceive_succeeds {api : Api} {info : MessageInfo} {st : Storage}
    {wrapper : Cw20.Cw20ReceiveMsg} {a : CanonicalAddr} {d : Decimal}
    (token : api.addrHumanize st.config.cw20TokenAddr = some info.sender) (funds : info.funds = [])
    (msg : wrapper.msg = .bondStake) (canonical : api.addrCanonicalize wrapper.sender = some a)
    (positive : 0 < wrapper.amount.val)
    (settled : settledRewards st.state.globalIndex (st.readHolder a) = .ok d)
    (balance : (st.readHolder a).balance.val + wrapper.amount.val < 2 ^ 128)
    (total : st.state.totalBalance.val + wrapper.amount.val < 2 ^ 128) :
    ∃ r, handleReceive api info st wrapper = .ok r := by
  obtain ⟨raised, hraised⟩ := Word.add_of_lt (e := Fault.panic) balance
  obtain ⟨sum, hsum⟩ := Word.add_of_lt (e := Fault.panic) total
  simp only [handleReceive, handleBond, Api.humanize, Api.canonicalize, orReject_ok.mpr token,
    orReject_ok.mpr canonical, msg, ReceiveMsg.fromBinary, ok_bind,
    rejectIf_neg _ (not_not.mpr rfl), rejectIf_neg _ (not_not.mpr funds),
    rejectIf_neg _ (Nat.ne_of_gt positive), settled, hraised, hsum]
  exact ⟨_, rfl⟩

/-- With at most `maxWhole` ever bonded and ever claimed, no settlement leaves
its range: stake can be taken out, in exchange for a claim, and put in, and rewards
can be read. -/
theorem stake_never_trapped (api : Api) (config : Config) (calls : List Call)
    (bonded : tally (step api) (bondedAmount api) (.initial config) calls ≤ maxWhole)
    (claimed : tally (step api) (claimedAmount api) (.initial config) calls ≤ maxWhole) :
    (∀ a h, (reached api config calls).holders.lookup a = some h →
        h.index.val ≤ (reached api config calls).state.globalIndex.val) ∧
      (∀ a, ∃ d, settledRewards (reached api config calls).state.globalIndex
        ((reached api config calls).readHolder a) = .ok d) ∧
      (∀ querier env info amount address a,
        api.addrCanonicalize info.sender = some config.admin → info.funds = [] →
        api.addrCanonicalize address = some a → 1 ≤ amount.val →
        amount.val ≤ ((reached api config calls).readHolder a).balance.val →
        env.block.height.val + config.unbondingPeriod.val < 2 ^ 64 →
        ∃ st' res release, execute api (reached api config calls)
            ⟨querier, env, info, .unbondStake amount address⟩ = .ok (st', res) ∧
          (st'.readHolder a).balance.val + amount.val =
            ((reached api config calls).readHolder a).balance.val ∧
          st'.state.totalBalance.val + amount.val =
            (reached api config calls).state.totalBalance.val ∧
          st'.readClaims a =
            (reached api config calls).readClaims a ++ [⟨amount, .atHeight release⟩] ∧
          release.val = env.block.height.val + config.unbondingPeriod.val) ∧
      (∀ querier env info wrapper a,
        api.addrHumanize config.cw20TokenAddr = some info.sender → info.funds = [] →
        wrapper.msg = .bondStake → api.addrCanonicalize wrapper.sender = some a →
        0 < wrapper.amount.val →
        tally (step api) (bondedAmount api) (.initial config) calls + wrapper.amount.val ≤
          maxWhole →
        ∃ r, execute api (reached api config calls) ⟨querier, env, info, .receive wrapper⟩ =
          .ok r) ∧
      ∀ address a, api.addrCanonicalize address = some a →
        ∃ rewards, queryAccruedRewards api (reached api config calls) address = .ok rewards := by
  have sound := reached_solvent api config calls
  have bounds := reached_bounded api config calls
  have same := reached_config api config calls
  generalize reached api config calls = st at *
  have inRange := sound.representable bounds bonded claimed
  have settles (a : CanonicalAddr) := (sound.settles_iff a).mpr (inRange a)
  have part (a : CanonicalAddr) := st.balance_le_balances a
  rw [← sound.staked] at part
  refine ⟨sound.behind, settles, ?_, ?_, ?_⟩
  · intro querier env info amount address a admin funds canonical positive held height
    obtain ⟨d, settled⟩ := settles a
    rw [← same] at admin height ⊢
    obtain ⟨⟨st', res⟩, ran⟩ := handleUnbound_succeeds admin funds canonical positive held settled
      (held.trans (part a)) height
    obtain ⟨⟨a', holder, release, done⟩, _⟩ := handleUnbound_ok ran
    obtain rfl := Except.ok.inj (done.holder.symm.trans (orReject_ok.mpr canonical))
    exact ⟨st', res, release, ran, by rw [done.settled.readHolder_self]; exact done.balance,
      done.total, done.readClaims_self, done.matures⟩
  · intro querier env info wrapper a token funds msg canonical positive room
    obtain ⟨d, settled⟩ := settles a
    rw [← same] at token
    have top : maxWhole < 2 ^ 128 := by decide
    have total := bounds.total
    have held := part a
    exact handleReceive_succeeds token funds msg canonical positive settled (by omega) (by omega)
  · intro address a canonical
    obtain ⟨_, fits⟩ := inRange a
    exact ⟨⟨st.owed a / 10 ^ 18, (Nat.div_le_self _ _).trans_lt fits⟩,
      (sound.query_iff _ _).mpr ⟨a, canonical, inRange a, rfl⟩⟩

/-- Alice bonds, rewards come in, and she can leave: 10 are hers to claim later. -/
theorem alice_never_trapped :
    ∃ st' res release, execute Sample.api
        (reached Sample.api Sample.config [Sample.bond "alice" (.ofNat 10),
          Sample.update (.ofNat 3)])
        (Sample.unbond "alice" (.ofNat 10)) = .ok (st', res) ∧
      (st'.readHolder [4]).balance.val + 10 = 10 ∧ st'.state.totalBalance.val + 10 = 10 ∧
      st'.readClaims [4] = [⟨.ofNat 10, .atHeight release⟩] := by
  obtain ⟨_, _, unbonds, _⟩ := stake_never_trapped Sample.api Sample.config
    [Sample.bond "alice" (.ofNat 10), Sample.update (.ofNat 3)] (by decide +kernel)
    (by decide +kernel)
  obtain ⟨st', res, release, ran, balance, total, claims, _⟩ := unbonds (Sample.querier 0 0)
    Sample.env ⟨"admin", []⟩ (.ofNat 10) "alice" [4] (by decide) rfl (by decide) (by decide)
    (by decide +kernel) (by decide)
  have held : ((reached Sample.api Sample.config [Sample.bond "alice" (.ofNat 10),
      Sample.update (.ofNat 3)]).readHolder [4]).balance.val = 10 ∧
      (reached Sample.api Sample.config [Sample.bond "alice" (.ofNat 10),
        Sample.update (.ofNat 3)]).state.totalBalance.val = 10 ∧
      (reached Sample.api Sample.config [Sample.bond "alice" (.ofNat 10),
        Sample.update (.ofNat 3)]).readClaims [4] = [] := by
    decide +kernel
  rw [held.2.2] at claims
  exact ⟨st', res, release, ran, balance.trans held.1, total.trans held.2.1, claims⟩

end DogetherContracts.Staking
