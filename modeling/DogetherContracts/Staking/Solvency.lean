import DogetherContracts.Staking.Effects

/-! # Reward solvency

The reward counter covers what all holders are owed, and exceeds it by no more
than the roundings so far. -/
namespace DogetherContracts.Staking
open Checked Run

namespace Settled

variable {st st' : Storage} {a : CanonicalAddr} {h : Holder}

theorem readHolder_self (s : Settled st a h st') : st'.readHolder a = h :=
  st.readHolder_insert_eq s.holders

theorem readHolder_other (s : Settled st a h st') {b : CanonicalAddr} (ne : b ≠ a) :
    st'.readHolder b = st.readHolder b :=
  st.readHolder_insert_ne s.holders ne

theorem accrued (s : Settled st a h st') :
    h.position.accrued st.state.globalIndex.val = h.pendingRewards.val := by
  simp [LazyIndex.Position.accrued, Holder.position, s.index]

theorem owed_self (s : Settled st a h st') : st'.owed a = h.pendingRewards.val := by
  rw [Storage.owed, s.readHolder_self, s.globalIndex, s.accrued]

theorem owed_other (s : Settled st a h st') {b : CanonicalAddr} (ne : b ≠ a) :
    st'.owed b = st.owed b := by
  rw [Storage.owed, s.readHolder_other ne, s.globalIndex, Storage.owed]

/-- The liability changes by what the settled holder keeps. -/
theorem liability (s : Settled st a h st') :
    st'.liability + st.owed a = st.liability + h.pendingRewards.val := by
  rw [← st.valueAt_owed, ← s.accrued, Storage.liability, s.holders, s.globalIndex]
  exact Table.total_insert _ _ _ _

theorem balances (s : Settled st a h st') :
    st'.balances + (st.readHolder a).balance.val = st.balances + h.balance.val := by
  rw [← st.valueAt_balance, Storage.balances, s.holders]
  exact Table.total_insert _ _ _ _

theorem behind_kept (s : Settled st a h st')
    (behind : ∀ b g, st.holders.lookup b = some g → g.index.val ≤ st.state.globalIndex.val) :
    ∀ b g, st'.holders.lookup b = some g → g.index.val ≤ st'.state.globalIndex.val := by
  intro b g found
  rw [s.globalIndex]
  rw [s.holders] at found
  by_cases same : b = a
  · subst b
    rw [Table.lookup_insert_eq] at found
    cases found
    rw [s.index]
  · rw [Table.lookup_insert_ne _ _ same] at found
    exact behind b g found

end Settled

theorem Updated.readHolder {api : Api} {querier : Querier} {env : Env} {info : MessageInfo}
    {st st' : Storage} {claimed : ℕ} (done : Updated api querier env info st st' claimed)
    (a : CanonicalAddr) : st'.readHolder a = st.readHolder a := by
  rw [Storage.readHolder, done.holders, Storage.readHolder]

/-- A purchase of tickets leaves every stake alone, also the recipient's. -/
theorem Bought.balance_kept {api : Api} {querier : Querier} {st st' : Storage} {recipient : String}
    {combination : List String} {quote : Quote} {h : Holder} {loterra : Addr}
    (done : Bought api querier st st' recipient combination quote h loterra) (a : CanonicalAddr) :
    (st'.readHolder a).balance = (st.readHolder a).balance := by
  by_cases same : a = quote.addrRaw
  · rw [same, done.settled.readHolder_self, done.balance]
  · rw [done.settled.readHolder_other same]

/-- The invariant of every reachable storage, with the dust that rounding may
have left in the counter. -/
structure Solvent (st : Storage) (dust : ℕ) : Prop where
  behind : ∀ a h, st.holders.lookup a = some h → h.index.val ≤ st.state.globalIndex.val
  staked : st.state.totalBalance.val = st.balances
  covers : LazyIndex.Covers (10 ^ 18) st.state.prevRewardBalance.val st.liability dust

theorem Solvent.initial (config : Config) : Solvent (.initial config) 0 where
  behind := by
    intro a h found
    cases (Finmap.lookup_empty a).symm.trans found
  staked := (Storage.balances_initial config).symm
  covers := by
    rw [Storage.liability_initial]
    exact .empty _

/-- A settlement that keeps the counter and pays nothing keeps solvency. -/
theorem Solvent.settle {st st' : Storage} {a : CanonicalAddr} {h : Holder} {dust : ℕ}
    (sound : Solvent st dust) (s : Settled st a h st') (pending : h.pendingRewards.val = st.owed a)
    (prev : st'.state.prevRewardBalance = st.state.prevRewardBalance)
    (total : st'.state.totalBalance.val + (st.readHolder a).balance.val =
      st.state.totalBalance.val + h.balance.val) : Solvent st' dust where
  behind := s.behind_kept sound.behind
  staked := by
    have moved := s.balances
    have staked := sound.staked
    omega
  covers := by
    have same : st'.liability = st.liability := by
      have moved := s.liability
      omega
    rw [prev, same]
    exact sound.covers

theorem Bonded.solvent {api : Api} {info : MessageInfo} {st st' : Storage}
    {wrapper : Cw20.Cw20ReceiveMsg} {a : CanonicalAddr} {h : Holder} {dust : ℕ}
    (done : Bonded api info st st' wrapper a h) (sound : Solvent st dust) : Solvent st' dust := by
  apply sound.settle done.settled done.pending done.prev
  rw [done.total, done.balance]
  omega

theorem Unbonded.solvent {api : Api} {env : Env} {info : MessageInfo} {st st' : Storage}
    {amount : Uint128} {address : String} {a : CanonicalAddr} {h : Holder} {release : Uint64}
    {dust : ℕ} (done : Unbonded api env info st st' amount address a h release)
    (sound : Solvent st dust) : Solvent st' dust := by
  apply sound.settle done.settled done.pending done.prev
  rw [← done.total, ← done.balance]
  omega

theorem Updated.solvent {api : Api} {querier : Querier} {env : Env} {info : MessageInfo}
    {st st' : Storage} {claimed dust : ℕ} (done : Updated api querier env info st st' claimed)
    (sound : Solvent st dust) : Solvent st' (dust + st.state.totalBalance.val) where
  behind := by
    intro a h found
    rw [done.holders] at found
    rw [done.globalIndex]
    exact Nat.le_add_right_of_le (sound.behind a h found)
  staked := by
    rw [done.total, sound.staked, Storage.balances, Storage.balances, done.holders]
  covers := by
    have raised : st'.liability = st.liability +
        LazyIndex.perWeight (10 ^ 18) claimed st.state.totalBalance.val *
          st.state.totalBalance.val := by
      rw [Storage.liability, done.globalIndex, done.holders,
        LazyIndex.liability_advance (fun a h found => sound.behind a h found)]
      rw [sound.staked]
      rfl
    rw [raised, done.prev]
    exact sound.covers.distribute claimed done.staked

theorem Withdrawn.solvent {api : Api} {env : Env} {info : MessageInfo} {st st' : Storage}
    {cap : Option Uint128} {address : String} {a : CanonicalAddr} {amount : Uint128}
    {waiting : List Claim} {token : Addr} {dust : ℕ}
    (done : Withdrawn api env info st st' cap address a amount waiting token)
    (sound : Solvent st dust) : Solvent st' dust := by
  rw [done.rest]
  exact ⟨sound.behind, sound.staked, sound.covers⟩

/-- A purchase turns the fraction of the recipient's reward into dust. -/
theorem Bought.solvent {api : Api} {querier : Querier} {st st' : Storage} {recipient : String}
    {combination : List String} {quote : Quote} {h : Holder} {loterra : Addr} {dust : ℕ}
    (done : Bought api querier st st' recipient combination quote h loterra)
    (sound : Solvent st dust) : Solvent st' (dust + st.owed quote.addrRaw % 10 ^ 18) where
  behind := done.settled.behind_kept sound.behind
  staked := by
    have moved := done.settled.balances
    have staked := sound.staked
    rw [done.balance] at moved
    rw [done.total]
    omega
  covers := by
    apply sound.covers.spend (r := st.owed quote.addrRaw) (n := quote.price.totalTicketWithFees.val)
    · rw [← done.rewards]
      exact done.enough
    · rw [← done.rewards, ← done.pending]
      exact done.settled.liability
    · exact done.prev

/-! The two sources of dust, as weights of a call. -/

def updatedBalance (api : Api) (st : Storage) (call : Call) : ℕ :=
  match call.msg with
  | .updateGlobalIndex => if succeeds api st call then st.state.totalBalance.val else 0
  | _ => 0

def purchases (api : Api) (st : Storage) (call : Call) : ℕ :=
  match call.msg with
  | .getTicket _ _ => if succeeds api st call then 1 else 0
  | _ => 0

/-- Whose rewards a purchase that goes through spends. -/
def buyer (api : Api) (st : Storage) (call : Call) : Option CanonicalAddr :=
  match call.msg with
  | .getTicket recipient _ =>
    if succeeds api st call then api.addrCanonicalize recipient else none
  | _ => none

/-- The fraction of a unit in the buyer's accrued reward. -/
def fraction (api : Api) (st : Storage) (call : Call) : ℕ :=
  match buyer api st call with
  | some a => st.owed a % 10 ^ 18
  | none => 0

theorem fraction_le (api : Api) (st : Storage) (call : Call) :
    fraction api st call ≤ 10 ^ 18 * purchases api st call := by
  obtain ⟨querier, env, info, msg⟩ := call
  cases msg with
  | getTicket recipient combination =>
      simp only [fraction, buyer, purchases]
      by_cases accepted : succeeds api st ⟨querier, env, info, .getTicket recipient combination⟩
      · rw [if_pos accepted, if_pos accepted]
        cases api.addrCanonicalize recipient with
        | none => exact Nat.zero_le _
        | some a => exact (Nat.mod_lt _ (by norm_num)).le
      · rw [if_neg accepted]
        exact Nat.zero_le _
  | _ => exact Nat.zero_le _

theorem Bought.buyer_eq {api : Api} {querier : Querier} {env : Env} {info : MessageInfo}
    {st st' : Storage} {recipient : String} {combination : List String} {quote : Quote} {h : Holder}
    {loterra : Addr} (done : Bought api querier st st' recipient combination quote h loterra)
    (accepted : succeeds api st ⟨querier, env, info, .getTicket recipient combination⟩ = true) :
    buyer api st ⟨querier, env, info, .getTicket recipient combination⟩ = some quote.addrRaw := by
  simp only [buyer, if_pos accepted]
  exact orReject_ok.mp (quoteTickets_ok done.quoted).1

theorem Solvent.weaken {st : Storage} {dust dust' : ℕ} (sound : Solvent st dust)
    (le : dust ≤ dust') : Solvent st dust' :=
  ⟨sound.behind, sound.staked, sound.covers.weaken le⟩

theorem step_solvent (api : Api) {st : Storage} {dust : ℕ} (sound : Solvent st dust)
    (call : Call) : Solvent (step api st call)
      (dust + updatedBalance api st call + fraction api st call) := by
  cases result : execute api st call with
  | error e =>
      rw [step_error result]
      exact sound.weaken (by omega)
  | ok r =>
      have accepted : succeeds api st call = true := succeeds_iff.mpr ⟨r, result⟩
      rw [step_ok result]
      obtain ⟨querier, env, info, msg⟩ := call
      cases execute_effect result with
      | updated done =>
          simpa only [updatedBalance, fraction, buyer, accepted, if_true, Nat.add_zero]
            using done.solvent sound
      | bonded done => exact done.solvent sound
      | unbonded done => exact done.solvent sound
      | withdrawn done => exact done.solvent sound
      | bought done =>
          simpa only [updatedBalance, fraction, done.buyer_eq accepted, Nat.add_zero]
            using done.solvent sound

/-- The storage after a run of calls on a fresh contract. -/
def reached (api : Api) (config : Config) (calls : List Call) : Storage :=
  run (step api) (.initial config) calls

def dustSoFar (api : Api) (config : Config) (calls : List Call) : ℕ :=
  tally (step api) (updatedBalance api) (.initial config) calls +
    10 ^ 18 * tally (step api) (purchases api) (.initial config) calls

/-- The dust is what index updates and purchases rounded away. -/
theorem reached_solvent_exact (api : Api) (config : Config) (calls : List Call) :
    Solvent (reached api config calls)
      (tally (step api) (updatedBalance api) (.initial config) calls +
        tally (step api) (fraction api) (.initial config) calls) := by
  induction calls using List.reverseRecOn with
  | nil => exact Solvent.initial config
  | append_singleton calls call ih =>
      have next := step_solvent api ih call
      simp only [reached, run_snoc, tally_snoc] at next ⊢
      exact next.weaken (by omega)

theorem reached_solvent (api : Api) (config : Config) (calls : List Call) :
    Solvent (reached api config calls) (dustSoFar api config calls) := by
  have fractions : tally (step api) (fraction api) (.initial config) calls ≤
      10 ^ 18 * tally (step api) (purchases api) (.initial config) calls := by
    induction calls using List.reverseRecOn with
    | nil => exact Nat.zero_le _
    | append_singleton calls call ih =>
        have next := fraction_le api (run (step api) (.initial config) calls) call
        rw [tally_snoc, tally_snoc, Nat.mul_add]
        exact Nat.add_le_add ih next
  exact (reached_solvent_exact api config calls).weaken (Nat.add_le_add_left fractions _)

/-! What the contract reports, and what a purchase may take. -/

def reported (api : Api) (st : Storage) (address : String) : ℕ :=
  match queryAccruedRewards api st address with
  | .ok rewards => rewards.val
  | .error _ => 0

theorem queryAccruedRewards_ok {api : Api} {st : Storage} {address : String} {rewards : Uint128} :
    queryAccruedRewards api st address = .ok rewards ↔ ∃ a d,
      api.addrCanonicalize address = some a ∧
      settledRewards st.state.globalIndex (st.readHolder a) = .ok d ∧
      rewards.val = st.owed a / 10 ^ 18 := by
  simp only [queryAccruedRewards, bind_ok, Api.canonicalize, orReject_ok]
  refine exists_congr fun a => ⟨?_, ?_⟩
  · rintro ⟨canonical, d, settled, whole⟩
    rw [Decimal.mulUint_ok, (settledRewards_ok.mp settled).2.2, Uint128.val_one,
      Nat.one_mul] at whole
    exact ⟨d, canonical, settled, whole⟩
  · rintro ⟨d, canonical, settled, whole⟩
    refine ⟨canonical, d, settled, ?_⟩
    rw [Decimal.mulUint_ok, (settledRewards_ok.mp settled).2.2, Uint128.val_one, Nat.one_mul]
    exact whole

theorem reported_le {api : Api} {st : Storage} {address : String} {a : CanonicalAddr}
    (canonical : api.addrCanonicalize address = some a) :
    10 ^ 18 * reported api st address ≤ st.owed a := by
  unfold reported
  split
  · next rewards asked =>
    obtain ⟨b, _, canonical', _, whole⟩ := queryAccruedRewards_ok.mp asked
    cases canonical.symm.trans canonical'
    rw [whole]
    exact Nat.mul_div_le _ _
  · exact Nat.zero_le _

theorem reported_eq_zero {api : Api} {st : Storage} {address : String}
    (unknown : api.addrCanonicalize address = none) : reported api st address = 0 := by
  rw [reported, queryAccruedRewards, Api.canonicalize, unknown]
  rfl

/-- Reports for different holders add up to no more than the liability. -/
theorem reported_sum_le (api : Api) (st : Storage) {addresses : List String}
    (distinct : (addresses.filterMap api.addrCanonicalize).Nodup) :
    10 ^ 18 * (addresses.map (reported api st)).sum ≤ st.liability := by
  have each : 10 ^ 18 * (addresses.map (reported api st)).sum ≤
      ((addresses.filterMap api.addrCanonicalize).map st.owed).sum := by
    clear distinct
    induction addresses with
    | nil => exact Nat.le_refl _
    | cons address addresses ih =>
        rw [List.map_cons, List.sum_cons, Nat.mul_add]
        cases canonical : api.addrCanonicalize address with
        | none =>
            rw [List.filterMap_cons_none canonical, reported_eq_zero canonical]
            omega
        | some a =>
            rw [List.filterMap_cons_some canonical, List.map_cons, List.sum_cons]
            exact Nat.add_le_add (reported_le canonical) ih
  apply each.trans
  have same : st.owed = Table.valueAt
      (fun h : Holder => h.position.accrued st.state.globalIndex.val) st.holders := by
    funext a
    exact (st.valueAt_owed a).symm
  rw [same]
  exact Table.sum_le_total _ _ distinct

/-- The counter covers every purchase whose funds check has passed. -/
theorem Solvent.quoted_le {api : Api} {querier : Querier} {st : Storage} {dust : ℕ}
    {recipient : String} {combination : List String} {quote : Quote} (sound : Solvent st dust)
    (quoted : quoteTickets api querier st recipient combination = .ok quote) :
    quote.price.totalTicketWithFees.val ≤ st.state.prevRewardBalance.val := by
  obtain ⟨_, _, rewards, _, enough⟩ := quoteTickets_ok quoted
  apply enough.trans
  apply sound.covers.whole_le (by norm_num)
  rw [rewards]
  exact (Nat.div_mul_le_self _ _).trans (st.owed_le_liability _)

/-- Rewards are covered in every reachable storage, with bounded dust; reports
add up to no more than the counter, and no purchase that passed its funds check
fails on the counter. -/
theorem rewards_solvent (api : Api) (config : Config) (calls : List Call) :
    (∀ a h, (reached api config calls).holders.lookup a = some h →
        h.index.val ≤ (reached api config calls).state.globalIndex.val) ∧
      (reached api config calls).liability ≤
        (reached api config calls).state.prevRewardBalance.val * 10 ^ 18 ∧
      (reached api config calls).state.prevRewardBalance.val * 10 ^ 18 -
          (reached api config calls).liability ≤
        tally (step api) (updatedBalance api) (.initial config) calls +
          10 ^ 18 * tally (step api) (purchases api) (.initial config) calls ∧
      (∀ addresses : List String, (addresses.filterMap api.addrCanonicalize).Nodup →
        (addresses.map (reported api (reached api config calls))).sum ≤
          (reached api config calls).state.prevRewardBalance.val) ∧
      ∀ (querier : Querier) (recipient : String) (combination : List String) (quote : Quote),
        quoteTickets api querier (reached api config calls) recipient combination = .ok quote →
        ∃ left, (reached api config calls).state.prevRewardBalance.sub overflow
          quote.price.totalTicketWithFees = .ok left := by
  have sound := reached_solvent api config calls
  refine ⟨sound.behind, sound.covers.enough, ?_, ?_, ?_⟩
  · exact Nat.sub_le_iff_le_add'.mpr sound.covers.tight
  · intro addresses distinct
    apply sound.covers.whole_le (by norm_num)
    rw [Nat.mul_comm]
    exact reported_sum_le api _ distinct
  · intro querier recipient combination quote quoted
    exact Word.sub_of_le (sound.quoted_le quoted)

end DogetherContracts.Staking
