import DogetherContracts.Staking.Solvency

/-! # Eager distribution

The reference ledger credits every address at every index update. The lazy
accounts of the contract agree with it to the last raw unit. -/
namespace DogetherContracts.Staking
open Checked Run

/-- The rewards an index update claims: what the balance exceeds the counter by. -/
def claimedRewards (st : Storage) (call : Call) : ℕ :=
  match call.querier.balance call.env.contract st.config.rewardDenom with
  | some balance => balance.val - st.state.prevRewardBalance.val
  | none => 0

def indexDelta (st : Storage) (call : Call) : ℕ :=
  LazyIndex.perWeight (10 ^ 18) (claimedRewards st call) st.state.totalBalance.val

/-- One step of the reference ledger. Balances, prices and success are read off
the contract; the credits are its own. -/
def eagerStep (api : Api) (credits : CanonicalAddr → ℕ) (st : Storage) (call : Call) :
    CanonicalAddr → ℕ :=
  if succeeds api st call then
    match call.msg with
    | .updateGlobalIndex => fun a => credits a + indexDelta st call * (st.readHolder a).balance.val
    | .getTicket recipient combination =>
      match api.addrCanonicalize recipient,
        priceTickets api call.querier st.config combination with
      | some a, .ok price =>
        Function.update credits a ((credits a / 10 ^ 18 - price.totalTicketWithFees.val) * 10 ^ 18)
      | _, _ => credits
    | .receive _ | .unbondStake _ _ | .withdrawStake _ _ => credits
  else credits

def eagerCredits (api : Api) (config : Config) (calls : List Call) : CanonicalAddr → ℕ :=
  history (step api) (eagerStep api) (fun _ => 0) (.initial config) calls

theorem Solvent.index_le {st : Storage} {dust : ℕ} (sound : Solvent st dust) (a : CanonicalAddr) :
    (st.readHolder a).index.val ≤ st.state.globalIndex.val := by
  unfold Storage.readHolder
  cases found : st.holders.lookup a with
  | none => exact Nat.zero_le _
  | some h => exact sound.behind a h found

/-- A settlement in full leaves every address with what it was owed. -/
theorem Settled.owed_kept {st st' : Storage} {a : CanonicalAddr} {h : Holder}
    (s : Settled st a h st') (pending : h.pendingRewards.val = st.owed a) : st'.owed = st.owed := by
  funext b
  by_cases same : b = a
  · rw [same, s.owed_self, pending]
  · exact s.owed_other same

theorem Updated.owed {api : Api} {querier : Querier} {env : Env} {info : MessageInfo}
    {st st' : Storage} {claimed dust : ℕ} (done : Updated api querier env info st st' claimed)
    (sound : Solvent st dust) (a : CanonicalAddr) :
    st'.owed a = st.owed a +
      LazyIndex.perWeight (10 ^ 18) claimed st.state.totalBalance.val *
        (st.readHolder a).balance.val := by
  rw [Storage.owed, done.readHolder, done.globalIndex,
    LazyIndex.Position.accrued_advance (sound.index_le a)]
  rfl

theorem Updated.claimed_eq {api : Api} {querier : Querier} {env : Env} {info : MessageInfo}
    {msg : ExecuteMsg} {st st' : Storage} {claimed : ℕ}
    (done : Updated api querier env info st st' claimed) :
    claimedRewards st ⟨querier, env, info, msg⟩ = claimed := by
  simp only [claimedRewards, done.balance]
  have prev := done.prev
  omega

/-- The lazy accounts move exactly as the reference ledger does. -/
theorem step_owed (api : Api) {st : Storage} {dust : ℕ} (sound : Solvent st dust) (call : Call) :
    (step api st call).owed = eagerStep api st.owed st call := by
  cases result : execute api st call with
  | error e =>
      rw [step_error result, eagerStep, succeeds_error result]
      rfl
  | ok r =>
      have accepted : succeeds api st call = true := succeeds_iff.mpr ⟨r, result⟩
      rw [step_ok result, eagerStep, if_pos accepted]
      obtain ⟨querier, env, info, msg⟩ := call
      cases execute_effect result with
      | updated done =>
          funext a
          rw [done.owed sound a, indexDelta, done.claimed_eq]
      | bonded done => exact done.settled.owed_kept done.pending
      | unbonded done => exact done.settled.owed_kept done.pending
      | withdrawn done =>
          rw [done.rest]
          rfl
      | @bought recipient combination quote h loterra done =>
          obtain ⟨canonical, _, _, priced, _⟩ := quoteTickets_ok done.quoted
          simp only [orReject_ok.mp canonical, priced]
          funext b
          by_cases same : b = quote.addrRaw
          · rw [same, Function.update_self, done.settled.owed_self, done.pending, done.rewards]
          · rw [Function.update_of_ne same, done.settled.owed_other same]

theorem owed_eq_eagerCredits (api : Api) (config : Config) (calls : List Call) :
    (reached api config calls).owed = eagerCredits api config calls := by
  induction calls using List.reverseRecOn with
  | nil =>
      funext a
      exact Holder.accrued_empty _
  | append_singleton calls call ih =>
      have next := step_owed api (reached_solvent api config calls) call
      rw [ih] at next
      simpa only [reached, eagerCredits, run_snoc, history_snoc] using next

/-! When the decimals of a settlement stay in range. -/

def Representable (st : Storage) (a : CanonicalAddr) : Prop :=
  (st.readHolder a).balance.val * 10 ^ 18 < 2 ^ 128 ∧ st.owed a < 2 ^ 128

theorem Solvent.settles_iff {st : Storage} {dust : ℕ} (sound : Solvent st dust)
    (a : CanonicalAddr) :
    (∃ d, settledRewards st.state.globalIndex (st.readHolder a) = .ok d) ↔ Representable st a := by
  simp only [settledRewards_ok]
  constructor
  · rintro ⟨d, _, balance, value⟩
    exact ⟨balance, by rw [Storage.owed, ← value]; exact d.lt⟩
  · rintro ⟨balance, fits⟩
    exact ⟨⟨⟨_, fits⟩⟩, sound.index_le a, balance, rfl⟩

/-- In range the settlement is what the address is owed; out of range it panics. -/
theorem Solvent.settles {st : Storage} {dust : ℕ} (sound : Solvent st dust) {a : CanonicalAddr}
    (representable : Representable st a) :
    settledRewards st.state.globalIndex (st.readHolder a) =
      .ok ⟨⟨st.owed a, representable.2⟩⟩ :=
  settledRewards_ok.mpr ⟨sound.index_le a, representable.1, rfl⟩

theorem Solvent.settles_panic {st : Storage} {dust : ℕ} (sound : Solvent st dust)
    {a : CanonicalAddr} (outOfRange : ¬ Representable st a) :
    settledRewards st.state.globalIndex (st.readHolder a) = .error .panic :=
  (settledRewards_failsWith _ _).eq_error (mt (sound.settles_iff a).mp outOfRange)

theorem Solvent.query_iff {api : Api} {st : Storage} {dust : ℕ} (sound : Solvent st dust)
    (address : String) (rewards : Uint128) :
    queryAccruedRewards api st address = .ok rewards ↔
      ∃ a, api.addrCanonicalize address = some a ∧ Representable st a ∧
        rewards.val = st.owed a / 10 ^ 18 := by
  rw [queryAccruedRewards_ok]
  refine exists_congr fun a => ?_
  rw [← sound.settles_iff a]
  constructor
  · rintro ⟨d, canonical, settled, whole⟩
    exact ⟨canonical, ⟨d, settled⟩, whole⟩
  · rintro ⟨canonical, ⟨d, settled⟩, whole⟩
    exact ⟨d, canonical, settled, whole⟩

theorem Solvent.query_panic {api : Api} {st : Storage} {dust : ℕ} (sound : Solvent st dust)
    {address : String} {a : CanonicalAddr} (known : api.addrCanonicalize address = some a)
    (outOfRange : ¬ Representable st a) : queryAccruedRewards api st address = .error .panic := by
  simp only [queryAccruedRewards, Api.canonicalize, known, orReject, sound.settles_panic outOfRange,
    ok_bind, error_bind]

section Quote

variable {api : Api} {querier : Querier} {st : Storage} {dust : ℕ} {recipient : String}
  {combination : List String} {a : CanonicalAddr} {price : TicketPrice}

theorem Solvent.quote_panic (sound : Solvent st dust) (listed : combination ≠ [])
    (known : api.addrCanonicalize recipient = some a) (outOfRange : ¬ Representable st a) :
    quoteTickets api querier st recipient combination = .error .panic := by
  simp only [quoteTickets, rejectIf_neg _ listed, Api.canonicalize, known, orReject,
    sound.settles_panic outOfRange, ok_bind, error_bind]

/-- What a quote goes through once the rewards are settled: the check for any
rewards, the price, and the check for enough. -/
theorem Solvent.quote_of_representable (sound : Solvent st dust) (listed : combination ≠ [])
    (known : api.addrCanonicalize recipient = some a) (representable : Representable st a)
    (rewards : Uint128) (whole : rewards.val = st.owed a / 10 ^ 18) :
    quoteTickets api querier st recipient combination = (do
      rejectIf (rewards.val = 0) noRewards
      let price ← priceTickets api querier st.config combination
      rejectIf (rewards < price.totalTicketWithFees) (notEnoughFunds price rewards)
      pure ⟨a, rewards, price⟩) := by
  have truncated : (⟨⟨st.owed a, representable.2⟩⟩ : Decimal).mulUint Uint128.one =
      .ok rewards := by
    rw [Decimal.mulUint_ok, Uint128.val_one, Nat.one_mul, whole]
  simp only [quoteTickets, rejectIf_neg _ listed, Api.canonicalize, known, orReject,
    sound.settles representable, truncated, ok_bind]

theorem Solvent.quote_noRewards (sound : Solvent st dust) (listed : combination ≠ [])
    (known : api.addrCanonicalize recipient = some a) (representable : Representable st a)
    (nothing : st.owed a / 10 ^ 18 = 0) :
    quoteTickets api querier st recipient combination = .error noRewards := by
  rw [sound.quote_of_representable listed known representable 0 nothing.symm]
  rfl

/-- The funds check by itself: with some rewards and a price it decides the quote. -/
theorem Solvent.fundsCheck_iff (sound : Solvent st dust) (listed : combination ≠ [])
    (known : api.addrCanonicalize recipient = some a) (representable : Representable st a)
    (positive : 0 < st.owed a / 10 ^ 18)
    (priced : priceTickets api querier st.config combination = .ok price) :
    ∃ rewards : Uint128, rewards.val = st.owed a / 10 ^ 18 ∧
      (quoteTickets api querier st recipient combination = .ok ⟨a, rewards, price⟩ ↔
        price.totalTicketCost.val + price.totalFee.val ≤ rewards.val) ∧
      (quoteTickets api querier st recipient combination = .error (notEnoughFunds price rewards) ↔
        rewards.val < price.totalTicketCost.val + price.totalFee.val) := by
  have fits : st.owed a / 10 ^ 18 < 2 ^ 128 := (Nat.div_le_self _ _).trans_lt representable.2
  refine ⟨⟨_, fits⟩, rfl, ?_⟩
  rw [← priceTickets_total priced,
    sound.quote_of_representable listed known representable ⟨_, fits⟩ rfl,
    rejectIf_neg _ (Nat.ne_of_gt positive), ok_bind, priced, ok_bind]
  by_cases short : (⟨_, fits⟩ : Uint128) < price.totalTicketWithFees
  · rw [rejectIf, if_pos short, error_bind]
    exact ⟨iff_of_false nofun (Nat.not_le_of_lt short), iff_of_true rfl short⟩
  · rw [rejectIf_neg _ short, ok_bind]
    exact ⟨iff_of_true rfl (Nat.le_of_not_lt short), iff_of_false nofun short⟩

end Quote

/-- A quote is given exactly when the whole rewards are positive and cover the
price with its fee. -/
theorem Solvent.quote_iff {api : Api} {querier : Querier} {st : Storage} {dust : ℕ}
    (sound : Solvent st dust) (recipient : String) (combination : List String) :
    (∃ quote, quoteTickets api querier st recipient combination = .ok quote) ↔
      combination ≠ [] ∧ ∃ a price, api.addrCanonicalize recipient = some a ∧
        Representable st a ∧ priceTickets api querier st.config combination = .ok price ∧
        0 < st.owed a / 10 ^ 18 ∧ price.totalTicketWithFees.val ≤ st.owed a / 10 ^ 18 := by
  have whole {d : Decimal} {a : CanonicalAddr}
      (settled : settledRewards st.state.globalIndex (st.readHolder a) = .ok d) :
      Uint128.one.val * d.val / 10 ^ 18 = st.owed a / 10 ^ 18 := by
    rw [Uint128.val_one, Nat.one_mul, (settledRewards_ok.mp settled).2.2, Storage.owed]
  simp only [quoteTickets, bind_ok, rejectIf_ok, Decimal.mulUint_ok, pure_ok, Api.canonicalize,
    orReject_ok]
  constructor
  · rintro ⟨quote, _, listed, a, canonical, d, settled, rewards, value, _, nonzero, price, priced,
      _, enough, _⟩
    rw [whole settled] at value
    have covered : price.totalTicketWithFees.val ≤ rewards.val := Nat.le_of_not_lt enough
    exact ⟨listed, a, price, canonical, (sound.settles_iff a).mp ⟨d, settled⟩, priced,
      value ▸ Nat.pos_of_ne_zero nonzero, value ▸ covered⟩
  · rintro ⟨listed, a, price, canonical, representable, priced, positive, enough⟩
    obtain ⟨d, settled⟩ := (sound.settles_iff a).mpr representable
    have fits : st.owed a / 10 ^ 18 < 2 ^ 128 :=
      (Nat.div_le_self _ _).trans_lt representable.2
    exact ⟨_, (), listed, a, canonical, d, settled, ⟨_, fits⟩, (whole settled).symm, (),
      Nat.ne_of_gt positive, price, priced, (), Nat.not_lt_of_le enough, rfl⟩

/-- The exact share of an index update, in raw units. -/
def proRataShare (st : Storage) (call : Call) (a : CanonicalAddr) : ℚ :=
  claimedRewards st call * 10 ^ 18 * (st.readHolder a).balance.val / st.state.totalBalance.val

theorem credited_le_share {st : Storage} {call : Call} (staked : 0 < st.state.totalBalance.val)
    (a : CanonicalAddr) :
    ((indexDelta st call * (st.readHolder a).balance.val : ℕ) : ℚ) ≤ proRataShare st call a := by
  have le := LazyIndex.perWeight_mul_le (10 ^ 18) (claimedRewards st call)
    st.state.totalBalance.val
  rw [proRataShare, le_div_iff₀ (by exact_mod_cast staked)]
  have scaled := Nat.mul_le_mul_right (st.readHolder a).balance.val le
  calc ((indexDelta st call * (st.readHolder a).balance.val : ℕ) : ℚ) * st.state.totalBalance.val
      = ((indexDelta st call * st.state.totalBalance.val *
          (st.readHolder a).balance.val : ℕ) : ℚ) := by
        push_cast
        ring
    _ ≤ ((claimedRewards st call * 10 ^ 18 * (st.readHolder a).balance.val : ℕ) : ℚ) := by
        exact_mod_cast scaled
    _ = _ := by push_cast; rfl

theorem share_sub_credited_lt {st : Storage} {call : Call} (staked : 0 < st.state.totalBalance.val)
    {a : CanonicalAddr} (held : 0 < (st.readHolder a).balance.val) :
    proRataShare st call a - ((indexDelta st call * (st.readHolder a).balance.val : ℕ) : ℚ) <
      (st.readHolder a).balance.val := by
  have lt := LazyIndex.lt_perWeight_mul (S := 10 ^ 18) (c := claimedRewards st call) staked
  rw [sub_lt_iff_lt_add, proRataShare, div_lt_iff₀ (by exact_mod_cast staked)]
  have scaled := Nat.mul_lt_mul_of_pos_right lt held
  calc (claimedRewards st call * 10 ^ 18 * (st.readHolder a).balance.val : ℚ)
      = ((claimedRewards st call * 10 ^ 18 * (st.readHolder a).balance.val : ℕ) : ℚ) := by
        push_cast
        rfl
    _ < (((indexDelta st call * st.state.totalBalance.val + st.state.totalBalance.val) *
          (st.readHolder a).balance.val : ℕ) : ℚ) := by exact_mod_cast scaled
    _ = _ := by
        push_cast
        ring

/-- The lazy accounts refine the eager ledger on every run and for every address.
As soon as the decimals are in range, queries give the whole part of the credit and
the funds check, once it is reached, passes exactly when the price with its fee is at
most that; out of range both panic. Every update credits the exact share, rounded
down by less than one raw unit per unit of balance. -/
theorem lazy_refines_eager (api : Api) (config : Config) (calls : List Call) :
    (∀ a, (reached api config calls).owed a = eagerCredits api config calls a) ∧
      (∀ address rewards,
        queryAccruedRewards api (reached api config calls) address = .ok rewards ↔
          ∃ a, api.addrCanonicalize address = some a ∧
            Representable (reached api config calls) a ∧
            rewards.val = eagerCredits api config calls a / 10 ^ 18) ∧
      (∀ address a, api.addrCanonicalize address = some a →
        ¬ Representable (reached api config calls) a →
        queryAccruedRewards api (reached api config calls) address = .error .panic) ∧
      (∀ querier recipient combination,
        (∃ quote,
          quoteTickets api querier (reached api config calls) recipient combination = .ok quote) ↔
          combination ≠ [] ∧ ∃ a price, api.addrCanonicalize recipient = some a ∧
            Representable (reached api config calls) a ∧
            priceTickets api querier (reached api config calls).config combination = .ok price ∧
            0 < eagerCredits api config calls a / 10 ^ 18 ∧
            price.totalTicketWithFees.val ≤ eagerCredits api config calls a / 10 ^ 18) ∧
      (∀ querier recipient combination a, combination ≠ [] →
        api.addrCanonicalize recipient = some a →
        (¬ Representable (reached api config calls) a →
          quoteTickets api querier (reached api config calls) recipient combination =
            .error .panic) ∧
        (Representable (reached api config calls) a →
          eagerCredits api config calls a / 10 ^ 18 = 0 →
          quoteTickets api querier (reached api config calls) recipient combination =
            .error noRewards) ∧
        (Representable (reached api config calls) a →
          0 < eagerCredits api config calls a / 10 ^ 18 → ∀ price,
          priceTickets api querier (reached api config calls).config combination = .ok price →
          ∃ rewards : Uint128, rewards.val = eagerCredits api config calls a / 10 ^ 18 ∧
            (quoteTickets api querier (reached api config calls) recipient combination =
                .ok ⟨a, rewards, price⟩ ↔
              price.totalTicketCost.val + price.totalFee.val ≤ rewards.val) ∧
            (quoteTickets api querier (reached api config calls) recipient combination =
                .error (notEnoughFunds price rewards) ↔
              rewards.val < price.totalTicketCost.val + price.totalFee.val))) ∧
      ∀ call, call.msg = .updateGlobalIndex → succeeds api (reached api config calls) call = true →
        ∀ a, ∃ gain : ℕ,
          eagerCredits api config (calls ++ [call]) a = eagerCredits api config calls a + gain ∧
            (gain : ℚ) ≤ proRataShare (reached api config calls) call a ∧
            (0 < ((reached api config calls).readHolder a).balance.val →
              proRataShare (reached api config calls) call a - gain <
                ((reached api config calls).readHolder a).balance.val) := by
  have sound := reached_solvent api config calls
  have agree := owed_eq_eagerCredits api config calls
  rw [← agree]
  refine ⟨fun a => rfl, sound.query_iff, fun _ _ => sound.query_panic, fun querier =>
    sound.quote_iff, ?_, ?_⟩
  · intro querier recipient combination a listed known
    exact ⟨sound.quote_panic listed known, sound.quote_noRewards listed known,
      fun representable positive price => sound.fundsCheck_iff listed known representable positive⟩
  intro call update accepted a
  have staked : 0 < (reached api config calls).state.totalBalance.val := by
    obtain ⟨r, result⟩ := succeeds_iff.mp accepted
    obtain ⟨querier, env, info, msg⟩ := call
    cases update
    cases execute_effect result with
    | updated done => exact done.staked
  refine ⟨_, ?_, credited_le_share staked a, share_sub_credited_lt staked⟩
  have next : eagerCredits api config (calls ++ [call]) =
      eagerStep api (eagerCredits api config calls) (reached api config calls) call :=
    history_snoc _ _ _ _ _ _
  rw [next, ← agree, eagerStep, if_pos accepted, update]

/-- One bond beyond the range of `Decimal`: the credit is zero, and the query
panics instead of saying so. -/
theorem query_out_of_range :
    ((reached Sample.api Sample.config
        [Sample.bond "alice" ⟨340282366920938463464, by norm_num⟩]).readHolder [4]).balance.val =
        340282366920938463464 ∧
      eagerCredits Sample.api Sample.config
        [Sample.bond "alice" ⟨340282366920938463464, by norm_num⟩] [4] = 0 ∧
      queryAccruedRewards Sample.api
        (reached Sample.api Sample.config
          [Sample.bond "alice" ⟨340282366920938463464, by norm_num⟩]) "alice" = .error .panic := by
  decide +kernel

end DogetherContracts.Staking
