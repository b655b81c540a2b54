import DogetherContracts.Staking.Eager

/-! # What purchases forfeit

A purchase of tickets pays whole units and rebuilds the pending rewards from the
whole rewards. What a holder earned, spent and lost to that over a run add up. -/
namespace DogetherContracts.Staking
open Checked Run

/-- The price of a purchase, with its fee. -/
def paid (api : Api) (st : Storage) (call : Call) : ℕ :=
  match call.msg with
  | .getTicket _ combination =>
    match priceTickets api call.querier st.config combination with
    | .ok price => price.totalTicketWithFees.val
    | .error _ => 0
  | _ => 0

/-- What an index update credits to `a`. -/
def earned (api : Api) (a : CanonicalAddr) (st : Storage) (call : Call) : ℕ :=
  match call.msg with
  | .updateGlobalIndex =>
    if succeeds api st call then indexDelta st call * (st.readHolder a).balance.val else 0
  | _ => 0

/-- The whole units that `a` pays in a purchase. -/
def spent (api : Api) (a : CanonicalAddr) (st : Storage) (call : Call) : ℕ :=
  if buyer api st call = some a then paid api st call else 0

/-- The raw units that `a` loses in a purchase. -/
def forfeited (api : Api) (a : CanonicalAddr) (st : Storage) (call : Call) : ℕ :=
  if buyer api st call = some a then st.owed a % 10 ^ 18 else 0

theorem spent_of_no_buyer {api : Api} {st : Storage} {call : Call} (a : CanonicalAddr)
    (nobody : buyer api st call = none) : spent api a st call = 0 := by
  rw [spent, nobody, if_neg nofun]

theorem forfeited_of_no_buyer {api : Api} {st : Storage} {call : Call} (a : CanonicalAddr)
    (nobody : buyer api st call = none) : forfeited api a st call = 0 := by
  rw [forfeited, nobody, if_neg nofun]

theorem refused {api : Api} {st : Storage} {call : Call} (h : succeeds api st call = false)
    (a : CanonicalAddr) : buyer api st call = none ∧ earned api a st call = 0 := by
  unfold buyer earned
  rw [h]
  constructor
  · split <;> rfl
  · split <;> rfl

theorem forfeited_eq_zero_iff {api : Api} {st : Storage} {call : Call} :
    (∀ a, forfeited api a st call = 0) ↔ fraction api st call = 0 := by
  unfold forfeited fraction
  cases buyer api st call with
  | none => simp
  | some b => simp

theorem Bought.paid_eq {api : Api} {querier : Querier} {env : Env} {info : MessageInfo}
    {st st' : Storage} {recipient : String} {combination : List String} {quote : Quote} {h : Holder}
    {loterra : Addr} (done : Bought api querier st st' recipient combination quote h loterra) :
    paid api st ⟨querier, env, info, .getTicket recipient combination⟩ =
      quote.price.totalTicketWithFees.val := by
  obtain ⟨_, _, _, priced, _⟩ := quoteTickets_ok done.quoted
  simp only [paid, priced]

/-- A purchase takes its price out of the recipient's reward, and the fraction. -/
theorem Bought.owed_self {api : Api} {querier : Querier} {st st' : Storage} {recipient : String}
    {combination : List String} {quote : Quote} {h : Holder} {loterra : Addr}
    (done : Bought api querier st st' recipient combination quote h loterra) :
    st'.owed quote.addrRaw + 10 ^ 18 * quote.price.totalTicketWithFees.val +
      st.owed quote.addrRaw % 10 ^ 18 = st.owed quote.addrRaw := by
  have whole := Nat.div_add_mod (st.owed quote.addrRaw) (10 ^ 18)
  have enough := done.enough
  rw [done.settled.owed_self, done.pending]
  rw [← done.rewards] at whole
  omega

/-- A call that settles everyone in full and is no purchase keeps the accounts. -/
theorem accounts_kept {api : Api} {st st' : Storage} {call : Call} {a : CanonicalAddr}
    (kept : st'.owed = st.owed) (nobody : buyer api st call = none)
    (nothing : earned api a st call = 0) :
    st'.owed a + 10 ^ 18 * spent api a st call + forfeited api a st call =
      st.owed a + earned api a st call := by
  rw [kept, spent_of_no_buyer a nobody, forfeited_of_no_buyer a nobody, nothing, Nat.mul_zero]

/-- What an address is owed moves by what it earns, spends and forfeits. -/
theorem step_accounts (api : Api) {st : Storage} {dust : ℕ} (sound : Solvent st dust) (call : Call)
    (a : CanonicalAddr) :
    (step api st call).owed a + 10 ^ 18 * spent api a st call + forfeited api a st call =
      st.owed a + earned api a st call := by
  cases result : execute api st call with
  | error e =>
      obtain ⟨nobody, nothing⟩ := refused (succeeds_error result) a
      exact accounts_kept (by rw [step_error result]) nobody nothing
  | ok r =>
      have accepted : succeeds api st call = true := succeeds_iff.mpr ⟨r, result⟩
      rw [step_ok result]
      obtain ⟨querier, env, info, msg⟩ := call
      cases execute_effect result with
      | @updated claimed done =>
          have credited : earned api a st ⟨querier, env, info, .updateGlobalIndex⟩ =
              LazyIndex.perWeight (10 ^ 18) claimed st.state.totalBalance.val *
                (st.readHolder a).balance.val := by
            rw [← done.claimed_eq]
            exact if_pos accepted
          rw [spent_of_no_buyer a rfl, forfeited_of_no_buyer a rfl, done.owed sound a, credited]
          omega
      | bonded done => exact accounts_kept (done.settled.owed_kept done.pending) rfl rfl
      | unbonded done => exact accounts_kept (done.settled.owed_kept done.pending) rfl rfl
      | withdrawn done => exact accounts_kept (by rw [done.rest]; rfl) rfl rfl
      | @bought recipient combination quote h loterra done =>
          have nothing : earned api a st ⟨querier, env, info, .getTicket recipient combination⟩ =
            0 := rfl
          rw [spent, forfeited, done.buyer_eq accepted, done.paid_eq, nothing, Nat.add_zero]
          by_cases same : a = quote.addrRaw
          · subst same
            rw [if_pos rfl, if_pos rfl]
            exact done.owed_self
          · have other : some quote.addrRaw ≠ some a := fun h => same (Option.some.inj h).symm
            rw [if_neg other, if_neg other, done.settled.owed_other same, Nat.mul_zero,
              Nat.add_zero]

/-- Over a run, what an address is owed, has spent and has forfeited is what it
earned. -/
theorem reached_accounts (api : Api) (config : Config) (calls : List Call) (a : CanonicalAddr) :
    (reached api config calls).owed a +
        10 ^ 18 * tally (step api) (spent api a) (.initial config) calls +
        tally (step api) (forfeited api a) (.initial config) calls =
      tally (step api) (earned api a) (.initial config) calls := by
  induction calls using List.reverseRecOn with
  | nil =>
      rw [tally_nil, tally_nil, tally_nil, Nat.mul_zero]
      exact Holder.accrued_empty 0
  | append_singleton calls call ih =>
      have next := step_accounts api (reached_solvent api config calls) call a
      simp only [reached, run_snoc, tally_snoc, Nat.mul_add] at ih next ⊢
      omega

theorem fractionless_iff (api : Api) (config : Config) (calls : List Call) :
    Along (step api) (fun st call => fraction api st call = 0) (.initial config) calls ↔
      ∀ a, tally (step api) (forfeited api a) (.initial config) calls = 0 := by
  simp only [tally_eq_zero_iff, ← along_forall, forfeited_eq_zero_iff]

/-- In every reachable state a purchase lowers the counter by its price, and the
recipient's reward by as much exactly when that reward has no fraction. A run
forfeits nothing exactly when this holds of all its purchases; then only index
updates leave dust in the counter. -/
theorem purchases_forfeit_nothing_iff (api : Api) (config : Config) (calls : List Call) :
    (∀ querier env info recipient combination st' res,
      execute api (reached api config calls)
        ⟨querier, env, info, .getTicket recipient combination⟩ = .ok (st', res) →
      ∃ a price, api.addrCanonicalize recipient = some a ∧
        priceTickets api querier (reached api config calls).config combination = .ok price ∧
        st'.state.prevRewardBalance.val + (price.totalTicketCost.val + price.totalFee.val) =
          (reached api config calls).state.prevRewardBalance.val ∧
        (st'.owed a + 10 ^ 18 * (price.totalTicketCost.val + price.totalFee.val) =
          (reached api config calls).owed a ↔ 10 ^ 18 ∣ (reached api config calls).owed a)) ∧
      (Along (step api) (fun st call => fraction api st call = 0) (.initial config) calls ↔
        ∀ a, (reached api config calls).owed a +
            10 ^ 18 * tally (step api) (spent api a) (.initial config) calls =
          tally (step api) (earned api a) (.initial config) calls) ∧
      (Along (step api) (fun st call => fraction api st call = 0) (.initial config) calls →
        (reached api config calls).state.prevRewardBalance.val * 10 ^ 18 -
            (reached api config calls).liability ≤
          tally (step api) (updatedBalance api) (.initial config) calls) := by
  refine ⟨?_, ?_, ?_⟩
  · intro querier env info recipient combination st' res ran
    cases execute_effect ran with
    | @bought _ _ quote h loterra done =>
        obtain ⟨canonical, _, _, priced, _⟩ := quoteTickets_ok done.quoted
        have exact := done.owed_self
        rw [priceTickets_total priced] at exact
        refine ⟨quote.addrRaw, quote.price, orReject_ok.mp canonical, priced, ?_, ?_⟩
        · rw [← priceTickets_total priced]
          exact done.prev
        · rw [Nat.dvd_iff_mod_eq_zero]
          omega
  · rw [fractionless_iff]
    refine forall_congr' fun a => ?_
    have accounts := reached_accounts api config calls a
    omega
  · intro along
    have tight := (reached_solvent_exact api config calls).covers.tight
    rw [tally_eq_zero_iff.mpr along, Nat.add_zero] at tight
    exact Nat.sub_le_iff_le_add'.mpr tight

/-- The calls of the repository's test on decimals: 99999 coins for a stake of 11. -/
def Sample.elevenths : List Call :=
  [Sample.bond "alice" (.ofNat 11), Sample.update (.ofNat 99999)]

/-- A ticket for 2 coins, fee included, costs the holder almost 3. -/
theorem getTicket_forfeits_fraction :
    succeeds Sample.api (reached Sample.api Sample.config Sample.elevenths)
        (Sample.buy "alice" (.ofNat 1) ["123456"]) = true ∧
      (reached Sample.api Sample.config Sample.elevenths).owed (Api.raw 4) =
        99998999999999999999991 ∧
      (reached Sample.api Sample.config
        (Sample.elevenths ++ [Sample.buy "alice" (.ofNat 1) ["123456"]])).owed (Api.raw 4) =
        99996 * 10 ^ 18 ∧
      (reached Sample.api Sample.config Sample.elevenths).state.prevRewardBalance.val = 99999 ∧
      (reached Sample.api Sample.config (Sample.elevenths ++
        [Sample.buy "alice" (.ofNat 1) ["123456"]])).state.prevRewardBalance.val = 99997 := by
  decide +kernel

end DogetherContracts.Staking
