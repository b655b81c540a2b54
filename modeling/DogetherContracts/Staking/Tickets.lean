import DogetherContracts.Staking.Solvency

/-! # Registered combinations

The check-and-save loop accepts a list exactly when it neither repeats a
combination nor meets one that is stored, so what all purchases registered
together is free of repetitions. -/
namespace DogetherContracts.Staking
open Checked Run

variable {counter : Uint64} {a : CanonicalAddr} {saved saved' : Table CombinationKey String}
  {combination : List String}

theorem saveCombinations_ok_iff : (∃ saved', saveCombinations counter a saved combination =
    .ok saved') ↔ combination.Nodup ∧ ∀ combo ∈ combination, (counter, a, combo) ∉ saved := by
  induction combination generalizing saved with
  | nil => simp [saveCombinations]
  | cons combo combination ih =>
      rw [saveCombinations]
      split
      · next absent =>
        rw [ih, List.nodup_cons, List.forall_mem_cons, ← Finmap.lookup_eq_none]
        constructor
        · rintro ⟨distinct, fresh⟩
          refine ⟨⟨?_, distinct⟩, absent, ?_⟩
          · intro member
            exact fresh combo member (Finmap.mem_insert.mpr (.inl rfl))
          · intro other member stored
            exact fresh other member (Finmap.mem_insert.mpr (.inr stored))
        · rintro ⟨⟨new, distinct⟩, _, fresh⟩
          refine ⟨distinct, ?_⟩
          intro other member stored
          rcases Finmap.mem_insert.mp stored with same | stored
          · cases same
            exact new member
          · exact fresh other member stored
      · next present =>
        simp only [reduceCtorEq, exists_false, false_iff, not_and, List.forall_mem_cons]
        intro _ fresh
        exact absurd (Finmap.mem_of_lookup_eq_some present) fresh

theorem saveCombinations_error {e : Fault}
    (h : saveCombinations counter a saved combination = .error e) :
    ∃ combo ∈ combination, e = alreadyExist combo := by
  induction combination generalizing saved with
  | nil => cases h
  | cons combo combination ih =>
      rw [saveCombinations] at h
      split at h
      · obtain ⟨other, member, text⟩ := ih h
        exact ⟨other, List.mem_cons_of_mem _ member, text⟩
      · cases h
        exact ⟨combo, List.mem_cons_self, rfl⟩

/-- A successful loop stores its list and keeps everything else. -/
theorem mem_saveCombinations (h : saveCombinations counter a saved combination = .ok saved')
    (key : CombinationKey) :
    key ∈ saved' ↔ key ∈ saved ∨ key ∈ combination.map fun combo => (counter, a, combo) := by
  induction combination generalizing saved with
  | nil =>
      cases h
      simp
  | cons combo combination ih =>
      rw [saveCombinations] at h
      split at h
      · rw [ih h, Finmap.mem_insert, List.map_cons, List.mem_cons, or_assoc, or_left_comm]
      · cases h

/-- The keys a call registers. -/
def registers (api : Api) (st : Storage) (call : Call) : List CombinationKey :=
  if succeeds api st call then
    match call.msg with
    | .getTicket recipient combination =>
      match quoteTickets api call.querier st recipient combination with
      | .ok quote =>
        combination.map fun combo => (quote.price.lottery.lotteryCounter, quote.addrRaw, combo)
      | .error _ => []
    | _ => []
  else []

/-- All keys registered by a run, in order and with repetitions. -/
def registrations (api : Api) (config : Config) (calls : List Call) : List CombinationKey :=
  history (step api) (fun keys st call => keys ++ registers api st call) [] (.initial config) calls

/-- The combinations registered for one lottery counter and one recipient. -/
def registeredFor (counter : Uint64) (a : CanonicalAddr) (keys : List CombinationKey) :
    List String :=
  (keys.filter fun key => key.1 = counter ∧ key.2.1 = a).map fun key => key.2.2

theorem mem_registeredFor {keys : List CombinationKey} {combo : String} :
    combo ∈ registeredFor counter a keys ↔ (counter, a, combo) ∈ keys := by
  simp only [registeredFor, List.mem_map, List.mem_filter, decide_eq_true_eq]
  constructor
  · rintro ⟨⟨c, b, text⟩, ⟨member, rfl, rfl⟩, rfl⟩
    exact member
  · intro member
    exact ⟨_, ⟨member, rfl, rfl⟩, rfl⟩

theorem registeredFor_nodup {keys : List CombinationKey} (distinct : keys.Nodup) :
    (registeredFor counter a keys).Nodup := by
  apply List.Nodup.map_on
  · intro key member other member' same
    simp only [List.mem_filter, decide_eq_true_eq] at member member'
    obtain ⟨_, counterEq, addrEq⟩ := member
    obtain ⟨_, counterEq', addrEq'⟩ := member'
    exact Prod.ext (counterEq.trans counterEq'.symm)
      (Prod.ext (addrEq.trans addrEq'.symm) same)
  · exact distinct.filter _

/-- The store holds exactly the registered keys, and none was registered twice. -/
structure Registered (st : Storage) (keys : List CombinationKey) : Prop where
  distinct : keys.Nodup
  stored : ∀ key, key ∈ st.combinations ↔ key ∈ keys

theorem Bought.registered {api : Api} {querier : Querier} {st st' : Storage} {recipient : String}
    {combination : List String} {quote : Quote} {h : Holder} {loterra : Addr}
    {keys : List CombinationKey}
    (done : Bought api querier st st' recipient combination quote h loterra)
    (reg : Registered st keys) : Registered st' (keys ++ combination.map
      fun combo => (quote.price.lottery.lotteryCounter, quote.addrRaw, combo)) := by
  obtain ⟨distinct, fresh⟩ := saveCombinations_ok_iff.mp ⟨_, done.saved⟩
  constructor
  · apply reg.distinct.append
    · exact distinct.map fun x y same => (Prod.ext_iff.mp (Prod.ext_iff.mp same).2).2
    · intro key old new
      obtain ⟨combo, member, rfl⟩ := List.mem_map.mp new
      exact fresh combo member ((reg.stored _).mpr old)
  · intro key
    rw [mem_saveCombinations done.saved, reg.stored, List.mem_append]

/-- A call that registers nothing and leaves the combinations alone. -/
theorem Registered.kept {api : Api} {st st' : Storage} {call : Call} {keys : List CombinationKey}
    (reg : Registered st keys) (nothing : registers api st call = [])
    (same : st'.combinations = st.combinations) :
    Registered st' (keys ++ registers api st call) := by
  rw [nothing, List.append_nil]
  refine ⟨reg.distinct, fun key => ?_⟩
  rw [same]
  exact reg.stored key

theorem step_registered (api : Api) {st : Storage} {keys : List CombinationKey}
    (reg : Registered st keys) (call : Call) :
    Registered (step api st call) (keys ++ registers api st call) := by
  cases result : execute api st call with
  | error e =>
      have nothing : registers api st call = [] := by
        rw [registers, succeeds_error result]
        rfl
      exact reg.kept nothing (by rw [step_error result])
  | ok r =>
      have accepted : succeeds api st call = true := succeeds_iff.mpr ⟨r, result⟩
      rw [step_ok result]
      obtain ⟨querier, env, info, msg⟩ := call
      cases execute_effect result with
      | updated done => exact reg.kept (by simp [registers]) done.combinations
      | bonded done => exact reg.kept (by simp [registers]) done.combinations
      | unbonded done => exact reg.kept (by simp [registers]) done.combinations
      | withdrawn done => exact reg.kept (by simp [registers]) (by rw [done.rest])
      | bought done =>
          simp only [registers, done.quoted, accepted]
          exact done.registered reg

theorem reached_registered (api : Api) (config : Config) (calls : List Call) :
    Registered (reached api config calls) (registrations api config calls) := by
  apply run_rule Registered
  · refine ⟨List.nodup_nil, fun key => ?_⟩
    exact iff_of_false Finmap.notMem_empty List.not_mem_nil
  · intro st keys call reg
    exact step_registered api reg call

/-- A purchase with a valid quote fails in the loop, or for reasons with no text
of their own. -/
theorem handleGetTicket_duplicate_iff {api : Api} {querier : Querier} {st : Storage}
    {recipient : String} {quote : Quote}
    (quoted : quoteTickets api querier st recipient combination = .ok quote) :
    (∃ combo, handleGetTicket api querier st recipient combination =
        .error (alreadyExist combo)) ↔
      ¬ combination.Nodup ∨ ∃ combo ∈ combination,
        (quote.price.lottery.lotteryCounter, quote.addrRaw, combo) ∈ st.combinations := by
  have loop : (∃ saved', saveCombinations quote.price.lottery.lotteryCounter quote.addrRaw
        st.combinations combination = .ok saved') ↔
      combination.Nodup ∧ ∀ combo ∈ combination,
        (quote.price.lottery.lotteryCounter, quote.addrRaw, combo) ∉ st.combinations :=
    saveCombinations_ok_iff
  simp only [handleGetTicket, quoted, ok_bind]
  cases result : saveCombinations quote.price.lottery.lotteryCounter quote.addrRaw st.combinations
      combination with
  | error e =>
      obtain ⟨combo, _, rfl⟩ := saveCombinations_error result
      simp only [error_bind]
      refine iff_of_true ⟨combo, rfl⟩ ?_
      by_contra clean
      push Not at clean
      obtain ⟨saved', accepted⟩ := loop.mpr clean
      cases result.symm.trans accepted
  | ok saved' =>
      obtain ⟨distinct, fresh⟩ := loop.mp ⟨saved', result⟩
      refine iff_of_false ?_ ?_
      · rintro ⟨combo, failed⟩
        simp only [ok_bind, bind_error] at failed
        rcases failed with e | ⟨_, _, e | ⟨_, _, e | ⟨_, _, e | ⟨_, _, e | ⟨_, _, e⟩⟩⟩⟩⟩
        · cases Word.sub_error e
        · cases Word.sub_error e
        · cases Decimal.fromRatio_failsWith _ _ _ e
        · cases orReject_error e
        · cases orReject_error e
        · cases e
      · rintro (repeated | ⟨combo, member, stored⟩)
        · exact repeated distinct
        · exact fresh combo member stored

/-- No combination is ever registered twice; a purchase with enough rewards is
rejected as a duplicate exactly when its list repeats a combination or meets a
registered one; and a rejected call leaves nothing behind. -/
theorem tickets_distinct (api : Api) (config : Config) (calls : List Call) :
    (∀ counter a, (registeredFor counter a (registrations api config calls)).Nodup) ∧
      (∀ querier env info recipient combination quote,
        quoteTickets api querier (reached api config calls) recipient combination = .ok quote →
        ((∃ combo, execute api (reached api config calls)
            ⟨querier, env, info, .getTicket recipient combination⟩ = .error (alreadyExist combo)) ↔
          ¬ combination.Nodup ∨ ∃ combo ∈ combination,
            combo ∈ registeredFor quote.price.lottery.lotteryCounter quote.addrRaw
              (registrations api config calls))) ∧
      ∀ call, succeeds api (reached api config calls) call = false →
        reached api config (calls ++ [call]) = reached api config calls ∧
          registrations api config (calls ++ [call]) = registrations api config calls := by
  have reg := reached_registered api config calls
  refine ⟨fun counter a => registeredFor_nodup reg.distinct, ?_, ?_⟩
  · intro querier env info recipient combination quote quoted
    simp only [mem_registeredFor, ← reg.stored]
    exact handleGetTicket_duplicate_iff quoted
  · intro call refused
    constructor
    · simp only [reached, run_snoc]
      cases result : execute api (run (step api) (.initial config) calls) call with
      | error e => exact step_error result
      | ok r =>
          have accepted := succeeds_iff.mpr ⟨r, result⟩
          rw [← reached, refused] at accepted
          cases accepted
    · simp only [registrations, history_snoc]
      rw [← reached, registers, refused]
      exact List.append_nil _

end DogetherContracts.Staking
