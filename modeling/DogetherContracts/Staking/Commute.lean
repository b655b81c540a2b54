import DogetherContracts.Staking.Range

/-! # Operations of different holders

An operation for one holder reads and writes that holder's entries and moves the
two shared counters by amounts that depend on nothing else. The checks on the
counters never fail, so operations for different holders commute. -/
namespace DogetherContracts.Staking
open Checked Run

/-- Two storages that look the same to every operation for `a`. -/
structure Agree (a : CanonicalAddr) (st st' : Storage) : Prop where
  config : st'.config = st.config
  globalIndex : st'.state.globalIndex = st.state.globalIndex
  holder : st'.holders.lookup a = st.holders.lookup a
  claims : st'.claims.lookup a = st.claims.lookup a
  combinations : ∀ counter combo,
    st'.combinations.lookup (counter, a, combo) = st.combinations.lookup (counter, a, combo)

namespace Agree

variable {a : CanonicalAddr} {st st' st'' : Storage}

theorem refl (a : CanonicalAddr) (st : Storage) : Agree a st st :=
  ⟨rfl, rfl, rfl, rfl, fun _ _ => rfl⟩

theorem symm (h : Agree a st st') : Agree a st' st :=
  ⟨h.config.symm, h.globalIndex.symm, h.holder.symm, h.claims.symm,
    fun counter combo => (h.combinations counter combo).symm⟩

theorem trans (h : Agree a st st') (k : Agree a st' st'') : Agree a st st'' :=
  ⟨k.config.trans h.config, k.globalIndex.trans h.globalIndex, k.holder.trans h.holder,
    k.claims.trans h.claims,
    fun counter combo => (k.combinations counter combo).trans (h.combinations counter combo)⟩

theorem readHolder (h : Agree a st st') : st'.readHolder a = st.readHolder a := by
  rw [Storage.readHolder, h.holder, Storage.readHolder]

end Agree

/-- Results of one operation on two storages: the same response, agreement for
`a`, and the same change of the two counters. -/
structure Parallel (a : CanonicalAddr) (st st' : Storage) (r r' : Storage × Response) : Prop where
  response : r'.2 = r.2
  agree : Agree a r.1 r'.1
  total : r.1.state.totalBalance.val + st'.state.totalBalance.val =
    r'.1.state.totalBalance.val + st.state.totalBalance.val
  prev : r.1.state.prevRewardBalance.val + st'.state.prevRewardBalance.val =
    r'.1.state.prevRewardBalance.val + st.state.prevRewardBalance.val

variable {api : Api} {a : CanonicalAddr} {st st' : Storage} {dust dust' : ℕ}

/-- The storage with all the room there can be for further bonds. -/
def Storage.emptied (st : Storage) : Storage :=
  { st with state := { st.state with totalBalance := 0 } }

/-- On the emptied storage a bond passes with all but the check of the total. -/
theorem handleBond_emptied {info : MessageInfo} {holderAddr : String} {amount balance : Uint128}
    {pending : Decimal} (funds : info.funds = []) (nonzero : amount.val ≠ 0)
    (canonical : api.canonicalize holderAddr = .ok a)
    (settled : settledRewards st.state.globalIndex (st.readHolder a) = .ok pending)
    (added : (st.readHolder a).balance.add Fault.panic amount = .ok balance) :
    ∃ r, handleBond api info st.emptied holderAddr amount = .ok r := by
  have room : (0 : Uint128).val + amount.val < 2 ^ 128 := by
    rw [Word.val_zero, Nat.zero_add]
    exact amount.lt
  obtain ⟨total, fits⟩ := Word.add_of_lt (e := Fault.panic) room
  have settled' : settledRewards st.emptied.state.globalIndex (st.emptied.readHolder a) =
    .ok pending := settled
  have added' : (st.emptied.readHolder a).balance.add Fault.panic amount = .ok balance := added
  have fits' : st.emptied.state.totalBalance.add Fault.panic amount = .ok total := fits
  simp only [handleBond, rejectIf_neg _ (not_not.mpr funds), rejectIf_neg _ nonzero, canonical,
    settled', added', fits', ok_bind]
  exact ⟨_, rfl⟩

theorem handleBond_parallel {info : MessageInfo} {holderAddr : String} {amount : Uint128}
    (canonical : api.canonicalize holderAddr = .ok a) (agree : Agree a st st')
    (room : (∃ r, handleBond api info st.emptied holderAddr amount = .ok r) →
      st.state.totalBalance.val + amount.val < 2 ^ 128 ∧
        st'.state.totalBalance.val + amount.val < 2 ^ 128) :
    Related (Parallel a st st') (handleBond api info st holderAddr amount)
      (handleBond api info st' holderAddr amount) := by
  simp only [handleBond, canonical, ok_bind, agree.readHolder, agree.globalIndex]
  refine .same_bind fun _ funds => .same_bind fun _ nonzero => .same_bind fun pending settled =>
    .same_bind fun balance added => ?_
  -- only the total is left, and it has room
  obtain ⟨fits, fits'⟩ := room (handleBond_emptied (not_not.mp (rejectIf_ok.mp funds))
    (rejectIf_ok.mp nonzero) canonical settled added)
  obtain ⟨total, htotal⟩ := Word.add_of_lt (e := Fault.panic) fits
  obtain ⟨total', htotal'⟩ := Word.add_of_lt (e := Fault.panic) fits'
  simp only [htotal, htotal', ok_bind]
  have moved := Word.add_ok.mp htotal
  have moved' := Word.add_ok.mp htotal'
  exact {
    response := rfl
    agree := {
      config := agree.config
      globalIndex := rfl
      holder := by simp only [Table.lookup_insert_eq]
      claims := agree.claims
      combinations := agree.combinations }
    total := by simp only; omega
    prev := Nat.add_comm _ _ }

/-- A token's message that can be read is a bond. -/
theorem handleReceive_of_bond {info : MessageInfo} {wrapper : Cw20.Cw20ReceiveMsg} {token : Addr}
    {msg : ReceiveMsg} (human : api.humanize st.config.cw20TokenAddr = .ok token)
    (sender : info.sender = token) (read : ReceiveMsg.fromBinary wrapper.msg = .ok msg) :
    handleReceive api info st wrapper = handleBond api info st wrapper.sender wrapper.amount := by
  cases msg
  simp only [handleReceive, human, rejectIf_neg _ (not_not.mpr sender), read, ok_bind]

/-- What is accepted is accepted with more room, too. -/
theorem handleReceive_emptied {info : MessageInfo} {wrapper : Cw20.Cw20ReceiveMsg}
    {r : Storage × Response} (h : handleReceive api info st wrapper = .ok r) :
    ∃ r', handleReceive api info st.emptied wrapper = .ok r' := by
  have steps := h
  simp only [handleReceive, bind_ok, rejectIf_ok, not_not] at steps
  obtain ⟨token, human, _, sender, msg, read, _⟩ := steps
  have human' : api.humanize st.emptied.config.cw20TokenAddr = .ok token := human
  rw [handleReceive_of_bond human sender read] at h
  rw [handleReceive_of_bond human' sender read]
  simp only [handleBond, bind_ok, rejectIf_ok, not_not] at h
  obtain ⟨_, funds, _, nonzero, a, canonical, pending, settled, balance, added, _⟩ := h
  exact handleBond_emptied funds nonzero canonical settled added

theorem handleReceive_parallel {info : MessageInfo} {wrapper : Cw20.Cw20ReceiveMsg}
    (canonical : api.canonicalize wrapper.sender = .ok a) (agree : Agree a st st')
    (room : (∃ r, handleReceive api info st.emptied wrapper = .ok r) →
      st.state.totalBalance.val + wrapper.amount.val < 2 ^ 128 ∧
        st'.state.totalBalance.val + wrapper.amount.val < 2 ^ 128) :
    Related (Parallel a st st') (handleReceive api info st wrapper)
      (handleReceive api info st' wrapper) := by
  simp only [handleReceive, agree.config]
  refine .same_bind fun token human => .same_bind fun _ sender => .same_bind fun msg read => ?_
  have same : info.sender = token := not_not.mp (rejectIf_ok.mp sender)
  have human' : api.humanize st.emptied.config.cw20TokenAddr = .ok token := human
  rw [handleReceive_of_bond human' same read] at room
  cases msg
  exact handleBond_parallel canonical agree room

theorem handleUnbound_parallel {env : Env} {info : MessageInfo} {amount : Uint128}
    {address : String} (canonical : api.canonicalize address = .ok a) (agree : Agree a st st')
    (sound : Solvent st dust) (sound' : Solvent st' dust') :
    Related (Parallel a st st') (handleUnbound api env info st amount address)
      (handleUnbound api env info st' amount address) := by
  simp only [handleUnbound, canonical, ok_bind, agree.readHolder, agree.globalIndex, agree.config]
  refine .same_bind fun _ _ => .same_bind fun _ _ => .same_bind fun _ _ => .same_bind fun _ _ =>
    .same_bind fun _ notLess => .same_bind fun pending _ => .same_bind fun balance hbalance => ?_
  -- the holder's own balance check covers the one on the total
  have held : amount.val ≤ (st.readHolder a).balance.val :=
    Nat.le_of_not_lt (rejectIf_ok.mp notLess)
  have part := st.balance_le_balances a
  have part' := st'.balance_le_balances a
  rw [agree.readHolder] at part'
  rw [← sound.staked] at part
  rw [← sound'.staked] at part'
  obtain ⟨total, htotal⟩ := Word.sub_of_le (e := overflow) (held.trans part)
  obtain ⟨total', htotal'⟩ := Word.sub_of_le (e := overflow) (held.trans part')
  simp only [htotal, htotal', ok_bind]
  refine .same_bind fun release _ => ?_
  have moved := Word.sub_ok.mp htotal
  have moved' := Word.sub_ok.mp htotal'
  exact {
    response := rfl
    agree := {
      config := rfl
      globalIndex := rfl
      holder := by simp only [Table.lookup_insert_eq]
      claims := by simp only [createClaim, Table.lookup_insert_eq, agree.claims]
      combinations := agree.combinations }
    total := by simp only; omega
    prev := Nat.add_comm _ _ }

theorem handleWithdrawStake_parallel {env : Env} {info : MessageInfo} {cap : Option Uint128}
    {address : String} (canonical : api.canonicalize address = .ok a) (agree : Agree a st st') :
    Related (Parallel a st st') (handleWithdrawStake api env info st cap address)
      (handleWithdrawStake api env info st' cap address) := by
  simp only [handleWithdrawStake, claimTokens, canonical, ok_bind, agree.claims, agree.config,
    bind_assoc, pure_bind]
  refine .same_bind fun _ _ => .same_bind fun _ _ => .same_bind fun split _ =>
    .same_bind fun _ _ => .same_bind fun token _ => ?_
  exact {
    response := rfl
    agree := {
      config := rfl
      globalIndex := agree.globalIndex
      holder := agree.holder
      claims := by simp only [Table.lookup_insert_eq]
      combinations := agree.combinations }
    total := Nat.add_comm _ _
    prev := Nat.add_comm _ _ }

theorem quoteTickets_agree {querier : Querier} {recipient : String} {combination : List String}
    (canonical : api.canonicalize recipient = .ok a) (agree : Agree a st st') :
    quoteTickets api querier st' recipient combination =
      quoteTickets api querier st recipient combination := by
  simp only [quoteTickets, canonical, ok_bind, agree.readHolder, agree.globalIndex, agree.config]

/-- The loop looks at the entries of its own recipient only. -/
theorem saveCombinations_parallel {counter : Uint64} {combination : List String}
    {saved saved' : Table CombinationKey String}
    (same : ∀ counter combo, saved'.lookup (counter, a, combo) = saved.lookup (counter, a, combo)) :
    Related (fun t t' => ∀ counter combo,
        t'.lookup (counter, a, combo) = t.lookup (counter, a, combo))
      (saveCombinations counter a saved combination)
      (saveCombinations counter a saved' combination) := by
  induction combination generalizing saved saved' with
  | nil => exact same
  | cons combo combination ih =>
      simp only [saveCombinations, same counter combo]
      cases saved.lookup (counter, a, combo) with
      | some _ => exact rfl
      | none =>
          apply ih
          intro other text
          by_cases key : (other, a, text) = (counter, a, combo)
          · rw [key, Table.lookup_insert_eq, Table.lookup_insert_eq]
          · rw [Table.lookup_insert_ne _ _ key, Table.lookup_insert_ne _ _ key]
            exact same other text

theorem saveCombinations_other {counter counter' : Uint64} {combination : List String}
    {saved saved' : Table CombinationKey String} {b : CanonicalAddr} {combo : String}
    (h : saveCombinations counter a saved combination = .ok saved') (ne : b ≠ a) :
    saved'.lookup (counter', b, combo) = saved.lookup (counter', b, combo) := by
  induction combination generalizing saved with
  | nil =>
      cases h
      rfl
  | cons text combination ih =>
      rw [saveCombinations] at h
      split at h
      · rw [ih h, Table.lookup_insert_ne]
        intro key
        exact ne (Prod.ext_iff.mp (Prod.ext_iff.mp key).2).1
      · cases h

theorem handleGetTicket_parallel {querier : Querier} {recipient : String}
    {combination : List String} (canonical : api.canonicalize recipient = .ok a)
    (agree : Agree a st st') (sound : Solvent st dust) (sound' : Solvent st' dust') :
    Related (Parallel a st st') (handleGetTicket api querier st recipient combination)
      (handleGetTicket api querier st' recipient combination) := by
  simp only [handleGetTicket, quoteTickets_agree canonical agree, agree.globalIndex, agree.config]
  refine .same_bind fun quote quoted => ?_
  obtain ⟨canonical', _⟩ := quoteTickets_ok quoted
  have own : quote.addrRaw = a := by
    rw [canonical] at canonical'
    exact (Except.ok.inj canonical').symm
  -- solvency covers the checked subtraction in both storages
  obtain ⟨left, hleft⟩ := Word.sub_of_le (e := overflow) (sound.quoted_le quoted)
  obtain ⟨left', hleft'⟩ := Word.sub_of_le (e := overflow)
    (sound'.quoted_le ((quoteTickets_agree canonical agree).trans quoted))
  rw [own, agree.readHolder]
  refine .bind (saveCombinations_parallel agree.combinations) fun saved saved' _ _ same => ?_
  simp only [hleft, hleft', ok_bind]
  refine .same_bind fun _ _ => .same_bind fun pending _ => .same_bind fun _ _ =>
    .same_bind fun _ _ => ?_
  have moved := Word.sub_ok.mp hleft
  have moved' := Word.sub_ok.mp hleft'
  exact {
    response := rfl
    agree := {
      config := rfl
      globalIndex := rfl
      holder := by simp only [Table.lookup_insert_eq]
      claims := agree.claims
      combinations := same }
    total := Nat.add_comm _ _
    prev := by simp only; omega }

/-! From handlers to calls. -/

/-- The holder a message is about. -/
def ExecuteMsg.subject : ExecuteMsg → Option String
  | .updateGlobalIndex => none
  | .unbondStake _ address => some address
  | .withdrawStake _ address => some address
  | .receive wrapper => some wrapper.sender
  | .getTicket recipient _ => some recipient

/-- What a call bonds once there is room for it: a bond counts when no other check
refuses it. -/
def Call.bonding (api : Api) (st : Storage) (call : Call) : ℕ := bondedAmount api st.emptied call

/-- What the caller sees of a call: its response, or why it was rejected. -/
def outcome (api : Api) (st : Storage) (call : Call) : Except Fault Response :=
  Prod.snd <$> execute api st call

theorem execute_parallel {call : Call} {address : String}
    (subject : call.msg.subject = some address) (canonical : api.addrCanonicalize address = some a)
    (agree : Agree a st st') (sound : Solvent st dust) (sound' : Solvent st' dust')
    (room : st.state.totalBalance.val + call.bonding api st < 2 ^ 128)
    (room' : st'.state.totalBalance.val + call.bonding api st < 2 ^ 128) :
    Related (Parallel a st st') (execute api st call) (execute api st' call) := by
  have canonical' : api.canonicalize address = .ok a := orReject_ok.mpr canonical
  obtain ⟨querier, env, info, msg⟩ := call
  cases msg with
  | updateGlobalIndex => cases subject
  | unbondStake amount holder =>
      cases subject
      exact handleUnbound_parallel canonical' agree sound sound'
  | withdrawStake cap holder =>
      cases subject
      exact handleWithdrawStake_parallel canonical' agree
  | receive wrapper =>
      cases subject
      apply handleReceive_parallel canonical' agree
      intro accepted
      have bonded : succeeds api st.emptied ⟨querier, env, info, .receive wrapper⟩ = true :=
        succeeds_iff.mpr accepted
      simp only [Call.bonding, bondedAmount, bonded, if_true] at room room'
      exact ⟨room, room'⟩
  | getTicket recipient combination =>
      cases subject
      exact handleGetTicket_parallel canonical' agree sound sound'

/-- A call on two storages that agree for its holder: the same outcome, and the
same effect. -/
structure StepParallel (api : Api) (a : CanonicalAddr) (st st' : Storage) (call : Call) : Prop where
  outcome : outcome api st' call = outcome api st call
  agree : Agree a (step api st call) (step api st' call)
  total : (step api st call).state.totalBalance.val + st'.state.totalBalance.val =
    (step api st' call).state.totalBalance.val + st.state.totalBalance.val
  prev : (step api st call).state.prevRewardBalance.val + st'.state.prevRewardBalance.val =
    (step api st' call).state.prevRewardBalance.val + st.state.prevRewardBalance.val

theorem step_parallel {call : Call} (agree : Agree a st st')
    (h : Related (Parallel a st st') (execute api st call) (execute api st' call)) :
    StepParallel api a st st' call := by
  cases result : execute api st call with
  | error e =>
      cases result' : execute api st' call with
      | ok r' =>
          rw [result, result'] at h
          exact h.elim
      | error e' =>
          rw [result, result'] at h
          have same : e = e' := h
          refine ⟨?_, ?_, ?_, ?_⟩
          · rw [outcome, outcome, result, result', same]
          · rw [step_error result, step_error result']
            exact agree
          · rw [step_error result, step_error result', Nat.add_comm]
          · rw [step_error result, step_error result', Nat.add_comm]
  | ok r =>
      cases result' : execute api st' call with
      | error e' =>
          rw [result, result'] at h
          exact h.elim
      | ok r' =>
          rw [result, result'] at h
          have both : Parallel a st st' r r' := h
          refine ⟨?_, ?_, ?_, ?_⟩
          · rw [outcome, outcome, result, result', map_ok_eq, map_ok_eq, both.response]
          · rw [step_ok result, step_ok result']
            exact both.agree
          · rw [step_ok result, step_ok result']
            exact both.total
          · rw [step_ok result, step_ok result']
            exact both.prev

/-- An operation for `a` changes nothing that an operation for `b` looks at. -/
theorem step_agree_other {call : Call} {address : String} {b : CanonicalAddr}
    (subject : call.msg.subject = some address) (canonical : api.addrCanonicalize address = some a)
    (ne : b ≠ a) : Agree b st (step api st call) := by
  have canonical' : api.canonicalize address = .ok a := orReject_ok.mpr canonical
  cases result : execute api st call with
  | error e =>
      rw [step_error result]
      exact .refl b st
  | ok r =>
      rw [step_ok result]
      obtain ⟨querier, env, info, msg⟩ := call
      cases execute_effect result with
      | updated done => cases subject
      | bonded done =>
          cases subject
          cases canonical'.symm.trans done.sender
          refine ⟨done.settled.config, done.settled.globalIndex, ?_, ?_, ?_⟩
          · rw [done.settled.holders, Table.lookup_insert_ne _ _ ne]
          · rw [done.claims]
          · intro counter combo
            rw [done.combinations]
      | unbonded done =>
          cases subject
          cases canonical'.symm.trans done.holder
          refine ⟨done.settled.config, done.settled.globalIndex, ?_, ?_, ?_⟩
          · rw [done.settled.holders, Table.lookup_insert_ne _ _ ne]
          · rw [done.claims, createClaim, Table.lookup_insert_ne _ _ ne]
          · intro counter combo
            rw [done.combinations]
      | withdrawn done =>
          cases subject
          cases canonical'.symm.trans done.holder
          rw [done.rest]
          exact ⟨rfl, rfl, rfl, Table.lookup_insert_ne _ _ ne, fun _ _ => rfl⟩
      | bought done =>
          cases subject
          obtain ⟨own, _⟩ := quoteTickets_ok done.quoted
          cases canonical'.symm.trans own
          refine ⟨done.settled.config, done.settled.globalIndex, ?_, ?_, ?_⟩
          · rw [done.settled.holders, Table.lookup_insert_ne _ _ ne]
          · rw [done.claims]
          · intro counter combo
            exact saveCombinations_other done.saved ne

theorem step_total_le (call : Call) :
    (step api st call).state.totalBalance.val ≤
      st.state.totalBalance.val + call.bonding api st := by
  cases result : execute api st call with
  | error e =>
      rw [step_error result]
      exact Nat.le_add_right _ _
  | ok r =>
      rw [step_ok result]
      obtain ⟨querier, env, info, msg⟩ := call
      cases execute_effect result with
      | updated done =>
          rw [done.total]
          exact Nat.le_add_right _ _
      | bonded done =>
          have accepted : succeeds api st.emptied ⟨querier, env, info, .receive _⟩ = true :=
            succeeds_iff.mpr (handleReceive_emptied result)
          simp only [Call.bonding, bondedAmount, accepted, if_true, done.total, le_refl]
      | unbonded done =>
          have removed := done.total
          exact Nat.le_add_right_of_le (by omega)
      | withdrawn done =>
          rw [done.rest]
          exact Nat.le_add_right _ _
      | bought done =>
          rw [done.total]
          exact Nat.le_add_right _ _

/-- Storages with the same counters that agree for every address are equal. -/
theorem eq_of_agree (agree : ∀ a, Agree a st st')
    (total : st'.state.totalBalance.val = st.state.totalBalance.val)
    (prev : st'.state.prevRewardBalance.val = st.state.prevRewardBalance.val) : st = st' := by
  have globalIndex := (agree []).globalIndex
  have config := (agree []).config
  have holders : st'.holders = st.holders := Finmap.ext_lookup fun a => (agree a).holder
  have claims : st'.claims = st.claims := Finmap.ext_lookup fun a => (agree a).claims
  have combinations : st'.combinations = st.combinations :=
    Finmap.ext_lookup fun key => (agree key.2.1).combinations key.1 key.2.2
  have state : st'.state = st.state :=
    State.ext globalIndex (Word.ext total) (Word.ext prev)
  exact (Storage.ext config state holders claims combinations).symm

/-- Two calls on one storage that do not get in each other's way. -/
structure Commute (api : Api) (st : Storage) (callA callB : Call) : Prop where
  outcomeA : outcome api (step api st callB) callA = outcome api st callA
  outcomeB : outcome api (step api st callA) callB = outcome api st callB
  storage : step api (step api st callA) callB = step api (step api st callB) callA

/-- Calls for different holders do not, as long as there is room for what they bond. -/
theorem Solvent.commute (sound : Solvent st dust) {callA callB : Call}
    {addressA addressB : String} {a b : CanonicalAddr}
    (subjectA : callA.msg.subject = some addressA) (subjectB : callB.msg.subject = some addressB)
    (canonicalA : api.addrCanonicalize addressA = some a)
    (canonicalB : api.addrCanonicalize addressB = some b) (ne : a ≠ b)
    (room : st.state.totalBalance.val + callA.bonding api st + callB.bonding api st < 2 ^ 128) :
    Commute api st callA callB := by
  have frameA {s : Storage} {c : CanonicalAddr} (other : c ≠ a) : Agree c s (step api s callA) :=
    step_agree_other subjectA canonicalA other
  have frameB {s : Storage} {c : CanonicalAddr} (other : c ≠ b) : Agree c s (step api s callB) :=
    step_agree_other subjectB canonicalB other
  have totalA : (step api st callA).state.totalBalance.val ≤
      st.state.totalBalance.val + callA.bonding api st := step_total_le callA
  have totalB : (step api st callB).state.totalBalance.val ≤
      st.state.totalBalance.val + callB.bonding api st := step_total_le callB
  have first : StepParallel api a st (step api st callB) callA :=
    step_parallel (frameB ne) (execute_parallel subjectA canonicalA (frameB ne) sound
      (step_solvent api sound callB) (by omega) (by omega))
  have second : StepParallel api b st (step api st callA) callB :=
    step_parallel (frameA ne.symm) (execute_parallel subjectB canonicalB (frameA ne.symm) sound
      (step_solvent api sound callA) (by omega) (by omega))
  refine ⟨first.outcome, second.outcome, eq_of_agree ?_ ?_ ?_⟩
  · intro c
    by_cases isA : c = a
    · rw [isA]
      exact (frameB ne).symm.trans first.agree
    · by_cases isB : c = b
      · rw [isB]
        exact second.agree.symm.trans (frameA ne.symm)
      · exact ((frameA isA).trans (frameB isB)).symm.trans ((frameB isB).trans (frameA isA))
  · have left := first.total
    have right := second.total
    omega
  · have left := first.prev
    have right := second.prev
    omega

/-- Two operations for different holders commute in every reachable storage:
neither changes whether the other succeeds or what it answers, and both orders
end in the same storage. -/
theorem distinct_holders_commute (api : Api) (config : Config) (calls : List Call)
    (callA callB : Call) {addressA addressB : String} {a b : CanonicalAddr}
    (subjectA : callA.msg.subject = some addressA) (subjectB : callB.msg.subject = some addressB)
    (canonicalA : api.addrCanonicalize addressA = some a)
    (canonicalB : api.addrCanonicalize addressB = some b) (ne : a ≠ b)
    (room : (reached api config calls).state.totalBalance.val +
      callA.bonding api (reached api config calls) +
      callB.bonding api (reached api config calls) < 2 ^ 128) :
    outcome api (step api (reached api config calls) callB) callA =
        outcome api (reached api config calls) callA ∧
      outcome api (step api (reached api config calls) callA) callB =
        outcome api (reached api config calls) callB ∧
      step api (step api (reached api config calls) callA) callB =
        step api (step api (reached api config calls) callB) callA := by
  have both := (reached_solvent api config calls).commute subjectA subjectB canonicalA canonicalB ne
    room
  exact ⟨both.outcomeA, both.outcomeB, both.storage⟩

/-- Alice and Bob buy tickets for the same round, in either order: both get them. -/
theorem purchases_commute :
    let st := reached Sample.api Sample.config
      [Sample.bond "alice" (.ofNat 5), Sample.bond "bob" (.ofNat 5), Sample.update (.ofNat 100)]
    let alice := Sample.buy "alice" (.ofNat 30) ["abc123"]
    let bob := Sample.buy "bob" (.ofNat 20) ["abc123"]
    (∃ r, outcome Sample.api (step Sample.api st bob) alice = .ok r) ∧
      (∃ r, outcome Sample.api (step Sample.api st alice) bob = .ok r) ∧
      step Sample.api (step Sample.api st alice) bob =
        step Sample.api (step Sample.api st bob) alice := by
  intro st alice bob
  obtain ⟨first, second, same⟩ := distinct_holders_commute Sample.api Sample.config
    [Sample.bond "alice" (.ofNat 5), Sample.bond "bob" (.ofNat 5), Sample.update (.ofNat 100)]
    alice bob (a := [4]) (b := [5]) rfl rfl (by decide) (by decide) (by decide) (by decide +kernel)
  obtain ⟨r, got, _⟩ : ∃ r, outcome Sample.api st alice = .ok r ∧ True := by decide +kernel
  obtain ⟨r', got', _⟩ : ∃ r, outcome Sample.api st bob = .ok r ∧ True := by decide +kernel
  exact ⟨⟨r, first.trans got⟩, ⟨r', second.trans got'⟩, same⟩

end DogetherContracts.Staking
