import DogetherContracts.Lib.Interleave
import DogetherContracts.Staking.Commute

/-! # Schedules

Between two index updates the order in which the operations of different holders
arrive does not matter: they can as well run one holder after the other. -/
namespace DogetherContracts.Staking
open Checked Run

/-- The holder a call is about, if its address has a canonical form. -/
def Call.holder (api : Api) (call : Call) : Option CanonicalAddr :=
  call.msg.subject.bind api.addrCanonicalize

/-- What a call announces to bond, if it comes from the token. -/
def Call.bonds (api : Api) (config : Config) (call : Call) : ℕ :=
  match call.msg with
  | .receive wrapper =>
    if api.addrHumanize config.cw20TokenAddr = some call.info.sender then wrapper.amount.val else 0
  | _ => 0

theorem Call.bonding_le (api : Api) (st : Storage) (call : Call) :
    call.bonding api st ≤ call.bonds api st.config := by
  unfold Call.bonding bondedAmount Call.bonds
  obtain ⟨querier, env, info, msg⟩ := call
  cases msg with
  | receive wrapper =>
      simp only
      split
      · next accepted =>
        obtain ⟨r, result⟩ := succeeds_iff.mp accepted
        cases execute_effect result with
        | bonded done =>
            have token : api.addrHumanize st.config.cw20TokenAddr = some info.sender :=
              orReject_ok.mp done.cw20
            rw [if_pos token]
      · exact Nat.zero_le _
  | updateGlobalIndex => exact le_rfl
  | unbondStake amount address => exact le_rfl
  | withdrawStake cap address => exact le_rfl
  | getTicket recipient combination => exact le_rfl

/-- The calls are about holders, and what they bond together fits. -/
structure Schedulable (api : Api) (config : Config) (st : Storage) (calls : List Call) : Prop where
  solvent : ∃ dust, Solvent st dust
  configured : st.config = config
  holders : ∀ call ∈ calls, call.holder api ≠ none
  room : st.state.totalBalance.val + (calls.map fun call => call.bonds api config).sum < 2 ^ 128

theorem Call.holder_some {api : Api} {call : Call} {a : CanonicalAddr}
    (h : call.holder api = some a) :
    ∃ address, call.msg.subject = some address ∧ api.addrCanonicalize address = some a :=
  Option.bind_eq_some_iff.mp h

section Pair

variable {api : Api} {config : Config} {st : Storage} {callA callB : Call} {calls : List Call}

/-- Two calls for different holders, next to each other. -/
theorem Schedulable.pair (sched : Schedulable api config st (callA :: callB :: calls))
    (apart : callA.holder api ≠ callB.holder api) : Commute api st callA callB := by
  obtain ⟨dust, sound⟩ := sched.solvent
  obtain ⟨a, ha⟩ := Option.ne_none_iff_exists'.mp (sched.holders callA (by simp))
  obtain ⟨b, hb⟩ := Option.ne_none_iff_exists'.mp (sched.holders callB (by simp))
  obtain ⟨addressA, subjectA, canonicalA⟩ := Call.holder_some ha
  obtain ⟨addressB, subjectB, canonicalB⟩ := Call.holder_some hb
  have ne : a ≠ b := by
    rw [ha, hb] at apart
    exact fun same => apart (congrArg some same)
  have room := sched.room
  have bondsA := callA.bonding_le api st
  have bondsB := callB.bonding_le api st
  rw [← sched.configured, List.map_cons, List.map_cons, List.sum_cons, List.sum_cons] at room
  exact sound.commute subjectA subjectB canonicalA canonicalB ne (by omega)

end Pair

/-- Calls for different holders are independent. -/
theorem schedulable_independent (api : Api) (config : Config) :
    Independent (step api) (outcome api) (Call.holder api) (Schedulable api config) where
  keep := by
    intro st call calls sched
    obtain ⟨dust, sound⟩ := sched.solvent
    have room := sched.room
    have total : (step api st call).state.totalBalance.val ≤
        st.state.totalBalance.val + call.bonding api st := step_total_le call
    have announced := call.bonding_le api st
    rw [List.map_cons, List.sum_cons] at room
    rw [sched.configured] at announced
    exact {
      solvent := ⟨_, step_solvent api sound call⟩
      configured := (step_config api st call).trans sched.configured
      holders := fun later member => sched.holders later (List.mem_cons_of_mem call member)
      room := by omega }
  perm := by
    intro st calls calls' sched perm
    exact {
      solvent := sched.solvent
      configured := sched.configured
      holders := fun call member => sched.holders call (perm.mem_iff.mpr member)
      room := by
        rw [← (perm.map fun call => call.bonds api config).sum_eq]
        exact sched.room }
  commute sched apart := (sched.pair apart).storage
  unseen sched apart := (sched.pair apart).outcomeB

/-- What the calls for each holder returned, in order. -/
def outcomes (api : Api) (st : Storage) (calls : List Call) :
    Option CanonicalAddr → List (Except Fault Response) :=
  (run (logged (step api) (outcome api) (Call.holder api)) (st, fun _ => []) calls).2

/-- Whatever was called before: two schedules of the same operations for each holder
end in the same storage, and every operation is answered the same in both. -/
theorem schedules_agree (api : Api) (config : Config) (before calls calls' : List Call)
    (holders : ∀ call ∈ calls, call.holder api ≠ none)
    (room : (reached api config before).state.totalBalance.val +
      (calls.map fun call => call.bonds api config).sum < 2 ^ 128)
    (same : SameByKey (Call.holder api) calls calls') :
    run (step api) (reached api config before) calls =
        run (step api) (reached api config before) calls' ∧
      outcomes api (reached api config before) calls =
        outcomes api (reached api config before) calls' := by
  have sched : Schedulable api config (reached api config before) calls :=
    ⟨⟨_, reached_solvent api config before⟩, reached_config api config before, holders, room⟩
  have agree := (schedulable_independent api config).interleavings_agree (fun _ => []) sched same
  have storage := congrArg Prod.fst agree
  rw [run_logged_fst, run_logged_fst] at storage
  exact ⟨storage, congrArg Prod.snd agree⟩

namespace Sample

/-- Alice bonds and leaves while Bob bonds. -/
def schedule : List Call :=
  [bond "alice" (.ofNat 5), bond "bob" (.ofNat 7), unbond "alice" (.ofNat 5)]

/-- Bob comes first. -/
def schedule' : List Call :=
  [bond "bob" (.ofNat 7), bond "alice" (.ofNat 5), unbond "alice" (.ofNat 5)]

end Sample

/-- Either way all three go through, with the same answers and the same storage. -/
theorem bonds_agree :
    let st := reached Sample.api Sample.config []
    run (step Sample.api) st Sample.schedule = run (step Sample.api) st Sample.schedule' ∧
      outcomes Sample.api st Sample.schedule = outcomes Sample.api st Sample.schedule' ∧
      (outcomes Sample.api st Sample.schedule' (some [4])).map Except.isOk = [true, true] ∧
      (outcomes Sample.api st Sample.schedule' (some [5])).map Except.isOk = [true] := by
  intro st
  obtain ⟨storage, answers⟩ := schedules_agree Sample.api Sample.config [] Sample.schedule
    Sample.schedule' (by decide) (by decide +kernel) (.swap (by decide))
  exact ⟨storage, answers, by decide +kernel, by decide +kernel⟩

end DogetherContracts.Staking
