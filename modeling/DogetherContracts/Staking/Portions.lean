import DogetherContracts.Staking.Claims
import DogetherContracts.Staking.Range

/-! # Withdrawals in portions

A cap on a withdrawal only puts it off: once everything is withdrawn without a cap, it
makes no difference which portions were withdrawn before. -/
namespace DogetherContracts
open Checked

theorem Expiration.isExpired_mono {earlier later : BlockInfo} {releaseAt : Expiration}
    (height : earlier.height ≤ later.height) (time : earlier.time ≤ later.time)
    (expired : releaseAt.isExpired earlier = true) : releaseAt.isExpired later = true := by
  cases releaseAt with
  | atHeight h =>
      rw [isExpired, decide_eq_true_iff] at expired ⊢
      exact Nat.le_trans expired height
  | atTime t =>
      rw [isExpired, decide_eq_true_iff] at expired ⊢
      exact Nat.le_trans expired time
  | never => cases expired

namespace Staking
open Storage Run

def Storage.setClaims (st : Storage) (a : CanonicalAddr) (claims : List Claim) : Storage :=
  { st with claims := st.claims.insert a claims }

@[simp] theorem Storage.setClaims_config (st : Storage) (a : CanonicalAddr) (claims : List Claim) :
    (st.setClaims a claims).config = st.config := rfl

@[simp] theorem Storage.setClaims_setClaims (st : Storage) (a : CanonicalAddr)
    (claims claims' : List Claim) :
    (st.setClaims a claims).setClaims a claims' = st.setClaims a claims' := by
  simp only [setClaims, Finmap.insert_insert]

/-- The claims that wait beyond a block. -/
def locked (block : BlockInfo) (claims : List Claim) : List Claim :=
  claims.filter fun c => !c.releaseAt.isExpired block

def Positive (claims : List Claim) : Prop := ∀ c ∈ claims, 0 < c.amount.val

theorem claimed_filter_le (p : Claim → Bool) (claims : List Claim) :
    claimed (claims.filter p) ≤ claimed claims := by
  induction claims with
  | nil => exact Nat.le_refl _
  | cons c claims ih =>
      rw [List.filter_cons, claimed_cons]
      split
      · rw [claimed_cons]
        exact Nat.add_le_add_left ih _
      · exact ih.trans (Nat.le_add_left _ _)

/-- Positive claims of no less worth are all the claims. -/
theorem filter_of_claimed {p : Claim → Bool} {claims : List Claim} (positive : Positive claims)
    (same : claimed (claims.filter p) = claimed claims) : claims.filter p = claims := by
  induction claims with
  | nil => rfl
  | cons c claims ih =>
      obtain ⟨pos, positive⟩ := List.forall_mem_cons.mp positive
      have le := claimed_filter_le p claims
      rw [List.filter_cons] at same ⊢
      split at same
      · next keep =>
        rw [claimed_cons, claimed_cons, Nat.add_left_cancel_iff] at same
        rw [if_pos keep, ih positive same]
      · rw [claimed_cons] at same
        omega

/-- The tokens that a response burns. -/
def burned (res : Response) : ℕ :=
  (res.messages.map fun sub =>
    match sub.msg with
    | .execute _ (.cw20 (.burn amount)) _ => amount.val
    | _ => 0).sum

/-- The tokens that a call burns, if it goes through. -/
def burns (api : Api) (st : Storage) (call : Call) : ℕ :=
  match execute api st call with
  | .ok (_, res) => burned res
  | .error _ => 0

theorem burns_ok {api : Api} {st st' : Storage} {call : Call} {res : Response}
    (h : execute api st call = .ok (st', res)) : burns api st call = burned res := by
  rw [burns, h]

theorem burns_error {api : Api} {st : Storage} {call : Call} {e : Fault}
    (h : execute api st call = .error e) : burns api st call = 0 := by
  rw [burns, h]

/-- A withdrawal for the holder `a`, capped or not, at the block or before it. -/
structure Portion (api : Api) (a : CanonicalAddr) (block : BlockInfo) (call : Call) : Prop where
  msg : ∃ cap address, call.msg = .withdrawStake cap address ∧ api.canonicalize address = .ok a
  height : call.env.block.height ≤ block.height
  time : call.env.block.time ≤ block.time

/-- What portions of the tokens of `a` make of a storage. -/
structure Portioned (api : Api) (a : CanonicalAddr) (block : BlockInfo) (st st' : Storage)
    (amount : ℕ) : Prop where
  untouched : amount = 0 → st' = st
  written : amount ≠ 0 → st' = st.setClaims a (st'.readClaims a) ∧
    ∃ token, api.humanize st.config.cw20TokenAddr = .ok token
  kept : locked block (st'.readClaims a) = locked block (st.readClaims a)
  sublist : (st'.readClaims a).Sublist (st.readClaims a)
  conserved : amount + claimed (st'.readClaims a) = claimed (st.readClaims a)

section Portions

variable {api : Api} {a : CanonicalAddr} {block : BlockInfo} {st st' : Storage} {amount : ℕ}

theorem Portioned.refl (api : Api) (a : CanonicalAddr) (block : BlockInfo) (st : Storage) :
    Portioned api a block st st 0 where
  untouched _ := rfl
  written some := absurd rfl some
  kept := rfl
  sublist := List.Sublist.refl _
  conserved := Nat.zero_add _

/-- Whatever is written over the claims of `a`, portions make no difference. -/
theorem Portioned.overwritten (done : Portioned api a block st st' amount) (claims : List Claim) :
    st'.setClaims a claims = st.setClaims a claims := by
  by_cases nothing : amount = 0
  · rw [done.untouched nothing]
  · obtain ⟨same, _⟩ := done.written nothing
    rw [same, Storage.setClaims_setClaims]

theorem Portioned.step (done : Portioned api a block st st' amount) {call : Call}
    (portion : Portion api a block call) :
    Portioned api a block st (Staking.step api st' call) (amount + burns api st' call) := by
  obtain ⟨cap, address, msg, holder⟩ := portion.msg
  cases result : execute api st' call with
  | error e =>
      rw [step_error result, burns_error result]
      exact done
  | ok r =>
      obtain ⟨st'', res⟩ := r
      rw [step_ok result, burns_ok result]
      simp only [execute, msg] at result
      obtain ⟨a', paid, waiting, token, withdrawn, rfl⟩ := handleWithdrawStake_ok result
      obtain rfl : a' = a := Except.ok.inj (withdrawn.holder.symm.trans holder)
      have read := withdrawn.readClaims_self
      have left := (partitionClaims_greedy withdrawn.partition).1
      have sum := partitionClaims_sum withdrawn.partition
      have before := done.conserved
      have config : st'.config = st.config := by
        simpa only [Storage.setClaims_config] using congrArg Storage.config (done.overwritten [])
      have positive := withdrawn.positive
      rw [show ∀ attributes, burned ⟨[⟨.execute token (.cw20 (.burn paid)) [], none⟩],
        attributes⟩ = paid.val from fun _ => Nat.add_zero _]
      refine ⟨fun nothing => by omega, fun _ => ⟨?_, token, config ▸ withdrawn.cw20⟩, ?_, ?_, ?_⟩
      · rw [read, ← done.overwritten]
        exact withdrawn.rest
      · rw [read, ← done.kept, left]
        exact Greedy.filter_pick fun c => Expiration.isExpired_mono portion.height portion.time
      · rw [read, left]
        exact (Greedy.pick_sublist false _ _).trans done.sublist
      · rw [read]
        rw [Word.val_zero] at sum
        omega

theorem portioned_run (st : Storage) {portions : List Call}
    (each : ∀ call ∈ portions, Portion api a block call) :
    Portioned api a block st (run (step api) st portions)
      (tally (step api) (burns api) st portions) := by
  induction portions using List.reverseRecOn with
  | nil => exact .refl api a block st
  | append_singleton portions call ih =>
      rw [run_snoc, tally_snoc]
      exact (ih fun c member => each c (List.mem_append_left _ member)).step
        (each call (List.mem_append_right _ List.mem_cons_self))

/-- Without a cap all that is not locked is burned. -/
theorem withdraw_all {last : Call} {address : String} {token : Addr}
    (msg : last.msg = .withdrawStake none address) (holder : api.canonicalize address = .ok a)
    (admin : api.canonicalize last.info.sender = .ok st.config.admin)
    (cw20 : api.humanize st.config.cw20TokenAddr = .ok token)
    (fits : claimed (st.readClaims a) < 2 ^ 128) :
    burns api st last + claimed (locked last.env.block (st.readClaims a)) =
        claimed (st.readClaims a) ∧
      (burns api st last = 0 → step api st last = st) ∧
      (burns api st last ≠ 0 → step api st last =
        st.setClaims a (locked last.env.block (st.readClaims a))) := by
  obtain ⟨⟨paid, waiting⟩, split⟩ := partitionClaims_of_fits last.env.block none
    (show (0 : Uint128).val + claimed (st.readClaims a) < 2 ^ 128 by rw [Word.val_zero]; omega)
  have sum := partitionClaims_sum split
  rw [Word.val_zero, Nat.zero_add] at sum
  obtain rfl : waiting = locked last.env.block (st.readClaims a) := partitionClaims_waiting split
  have claims : claimTokens st.claims a last.env.block none =
      .ok (st.claims.insert a (locked last.env.block (st.readClaims a)), paid) := by
    rw [claimTokens]
    exact bind_ok.mpr ⟨_, split, rfl⟩
  by_cases nothing : paid.val = 0
  · have refused : execute api st last = .error (genericErr "Wait for the unbonding period") := by
      simp only [execute, msg, handleWithdrawStake, admin, holder, claims, rejectIf, ne_eq,
        not_true_eq_false, if_false, nothing, if_true, ok_bind, error_bind]
    rw [burns_error refused, step_error refused]
    exact ⟨by omega, fun _ => rfl, fun some => absurd rfl some⟩
  · have accepted : ∃ res, execute api st last =
        .ok (st.setClaims a (locked last.env.block (st.readClaims a)), res) ∧
          burned res = paid.val := by
      simp only [execute, msg, handleWithdrawStake, admin, holder, claims, cw20,
        rejectIf_neg _ (not_not.mpr rfl), rejectIf_neg _ nothing, ok_bind]
      exact ⟨_, rfl, Nat.add_zero _⟩
    obtain ⟨res, ran, amount⟩ := accepted
    rw [burns_ok ran, step_ok ran]
    exact ⟨by rw [amount]; exact sum, fun none => absurd (amount ▸ none) nothing, fun _ => rfl⟩

end Portions

/-- No call leaves an empty claim. -/
theorem step_positive (api : Api) {st : Storage} (positive : ∀ a, Positive (st.readClaims a))
    (call : Call) (a : CanonicalAddr) : Positive ((step api st call).readClaims a) := by
  cases result : execute api st call with
  | error e =>
      rw [step_error result]
      exact positive a
  | ok r =>
      rw [step_ok result]
      obtain ⟨querier, env, info, msg⟩ := call
      cases execute_effect result with
      | updated done =>
          rw [readClaims_same done.claims]
          exact positive a
      | bonded done =>
          rw [readClaims_same done.claims]
          exact positive a
      | bought done =>
          rw [readClaims_same done.claims]
          exact positive a
      | @unbonded amount address b h release done =>
          by_cases own : a = b
          · rw [own, done.readClaims_self]
            intro c member
            rcases List.mem_append.mp member with old | new
            · exact positive b c old
            · obtain rfl := List.mem_singleton.mp new
              exact done.positive
          · rw [done.readClaims_other own]
            exact positive a
      | @withdrawn cap address b amount waiting token done =>
          by_cases own : a = b
          · rw [own, done.readClaims_self, (partitionClaims_greedy done.partition).1]
            intro c member
            exact positive b c ((Greedy.pick_sublist false _ _).subset member)
          · rw [done.readClaims_other own]
            exact positive a

theorem reached_positive (api : Api) (config : Config) (calls : List Call) (a : CanonicalAddr) :
    Positive ((reached api config calls).readClaims a) := by
  have start (a : CanonicalAddr) : Positive ((Storage.initial config).readClaims a) := by
    intro c member
    cases member
  exact run_invariant (fun st : Storage => ∀ a, Positive (st.readClaims a)) start
    (fun _ call positive => step_positive api positive call) calls a

/-- Portions of any size, accepted or refused, make no difference to whoever withdraws
the rest without a cap: storage and burned tokens are those of one withdrawal. -/
theorem withdraw_portions (api : Api) (config : Config) (before portions : List Call) (last : Call)
    {address : String} {a : CanonicalAddr} (msg : last.msg = .withdrawStake none address)
    (holder : api.canonicalize address = .ok a)
    (admin : api.canonicalize last.info.sender = .ok config.admin)
    (fits : claimed ((reached api config before).readClaims a) < 2 ^ 128)
    (each : ∀ call ∈ portions, Portion api a last.env.block call) :
    let st := reached api config before
    run (step api) st (portions ++ [last]) = step api st last ∧
      tally (step api) (burns api) st (portions ++ [last]) = burns api st last := by
  intro st
  change claimed (st.readClaims a) < 2 ^ 128 at fits
  have done := portioned_run st each
  rw [run_snoc, tally_snoc]
  generalize run (step api) st portions = st' at done
  generalize tally (step api) (burns api) st portions = amount at done
  by_cases nothing : amount = 0
  · rw [done.untouched nothing, nothing, Nat.zero_add]
    exact ⟨rfl, rfl⟩
  obtain ⟨written, token, cw20⟩ := done.written nothing
  have config_eq : st.config = config := reached_config api config before
  have config_eq' : st'.config = st.config := by
    rw [written]
    rfl
  rw [← config_eq] at admin
  have conserved := done.conserved
  have le := claimed_filter_le (fun c => !c.releaseAt.isExpired last.env.block) (st'.readClaims a)
  change claimed (locked last.env.block (st'.readClaims a)) ≤ _ at le
  obtain ⟨all, _, whole⟩ := withdraw_all msg holder admin cw20 fits
  have admin' : api.canonicalize last.info.sender = .ok st'.config.admin := by
    rw [config_eq', admin]
  have cw20' : api.humanize st'.config.cw20TokenAddr = .ok token := by rw [config_eq', cw20]
  have fits' : claimed (st'.readClaims a) < 2 ^ 128 := by omega
  obtain ⟨rest, none_left, some_left⟩ := withdraw_all msg holder admin' cw20' fits'
  rw [done.kept] at le rest some_left
  rw [whole (by omega)]
  refine ⟨?_, by omega⟩
  by_cases empty : burns api st' last = 0
  · -- The portions have taken everything, and the last call is refused.
    have same : locked last.env.block (st'.readClaims a) = st'.readClaims a := by
      apply filter_of_claimed
      · intro c member
        exact reached_positive api config before a c (done.sublist.subset member)
      · change claimed (locked last.env.block (st'.readClaims a)) = _
        rw [done.kept]
        omega
    rw [none_left empty, written, ← done.kept, same]
  · rw [some_left empty, done.overwritten]

namespace Sample

/-- Alice bonds 30 and un-bonds 10 and 20 of it. -/
def unbondings : List Call :=
  [bond "alice" (.ofNat 30), unbond "alice" (.ofNat 10), unbond "alice" (.ofNat 20)]

/-- At height 1100 all of it can be withdrawn. -/
def withdraw (sender : Addr) (cap : Option Uint128) : Call :=
  ⟨querier 0 0, ⟨⟨.ofNat 1100, 0⟩, "staking"⟩, ⟨sender, []⟩, .withdrawStake cap "alice"⟩

def portions : List Call := [withdraw "admin" (some (.ofNat 10)), withdraw "bob" none]

end Sample

/-- Alice's 30 are withdrawn under a cap of 10, refused to a stranger, and then all of
them without a cap. -/
theorem withdraw_portions_alice :
    let st := reached Sample.api Sample.config Sample.unbondings
    run (step Sample.api) st (Sample.portions ++ [Sample.withdraw "admin" none]) =
        step Sample.api st (Sample.withdraw "admin" none) ∧
      tally (step Sample.api) (burns Sample.api) st
        (Sample.portions ++ [Sample.withdraw "admin" none]) = 30 := by
  have each : ∀ call ∈ Sample.portions,
      Portion Sample.api (Api.raw 4) (Sample.withdraw "admin" none).env.block call := by
    intro call member
    simp only [Sample.portions, List.mem_cons, List.not_mem_nil, or_false] at member
    rcases member with rfl | rfl
    · exact ⟨⟨_, "alice", rfl, rfl⟩, Nat.le_refl _, Nat.le_refl _⟩
    · exact ⟨⟨_, "alice", rfl, rfl⟩, Nat.le_refl _, Nat.le_refl _⟩
  have fits : claimed ((reached Sample.api Sample.config Sample.unbondings).readClaims
      (Api.raw 4)) < 2 ^ 128 := by decide +kernel
  have thirty : burns Sample.api (reached Sample.api Sample.config Sample.unbondings)
      (Sample.withdraw "admin" none) = 30 := by decide +kernel
  obtain ⟨same, amount⟩ := withdraw_portions Sample.api Sample.config Sample.unbondings
    Sample.portions (Sample.withdraw "admin" none) rfl rfl rfl fits each
  exact ⟨same, amount.trans thirty⟩

end Staking
end DogetherContracts
