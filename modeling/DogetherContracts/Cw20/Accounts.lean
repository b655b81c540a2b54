import DogetherContracts.Cw20.Format
import DogetherContracts.Cw20.Supply

/-! # Accounts of the token

Over any run of a token, whoever created it and with whatever balances, an account has
what it was given less what it burned itself, and no other reason to refuse a call
exists than the caller's own balance, the creator's name and the range of the supply. -/
namespace DogetherContracts.Cw20
open Checked Run

/-- Tokens that a call mints for `a`, if it goes through. -/
def mintedTo (api : Api) (a : Addr) (st : Storage) (call : Call) : ℕ :=
  match call.msg with
  | .bond contract amount _ _ =>
    if contract = a ∧ (execute api call.info st call.msg).isOk then amount.val else 0
  | .burn _ => 0

/-- Tokens that a call of `a` burns, if it goes through. -/
def burnedFrom (api : Api) (a : Addr) (st : Storage) (call : Call) : ℕ :=
  match call.msg with
  | .burn amount =>
    if call.info.sender = a ∧ (execute api call.info st call.msg).isOk then amount.val else 0
  | .bond _ _ _ _ => 0

theorem step_account (api : Api) (st : Storage) (call : Call) (a : Addr) :
    ((step api st call).balanceOf a).val + burnedFrom api a st call =
      (st.balanceOf a).val + mintedTo api a st call := by
  obtain ⟨info, msg⟩ := call
  cases result : execute api info st msg with
  | error e =>
      cases msg <;> simp [step, burnedFrom, mintedTo, result, Except.isOk, Except.toBool]
  | ok r =>
      obtain ⟨st', res⟩ := r
      cases msg with
      | burn amount =>
          obtain ⟨balance, lowered, written⟩ := (executeBurn_ok result).balances
          simp only [step, burnedFrom, mintedTo, result, Except.isOk, Except.toBool]
          by_cases own : info.sender = a
          · rw [if_pos ⟨own, trivial⟩, ← own, balanceOf_insert_eq written]
            omega
          · rw [if_neg (fun both => own both.1), balanceOf_insert_ne written (Ne.symm own)]
      | bond contract amount payload recipient =>
          obtain ⟨balance, raised, written⟩ := (executeBond_ok result).balances
          simp only [step, burnedFrom, mintedTo, result, Except.isOk, Except.toBool]
          by_cases own : contract = a
          · rw [if_pos ⟨own, trivial⟩, ← own, balanceOf_insert_eq written]
            omega
          · rw [if_neg (fun both => own both.1), balanceOf_insert_ne written (Ne.symm own)]

theorem run_account (api : Api) (st : Storage) (calls : List Call) (a : Addr) :
    ((run (step api) st calls).balanceOf a).val + tally (step api) (burnedFrom api a) st calls =
      (st.balanceOf a).val + tally (step api) (mintedTo api a) st calls := by
  induction calls using List.reverseRecOn with
  | nil => rfl
  | append_singleton calls call ih =>
      have next := step_account api (run (step api) st calls) call a
      rw [run_snoc, tally_snoc, tally_snoc]
      omega

/-- What no message changes in a token. -/
def SetUp (msg : InstantiateMsg) (mint : Option MinterData) (st : Storage) : Prop :=
  ∃ totalSupply, st.tokenInfo = ⟨msg.name, msg.symbol, msg.decimals, totalSupply, mint⟩

theorem execute_setUp {api : Api} {info : MessageInfo} {st st' : Storage} {msg : ExecuteMsg}
    {res : Response} {m : InstantiateMsg} {mint : Option MinterData}
    (h : execute api info st msg = .ok (st', res)) (setUp : SetUp m mint st) :
    SetUp m mint st' := by
  obtain ⟨_, same⟩ := setUp
  cases msg with
  | burn amount =>
      simp only [execute, executeBurn, bind_ok, pure_ok, Prod.mk.injEq] at h
      obtain ⟨_, _, _, _, totalSupply, _, rfl, _⟩ := h
      exact ⟨totalSupply, by simp only [same]⟩
  | bond contract amount payload recipient =>
      simp only [execute, executeBond, bind_ok, pure_ok, Prod.mk.injEq] at h
      obtain ⟨_, _, _, _, totalSupply, _, _, _, _, _, _, _, rfl, _⟩ := h
      exact ⟨totalSupply, by simp only [same]⟩

theorem instantiate_setUp {api : Api} {info : MessageInfo} {msg : InstantiateMsg} {st : Storage}
    {res : Response} (h : instantiate api info msg = .ok (st, res)) :
    SetUp msg (some ⟨info.sender, none⟩) st := by
  simp only [instantiate, bind_ok, pure_ok, Prod.mk.injEq] at h
  obtain ⟨_, _, ⟨_, totalSupply⟩, _, rfl, _⟩ := h
  exact ⟨totalSupply, rfl⟩

theorem run_setUp {api : Api} {m : InstantiateMsg} {mint : Option MinterData} {st : Storage}
    (setUp : SetUp m mint st) (calls : List Call) : SetUp m mint (run (step api) st calls) := by
  refine run_invariant (SetUp m mint) setUp ?_ calls
  intro s call kept
  rw [step]
  split
  · next s' res h => exact execute_setUp h kept
  · exact kept

theorem executeBond_succeeds {api : Api} {info : MessageInfo} {st : Storage} {contract : String}
    {amount : Uint128} {msg : Binary} {recipient : String} (positive : 0 < amount.val)
    (minter : st.tokenInfo.mint = some ⟨info.sender, none⟩)
    (supply : st.tokenInfo.totalSupply.val + amount.val < 2 ^ 128)
    (valid : api.validate contract = .ok contract)
    (balance : (st.balanceOf contract).val + amount.val < 2 ^ 128) :
    ∃ st' res, executeBond api info st contract amount msg recipient = .ok (st', res) := by
  obtain ⟨sum, hsum⟩ := Word.add_of_lt (e := Fault.panic) supply
  obtain ⟨raised, hraised⟩ := Word.add_of_lt (e := Fault.panic) balance
  have authorized : ¬ st.tokenInfo.mint.map (·.minter) ≠ some info.sender := by
    rw [minter]
    exact not_not.mpr rfl
  have uncapped : ¬ overCap st.tokenInfo sum = true := by
    rw [overCap, TokenInfo.getCap, minter]
    exact Bool.false_ne_true
  simp only [executeBond, rejectIf_neg _ (Nat.ne_of_gt positive), rejectIf_neg _ authorized, hsum,
    rejectIf_neg _ uncapped, valid, hraised, ok_bind]
  exact ⟨_, _, rfl⟩

/-- Balances that never exceed the supply have room when it has. -/
theorem executeBond_accepted_iff {api : Api} {info : MessageInfo} {st : Storage}
    {creator contract recipient : String} {amount : Uint128} {payload : Binary}
    (mint : st.tokenInfo.mint = some ⟨creator, none⟩) (covered : 0 ≤ st.excess) :
    (∃ r, executeBond api info st contract amount payload recipient = .ok r) ↔
      0 < amount.val ∧ info.sender = creator ∧ api.validate contract = .ok contract ∧
        st.tokenInfo.totalSupply.val + amount.val < 2 ^ 128 := by
  constructor
  · rintro ⟨⟨st', res⟩, h⟩
    have done := executeBond_ok h
    have minter := done.minter
    rw [mint] at minter
    have valid : api.validate contract = .ok contract := by
      simp only [executeBond, bind_ok] at h
      obtain ⟨_, _, _, _, _, _, _, _, rcpt, hrcpt, _⟩ := h
      obtain rfl := Api.validate_ok hrcpt
      exact hrcpt
    exact ⟨done.positive, (Option.some.inj minter).symm, valid, done.supply ▸
      st'.tokenInfo.totalSupply.lt⟩
  · rintro ⟨positive, sender, valid, supply⟩
    have part := Table.valueAt_le_total Word.val st.balances contract
    rw [st.valueAt_balances] at part
    have total : st.total ≤ st.tokenInfo.totalSupply.val := by
      simp only [Storage.excess] at covered
      omega
    have balance : (st.balanceOf contract).val + amount.val < 2 ^ 128 := by
      change (st.balanceOf contract).val ≤ st.total at part
      omega
    obtain ⟨st', res, ran⟩ :=
      executeBond_succeeds positive (sender ▸ mint) supply valid balance
    exact ⟨(st', res), ran⟩

/-- After any run an account has its last row and what was minted for it, less what it
burned; a burn is accepted from whoever has the tokens, and a bond from the creator
while the supply has room. -/
theorem accounts_itemised {api : Api} {info : MessageInfo} {msg : InstantiateMsg} {st : Storage}
    {res : Response} (h : instantiate api info msg = .ok (st, res)) (calls : List Call) :
    let st' := run (step api) st calls
    (∀ a, (st'.balanceOf a).val + tally (step api) (burnedFrom api a) st calls =
      ((lastAmount msg.initialBalances a).getD 0).val +
        tally (step api) (mintedTo api a) st calls) ∧
    (∀ caller amount, (∃ r, execute api caller st' (.burn amount) = .ok r) ↔
      0 < amount.val ∧ amount.val ≤ (st'.balanceOf caller.sender).val) ∧
    ∀ caller contract amount payload recipient,
      (∃ r, execute api caller st' (.bond contract amount payload recipient) = .ok r) ↔
        0 < amount.val ∧ caller.sender = info.sender ∧ api.validate contract = .ok contract ∧
          st'.tokenInfo.totalSupply.val + amount.val < 2 ^ 128 := by
  intro st'
  have covered : 0 ≤ st'.excess := by
    rw [run_excess, instantiate_excess h]
    exact Int.natCast_nonneg _
  have mint : st'.tokenInfo.mint = some ⟨info.sender, none⟩ := by
    obtain ⟨_, tokenInfo⟩ := run_setUp (instantiate_setUp h) calls
    rw [tokenInfo]
  refine ⟨?_, ?_, ?_⟩
  · intro a
    rw [run_account]
    simp only [instantiate, bind_ok, pure_ok, Prod.mk.injEq] at h
    obtain ⟨_, _, ⟨balances, supply⟩, created, rfl, _⟩ := h
    simp only [Storage.balanceOf]
    rw [createAccounts_lookup created, Finmap.lookup_empty, Option.or_none]
  · intro caller amount
    constructor
    · rintro ⟨⟨st'', res'⟩, ran⟩
      have done := executeBurn_ok ran
      obtain ⟨balance, lowered, _⟩ := done.balances
      exact ⟨done.positive, by omega⟩
    · rintro ⟨positive, held⟩
      exact burnCovered_of_excess covered caller amount positive held
  · intro caller contract amount payload recipient
    exact executeBond_accepted_iff mint covered

/-- Bob burns 3 of his 7, and Alice cannot burn 6 of her 5. -/
theorem accounts_itemised_distinct : ∃ r,
    instantiate (Api.book ["alice", "bob"]) ⟨"alice", []⟩ distinctAccounts = .ok r ∧
      let calls : List Call := [⟨⟨"bob", []⟩, .burn (.ofNat 3)⟩, ⟨⟨"alice", []⟩, .burn (.ofNat 6)⟩]
      ((run (step (Api.book ["alice", "bob"])) r.1 calls).balanceOf "bob").val + 3 = 7 := by
  obtain ⟨⟨st, res⟩, accepted, burned, minted⟩ : ∃ r, instantiate (Api.book ["alice", "bob"])
      ⟨"alice", []⟩ distinctAccounts = .ok r ∧
      let calls : List Call := [⟨⟨"bob", []⟩, .burn (.ofNat 3)⟩, ⟨⟨"alice", []⟩, .burn (.ofNat 6)⟩]
      tally (step (Api.book ["alice", "bob"])) (burnedFrom (Api.book ["alice", "bob"]) "bob") r.1
          calls = 3 ∧
        tally (step (Api.book ["alice", "bob"])) (mintedTo (Api.book ["alice", "bob"]) "bob") r.1
          calls = 0 := by
    decide +kernel
  obtain ⟨ledger, _⟩ := accounts_itemised accepted
    [⟨⟨"bob", []⟩, .burn (.ofNat 3)⟩, ⟨⟨"alice", []⟩, .burn (.ofNat 6)⟩]
  have bob := ledger "bob"
  rw [burned, minted] at bob
  exact ⟨_, accepted, bob⟩

end DogetherContracts.Cw20
