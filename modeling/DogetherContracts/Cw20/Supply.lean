import DogetherContracts.Cw20.Contract
import DogetherContracts.Lib.Run

/-! # Supply and balances of the token

`Bond` and `Burn` move supply and balances together, so the gap between them is
whatever `instantiate` left. -/
namespace DogetherContracts.Cw20
open Checked Run

structure Call where
  info : MessageInfo
  msg : ExecuteMsg

/-- One execute; a rejected one changes nothing. -/
def step (api : Api) (st : Storage) (call : Call) : Storage :=
  match execute api call.info st call.msg with
  | .ok (st', _) => st'
  | .error _ => st

def Storage.total (st : Storage) : ℕ := Table.total Word.val st.balances

def Conserved (st : Storage) : Prop := st.tokenInfo.totalSupply.val = st.total

instance (st : Storage) : Decidable (Conserved st) := inferInstanceAs (Decidable (_ = _))

/-- A burn that passes the balance check succeeds. -/
def BurnCovered (st : Storage) : Prop :=
  ∀ (info : MessageInfo) (amount : Uint128), 0 < amount.val →
    amount.val ≤ (st.balanceOf info.sender).val → ∃ r, executeBurn info st amount = .ok r

/-- Supply the balances do not account for. -/
def Storage.excess (st : Storage) : ℤ := st.tokenInfo.totalSupply.val - st.total

theorem balanceOf_insert_eq {st st' : Storage} {a : Addr} {balance : Uint128}
    (h : st'.balances = st.balances.insert a balance) : st'.balanceOf a = balance := by
  rw [Storage.balanceOf, h, Table.lookup_insert_eq]
  rfl

theorem balanceOf_insert_ne {st st' : Storage} {a b : Addr} {balance : Uint128}
    (h : st'.balances = st.balances.insert a balance) (ne : b ≠ a) :
    st'.balanceOf b = st.balanceOf b := by
  rw [Storage.balanceOf, h, Table.lookup_insert_ne _ _ ne]
  rfl

theorem Storage.valueAt_balances (st : Storage) (a : Addr) :
    Table.valueAt Word.val st.balances a = (st.balanceOf a).val :=
  Table.valueAt_getD Word.val_zero

theorem Storage.total_insert {st st' : Storage} {a : Addr} {balance : Uint128}
    (h : st'.balances = st.balances.insert a balance) :
    st'.total + (st.balanceOf a).val = st.total + balance.val := by
  rw [← st.valueAt_balances, Storage.total, h]
  exact Table.total_insert Word.val st.balances a balance

theorem Bonded.excess {info : MessageInfo} {st st' : Storage} {contract : String}
    {amount : Uint128} {msg : Binary} {recipient : String} {res : Response}
    (h : Bonded info st contract amount msg recipient st' res) : st'.excess = st.excess := by
  obtain ⟨balance, hbalance, hbalances⟩ := h.balances
  have moved := Storage.total_insert hbalances
  have supply := h.supply
  simp only [Storage.excess]
  omega

theorem Burned.excess {info : MessageInfo} {st st' : Storage} {amount : Uint128} {res : Response}
    (h : Burned info st amount st' res) : st'.excess = st.excess := by
  obtain ⟨balance, hbalance, hbalances⟩ := h.balances
  have moved := Storage.total_insert hbalances
  have supply := h.supply
  simp only [Storage.excess]
  omega

theorem step_excess (api : Api) (st : Storage) (call : Call) :
    (step api st call).excess = st.excess := by
  unfold step
  split
  · next st' res h =>
    obtain ⟨info, msg⟩ := call
    cases msg with
    | burn amount => exact (executeBurn_ok h).excess
    | bond contract amount msg recipient => exact (executeBond_ok h).excess
  · rfl

theorem run_excess (api : Api) (st : Storage) (calls : List Call) :
    (run (step api) st calls).excess = st.excess :=
  run_invariant (fun s => s.excess = st.excess) rfl
    (fun s call h => (step_excess api s call).trans h) calls

/-! What `create_accounts` overwrites is counted in the supply and in no balance. -/

def overwritten (balances : Table Addr Uint128) : List Cw20Coin → ℕ
  | [] => 0
  | row :: accounts =>
    Table.valueAt Word.val balances row.address +
      overwritten (balances.insert row.address row.amount) accounts

theorem createAccounts_supply {api : Api} {accounts : List Cw20Coin}
    {balances balances' : Table Addr Uint128} {supply supply' : Uint128}
    (h : createAccounts api balances supply accounts = .ok (balances', supply')) :
    supply'.val + Table.total Word.val balances =
      supply.val + Table.total Word.val balances' + overwritten balances accounts := by
  induction accounts generalizing balances supply with
  | nil =>
      cases h
      rfl
  | cons row accounts ih =>
      simp only [createAccounts, bind_ok, Word.add_ok] at h
      obtain ⟨address, haddress, raised, hraised, rest⟩ := h
      obtain rfl := Api.validate_ok haddress
      have written := Table.total_insert Word.val balances row.address row.amount
      have later := ih rest
      simp only [overwritten]
      omega

/-- No address is listed again after a row that gave it something. -/
def NoneOverwritten (accounts : List Cw20Coin) : Prop :=
  accounts.Pairwise fun row later => row.address = later.address → row.amount.val = 0

instance (accounts : List Cw20Coin) : Decidable (NoneOverwritten accounts) :=
  inferInstanceAs (Decidable (List.Pairwise _ _))

theorem overwritten_eq_zero {balances : Table Addr Uint128} {accounts : List Cw20Coin} :
    overwritten balances accounts = 0 ↔
      (∀ row ∈ accounts, Table.valueAt Word.val balances row.address = 0) ∧
        NoneOverwritten accounts := by
  induction accounts generalizing balances with
  | nil => simp [overwritten, NoneOverwritten]
  | cons row accounts ih =>
      simp only [overwritten, Nat.add_eq_zero_iff, ih, List.forall_mem_cons, NoneOverwritten,
        List.pairwise_cons, and_assoc, and_congr_right_iff]
      intro fresh
      rw [← and_assoc, and_congr_left_iff]
      intro _
      rw [← forall₂_and]
      apply forall₂_congr
      intro later _
      by_cases same : later.address = row.address
      · rw [same, Table.valueAt_insert_eq]
        simp [fresh]
      · rw [Table.valueAt_insert_ne _ _ _ same]
        simp [Ne.symm same]

theorem instantiate_excess {api : Api} {info : MessageInfo} {msg : InstantiateMsg} {st : Storage}
    {res : Response} (h : instantiate api info msg = .ok (st, res)) :
    st.excess = overwritten ∅ msg.initialBalances := by
  simp only [instantiate, bind_ok, pure_ok, Prod.mk.injEq] at h
  obtain ⟨_, _, ⟨balances, supply⟩, created, rfl, _⟩ := h
  have made := createAccounts_supply created
  rw [Table.total_empty, Word.val_zero] at made
  simp only [Storage.excess, Storage.total]
  omega

theorem conserved_iff {st : Storage} : Conserved st ↔ st.excess = 0 := by
  simp only [Conserved, Storage.excess]
  omega

/-- Balances that never exceed the supply are all a burn needs. -/
theorem burnCovered_of_excess {st : Storage} (h : 0 ≤ st.excess) : BurnCovered st := by
  intro info amount positive held
  have part := Table.valueAt_le_total Word.val st.balances info.sender
  rw [st.valueAt_balances] at part
  have covered : st.total ≤ st.tokenInfo.totalSupply.val := by
    simp only [Storage.excess] at h
    omega
  exact executeBurn_of_le positive held ((held.trans part).trans covered)

/-- After every accepted instantiation a burn never fails on the supply. -/
theorem run_burnCovered {api : Api} {info : MessageInfo} {msg : InstantiateMsg} {st : Storage}
    {res : Response} (h : instantiate api info msg = .ok (st, res)) (calls : List Call) :
    BurnCovered (run (step api) st calls) := by
  apply burnCovered_of_excess
  rw [run_excess, instantiate_excess h]
  exact Int.natCast_nonneg _

/-- Supply and balances agree in every reachable state exactly when
`instantiate` overwrote nothing. -/
theorem supply_conserved_iff {api : Api} {info : MessageInfo} {msg : InstantiateMsg} {st : Storage}
    {res : Response} (h : instantiate api info msg = .ok (st, res)) :
    (∀ calls, Conserved (run (step api) st calls) ∧ BurnCovered (run (step api) st calls)) ↔
      NoneOverwritten msg.initialBalances := by
  have fresh : overwritten ∅ msg.initialBalances = 0 ↔ NoneOverwritten msg.initialBalances := by
    rw [overwritten_eq_zero, and_iff_right]
    intro row _
    exact Table.valueAt_none (Finmap.lookup_empty row.address)
  have gap := instantiate_excess h
  rw [← fresh]
  constructor
  · intro always
    have start := conserved_iff.mp (always []).1
    rw [run_nil] at start
    omega
  · intro none_lost calls
    refine ⟨conserved_iff.mpr ?_, run_burnCovered h calls⟩
    rw [run_excess]
    omega

/-- Two accounts, listed once each. -/
def distinctAccounts : InstantiateMsg :=
  ⟨"dogether", "DOG", ⟨6, by norm_num⟩, [⟨"alice", ⟨5, by norm_num⟩⟩, ⟨"bob", ⟨7, by norm_num⟩⟩]⟩

theorem supply_conserved_distinct : ∃ r,
    instantiate (Api.book ["alice", "bob"]) ⟨"alice", []⟩ distinctAccounts = .ok r ∧
      ∀ calls, Conserved (run (step (Api.book ["alice", "bob"])) r.1 calls) ∧
        BurnCovered (run (step (Api.book ["alice", "bob"])) r.1 calls) := by
  obtain ⟨r, accepted, _⟩ : ∃ r, instantiate (Api.book ["alice", "bob"]) ⟨"alice", []⟩
    distinctAccounts = .ok r ∧ True := by decide +kernel
  exact ⟨r, accepted, (supply_conserved_iff accepted).mpr (by decide +kernel)⟩

/-- The same account twice: 12 tokens of supply, a balance of 7. -/
def relistedAccount : InstantiateMsg :=
  ⟨"dogether", "DOG", ⟨6, by norm_num⟩,
    [⟨"alice", ⟨5, by norm_num⟩⟩, ⟨"alice", ⟨7, by norm_num⟩⟩]⟩

theorem supply_exceeds_balances : ∃ r,
    instantiate (Api.book ["alice"]) ⟨"alice", []⟩ relistedAccount = .ok r ∧
      ¬ Conserved (run (step (Api.book ["alice"])) r.1 []) := by
  decide +kernel

end DogetherContracts.Cw20
