import DogetherContracts.Lib.Paging
import DogetherContracts.Staking.Solvency

/-! # The list of holders

`read_holders` of state.rs and `query_holders` of user.rs, and a client that
reads the list to its end. -/
namespace DogetherContracts.Staking
open Checked Paging

structure HolderResponse where
  address : Addr
  balance : Uint128
  index : Decimal
  pendingRewards : Decimal
  deriving DecidableEq, Repr

def maxLimit : ℕ := 30
def defaultLimit : ℕ := 10

def pageSize (limit : Option (Word 32)) : ℕ :=
  Nat.min ((limit.map Word.val).getD defaultLimit) maxLimit

/-- `range` in ascending order of the keys, strictly after an exclusive start. -/
def rangeAfter {V : Type} (m : Table CanonicalAddr V) (start : Option (List (Fin 256))) :
    List (CanonicalAddr × V) :=
  let keys := match start with
    | some bound => m.keys.sort.filter fun k => bound < k
    | none => m.keys.sort
  keys.filterMap fun k => (m.lookup k).map fun v => (k, v)

def calcRangeStart (api : Api) : Option Addr → Except Fault (Option (List (Fin 256)))
  | some human => do
    let v ← api.canonicalize human
    pure (some (v ++ [zeroByte]))
  | none => .ok none

def holderResponse (api : Api) (elem : CanonicalAddr × Holder) : Except Fault HolderResponse := do
  let address ← api.humanize elem.1
  pure ⟨address, elem.2.balance, elem.2.index, elem.2.pendingRewards⟩

def readHolders (api : Api) (st : Storage) (startAfter : Option Addr) (limit : Option (Word 32)) :
    Except Fault (List HolderResponse) := do
  let start ← calcRangeStart api startAfter
  ((rangeAfter st.holders start).take (pageSize limit)).mapM (holderResponse api)

def queryHolders (api : Api) (st : Storage) (startAfter : Option String)
    (limit : Option (Word 32)) : Except Fault (List HolderResponse) := do
  let startAfter ← startAfter.mapM api.validate
  readHolders api st startAfter limit

/-- The answer repeats the address it was asked for. -/
def queryHolder (api : Api) (st : Storage) (address : String) : Except Fault HolderResponse := do
  let addressRaw ← api.canonicalize address
  let holder := st.readHolder addressRaw
  pure ⟨address, holder.balance, holder.index, holder.pendingRewards⟩

/-- A client that asks for the page after the last address it got until a page
is empty. -/
def readAllHolders (api : Api) (st : Storage) (limit : Option (Word 32)) (fuel : ℕ) :
    Option (List (List HolderResponse)) :=
  readAll (fun startAfter => (queryHolders api st startAfter limit).toOption)
    HolderResponse.address fuel none

/-- The stored keys in ascending order. -/
def Storage.sortedKeys (st : Storage) : List CanonicalAddr := st.holders.keys.sort

/-- The answer for a stored key. -/
def respond (api : Api) (st : Storage) (k : CanonicalAddr) : HolderResponse :=
  ⟨(api.addrHumanize k).getD "", (st.readHolder k).balance, (st.readHolder k).index,
    (st.readHolder k).pendingRewards⟩

/-- What the queries rely on: canonical addresses of one length, each the canonical
form of an address that the host accepts. -/
structure Addressed (api : Api) (st : Storage) (length : ℕ) : Prop where
  uniform : ∀ k ∈ st.holders.keys, k.length = length
  account : ∀ k ∈ st.holders.keys, ∃ a : Account api,
    a.raw = k ∧ api.addrValidate a.addr = some a.addr

section Pages

variable {api : Api} {st : Storage} {limit : Option (Word 32)} {length : ℕ}

theorem mem_sortedKeys {k : CanonicalAddr} : k ∈ st.sortedKeys ↔ k ∈ st.holders.keys :=
  Finset.mem_sort _

theorem sortedKeys_pairwise : st.sortedKeys.Pairwise (· < ·) :=
  List.sortedLT_iff_pairwise.mp st.holders.keys.sortedLT_sort

theorem lookup_of_mem {k : CanonicalAddr} (stored : k ∈ st.holders.keys) :
    st.holders.lookup k = some (st.readHolder k) := by
  obtain ⟨h, found⟩ := Finmap.mem_iff.mp (Finmap.mem_keys.mp stored)
  rw [Storage.readHolder, found]
  rfl

theorem entries_of_stored {keys : List CanonicalAddr} (stored : ∀ k ∈ keys, k ∈ st.holders.keys) :
    keys.filterMap (fun k => (st.holders.lookup k).map fun v => (k, v)) =
      keys.map fun k => (k, st.readHolder k) := by
  rw [← List.filterMap_eq_map]
  apply List.filterMap_congr
  intro k member
  rw [lookup_of_mem (stored k member)]
  rfl

theorem holderResponse_ok (addressed : Addressed api st length) {k : CanonicalAddr}
    (stored : k ∈ st.holders.keys) :
    holderResponse api (k, st.readHolder k) = .ok (respond api st k) := by
  obtain ⟨a, rfl, _⟩ := addressed.account k stored
  simp only [holderResponse, Account.humanize_raw, ok_bind, respond, a.human, Option.getD_some]
  rfl

/-- The page of a list of stored keys. -/
theorem page_ok (addressed : Addressed api st length) {keys : List CanonicalAddr}
    (stored : ∀ k ∈ keys, k ∈ st.holders.keys) :
    ((keys.filterMap fun k => (st.holders.lookup k).map fun v => (k, v)).take
        (pageSize limit)).mapM (holderResponse api) =
      .ok ((keys.map (respond api st)).take (pageSize limit)) := by
  rw [entries_of_stored stored, ← List.map_take, ← List.map_take, List.mapM_map]
  apply mapM_ok
  intro k member
  exact holderResponse_ok addressed (stored k (List.mem_of_mem_take member))

theorem queryHolders_first (addressed : Addressed api st length) :
    queryHolders api st none limit =
      .ok ((st.sortedKeys.map (respond api st)).take (pageSize limit)) :=
  page_ok addressed fun _ => mem_sortedKeys.mp

/-- The zero byte after the bound does not skip a key: all keys have one length. -/
theorem queryHolders_next (addressed : Addressed api st length) {before rest : List CanonicalAddr}
    {k : CanonicalAddr} (split : st.sortedKeys = before ++ k :: rest) :
    queryHolders api st (some (respond api st k).address) limit =
      .ok ((rest.map (respond api st)).take (pageSize limit)) := by
  have keys : ∀ j, j ∈ before ++ k :: rest → j ∈ st.holders.keys := by
    intro j member
    exact mem_sortedKeys.mp (split ▸ member)
  have stored := keys k (by simp)
  obtain ⟨a, raw, accepted⟩ := addressed.account k stored
  have address : (respond api st k).address = a.addr := by
    rw [respond, ← raw, a.human]
    rfl
  have after : st.sortedKeys.filter (fun j => k ++ [zeroByte] < j) = rest := by
    have sorted : (before ++ k :: rest).Pairwise (· < ·) := split ▸ sortedKeys_pairwise
    rw [← filter_after sorted, split]
    apply List.filter_congr
    intro j member
    have same : k.length = j.length := by
      rw [addressed.uniform k stored, addressed.uniform j (keys j member)]
    exact decide_eq_decide.mpr (append_lt_iff _ same)
  have page : ((rest.filterMap fun k => (st.holders.lookup k).map fun v => (k, v)).take
      (pageSize limit)).mapM (holderResponse api) = _ :=
    page_ok addressed fun j member => keys j (by simp [member])
  have start : calcRangeStart api (some a.addr) = .ok (some (k ++ [zeroByte])) := by
    rw [calcRangeStart, a.canonicalize_addr, raw]
    rfl
  have range : rangeAfter st.holders (some (k ++ [zeroByte])) =
      rest.filterMap fun k => (st.holders.lookup k).map fun v => (k, v) := by
    rw [← after]
    rfl
  have valid : (some a.addr : Option String).mapM api.validate = .ok (some a.addr) := by
    rw [Option.mapM_some, Api.validate, accepted]
    rfl
  rw [address, queryHolders, valid, ok_bind, readHolders, start, ok_bind, range]
  exact page

theorem serves (limit : Option (Word 32)) (addressed : Addressed api st length) :
    Serves (fun startAfter => (queryHolders api st startAfter limit).toOption)
      HolderResponse.address (st.sortedKeys.map (respond api st)) (pageSize limit) where
  first := by rw [queryHolders_first addressed]; rfl
  next := by
    intro before e rest split
    obtain ⟨keys, tail, whole, rfl, behind⟩ := List.map_eq_append_iff.mp split
    obtain ⟨k, others, rfl, rfl, rfl⟩ := List.map_eq_cons_iff.mp behind
    rw [queryHolders_next addressed whole]
    rfl

end Pages

/-- A client that reads page after page gets every stored holder once, in the order
of the canonical addresses, and every page but the last one is full. -/
theorem holders_pagination_complete (api : Api) (st : Storage) (limit : Option (Word 32))
    (length : ℕ) (positive : ∀ n, limit = some n → 1 ≤ n.val)
    (addressed : Addressed api st length) :
    ∃ pages keys, (∀ fuel, keys.length < fuel → readAllHolders api st limit fuel = some pages) ∧
      keys.Pairwise (· < ·) ∧ (∀ k, k ∈ keys ↔ k ∈ st.holders.keys) ∧
      List.Forall₂ (fun k r => api.addrHumanize k = some r.address ∧
        st.holders.lookup k = some ⟨r.balance, r.index, r.pendingRewards⟩) keys pages.flatten ∧
      (∀ page ∈ pages.dropLast, page.length = pageSize limit) ∧
      ∀ page ∈ pages, page ≠ [] ∧ page.length ≤ pageSize limit := by
  have pos : 0 < pageSize limit := capped_pos (by decide) (by decide) positive
  obtain ⟨pages, cut, complete⟩ := (serves limit addressed).readAll_complete pos
  refine ⟨pages, st.sortedKeys, ?_, sortedKeys_pairwise, fun _ => mem_sortedKeys, ?_, cut.full,
    cut.bounds pos⟩
  · intro fuel enough
    exact complete fuel (by rwa [List.length_map])
  · rw [cut.flatten, List.forall₂_map_right_iff, List.forall₂_same]
    intro k member
    have stored := mem_sortedKeys.mp member
    obtain ⟨a, rfl, _⟩ := addressed.account k stored
    refine ⟨?_, lookup_of_mem stored⟩
    rw [respond, a.human]
    rfl

/-- Two holders after a bond each. -/
def Sample.bonded : Storage :=
  reached Sample.api Sample.config
    [Sample.bond "bob" (.ofNat 7), Sample.bond "alice" (.ofNat 5)]

theorem Sample.addressed : Addressed Sample.api Sample.bonded 1 := by
  have stored : Sample.bonded.holders.keys = {Api.raw 4, Api.raw 5} := by decide +kernel
  constructor
  · intro k member
    rw [stored, Finset.mem_insert, Finset.mem_singleton] at member
    rcases member with rfl | rfl
    · rfl
    · rfl
  · intro k member
    rw [stored, Finset.mem_insert, Finset.mem_singleton] at member
    rcases member with rfl | rfl
    · exact ⟨⟨"alice", Api.raw 4, by decide +kernel, by decide +kernel⟩, rfl, by decide +kernel⟩
    · exact ⟨⟨"bob", Api.raw 5, by decide +kernel, by decide +kernel⟩, rfl, by decide +kernel⟩

/-- Read one holder at a time. -/
theorem holders_pagination_complete_single :
    ∃ pages keys, (∀ fuel, keys.length < fuel →
        readAllHolders Sample.api Sample.bonded (some (.ofNat 1)) fuel = some pages) ∧
      (∀ k, k ∈ keys ↔ k ∈ Sample.bonded.holders.keys) ∧
      List.Forall₂ (fun k r => Sample.api.addrHumanize k = some r.address ∧
        Sample.bonded.holders.lookup k = some ⟨r.balance, r.index, r.pendingRewards⟩) keys
          pages.flatten ∧
      ∀ page ∈ pages.dropLast, page.length = 1 := by
  obtain ⟨pages, keys, complete, _, stored, answered, full, _⟩ :=
    holders_pagination_complete Sample.api Sample.bonded (some (.ofNat 1)) 1
      (by decide) Sample.addressed
  exact ⟨pages, keys, complete, stored, answered, full⟩

end DogetherContracts.Staking
