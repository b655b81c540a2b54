import DogetherContracts.Cw20.Queries
import DogetherContracts.Staking.Holders
import DogetherContracts.System.Draws

/-! # Audits

What a reader of the three contracts can check through their queries alone: the
books add up, and the configuration is the one of the deployment. -/
namespace DogetherContracts.Staking
open Checked

/-- Tickets are bought for somebody who is owed something. -/
theorem quoteTickets_owed {api : Api} {querier : Querier} {st : Storage} {recipient : String}
    {combination : List String} {quote : Quote}
    (h : quoteTickets api querier st recipient combination = .ok quote) :
    quote.addrRaw ∈ st.holders.keys := by
  obtain ⟨_, _, rewards, _⟩ := quoteTickets_ok h
  simp only [quoteTickets, bind_ok, rejectIf_ok, pure_ok] at h
  obtain ⟨_, _, _, _, _, _, _, _, _, nonzero, _, _, _, _, rfl⟩ := h
  by_contra absent
  have none : st.holders.lookup _ = none :=
    Finmap.lookup_eq_none.mpr fun member => absent (Finmap.mem_keys.mpr member)
  refine nonzero ?_
  simp only [Storage.owed, Storage.readHolder, none, Option.getD_none, Holder.accrued_empty,
    Nat.zero_div] at rewards
  exact rewards

/-- Holders are accounts of the chain, and only holders have claims. -/
structure Known (api : Api) (st : Storage) : Prop where
  account : ∀ k ∈ st.holders.keys, ∃ a : Account api, a.raw = k
  claims : st.claims.keys ⊆ st.holders.keys

theorem Known.of_same {api : Api} {st st' : Storage} (known : Known api st)
    (holders : st'.holders = st.holders) (claims : st'.claims = st.claims) : Known api st' where
  account := by rw [holders]; exact known.account
  claims := by rw [holders, claims]; exact known.claims

/-- A settlement of an account keeps the holders known. -/
theorem Settled.known {api : Api} {st st' : Storage} {s : Account api} {h : Holder}
    (settled : Settled st s.raw h st') (known : Known api st)
    (claims : st'.claims.keys ⊆ insert s.raw st.claims.keys) : Known api st' where
  account := by
    intro k member
    rw [settled.holders, Table.keys_insert] at member
    rcases Finset.mem_insert.mp member with rfl | old
    · exact ⟨s, rfl⟩
    · exact known.account k old
  claims := by
    rw [settled.holders, Table.keys_insert]
    exact claims.trans (Finset.insert_subset_insert _ known.claims)

/-- The host accepts the address of every account, and its canonical addresses have one
length. -/
structure Regular (api : Api) (length : ℕ) : Prop where
  valid : ∀ a : Account api, api.addrValidate a.addr = some a.addr
  uniform : ∀ a : Account api, a.raw.length = length

section Readings

variable {api : Api} {st : Storage} {length : ℕ}

theorem respond_address (a : Account api) : (respond api st a.raw).address = a.addr := by
  rw [respond, a.human]
  rfl

theorem sortedKeys_nodup : st.sortedKeys.Nodup := sortedKeys_pairwise.imp fun lt => lt.ne

theorem Known.addressed (known : Known api st) (regular : Regular api length) :
    Addressed api st length where
  uniform := by
    intro k member
    obtain ⟨a, rfl⟩ := known.account k member
    exact regular.uniform a
  account := by
    intro k member
    obtain ⟨a, raw⟩ := known.account k member
    exact ⟨a, raw, regular.valid a⟩

theorem Known.key_account (known : Known api st) {k : CanonicalAddr} (member : k ∈ st.sortedKeys) :
    ∃ a : Account api, a.raw = k :=
  known.account k (mem_sortedKeys.mp member)

theorem sum_balances :
    (st.sortedKeys.map fun k => (st.readHolder k).balance.val).sum = st.balances := by
  simp only [← st.valueAt_balance]
  exact Table.sum_of_cover sortedKeys_nodup fun k member => mem_sortedKeys.mpr member

theorem Known.sum_claims (known : Known api st) :
    (st.sortedKeys.map fun k => Storage.claimed (st.readClaims k)).sum = st.claimsTotal := by
  simp only [← st.valueAt_claimed]
  exact Table.sum_of_cover sortedKeys_nodup fun k member =>
    mem_sortedKeys.mpr (known.claims member)

/-- The query for one holder answers as the list does. -/
theorem Known.queryHolder_ok (known : Known api st) {k : CanonicalAddr}
    (member : k ∈ st.sortedKeys) :
    queryHolder api st (respond api st k).address = .ok (respond api st k) := by
  obtain ⟨a, rfl⟩ := known.key_account member
  rw [respond_address, queryHolder, Account.canonicalize_addr, respond, a.human]
  rfl

/-- Every stored holder is listed under the address of its key. -/
theorem Known.listed (known : Known api st) {k : CanonicalAddr} (stored : k ∈ st.holders.keys) :
    ∃ r ∈ st.sortedKeys.map (respond api st), api.addrHumanize k = some r.address := by
  obtain ⟨a, rfl⟩ := known.account k stored
  refine ⟨_, List.mem_map_of_mem (mem_sortedKeys.mpr stored), ?_⟩
  rw [respond_address, a.human]

theorem Known.queryClaims_ok (known : Known api st) :
    (st.sortedKeys.map (respond api st)).mapM (fun r => queryClaims api st r.address) =
      .ok (st.sortedKeys.map st.readClaims) := by
  rw [List.mapM_map]
  apply mapM_ok
  intro k member
  obtain ⟨a, rfl⟩ := known.key_account member
  rw [Function.comp_apply, respond_address, queryClaims, Account.canonicalize_addr]
  rfl

theorem Known.canonicalized (known : Known api st) :
    ((st.sortedKeys.map (respond api st)).map HolderResponse.address).filterMap
      api.addrCanonicalize = st.sortedKeys := by
  have each : ∀ k ∈ st.sortedKeys,
      (api.addrCanonicalize ∘ HolderResponse.address ∘ respond api st) k = some k := by
    intro k member
    obtain ⟨a, rfl⟩ := known.key_account member
    rw [Function.comp_apply, Function.comp_apply, respond_address, a.canonical]
  rw [List.map_map, List.filterMap_map, List.filterMap_congr each, List.filterMap_some]

theorem Known.addresses_nodup (known : Known api st) :
    ((st.sortedKeys.map (respond api st)).map HolderResponse.address).Nodup := by
  rw [List.map_map]
  refine sortedKeys_nodup.map_on ?_
  intro k member j member' same
  obtain ⟨a, rfl⟩ := known.key_account member
  obtain ⟨b, rfl⟩ := known.key_account member'
  rw [Function.comp_apply, Function.comp_apply, respond_address, respond_address] at same
  rw [Account.eq_of_addr same]

end Readings

end DogetherContracts.Staking

namespace DogetherContracts.System
open Checked Run

variable {χ : Type} {api : Api} {out : Outside χ} {dep : Deployment api}

theorem TxEffect.known {w w' : World χ} {tx : Tx api} {executed : List (Addr × CosmosMsg)}
    (effect : TxEffect out dep w tx w' executed) (known : Staking.Known api w.staking) :
    Staking.Known api w'.staking := by
  cases effect with
  | pooled msg pool cw20 staking =>
      refine staking.settled.known known ?_
      rw [staking.claims]
      exact Finset.subset_insert _ _
  | unPooled msg pool cw20 staking =>
      refine staking.settled.known known ?_
      rw [staking.claims, Staking.createClaim, Table.keys_insert]
  | claimed msg staking =>
      have stored : tx.sender.raw ∈ w.staking.claims.keys := by
        by_contra absent
        have none : w.staking.claims.lookup tx.sender.raw = none :=
          Finmap.lookup_eq_none.mpr fun member => absent (Finmap.mem_keys.mpr member)
        have split := staking.partition
        simp only [Staking.Storage.readClaims, none, Option.getD_none] at split
        cases split
        exact absurd staking.positive (Nat.lt_irrefl 0)
      rw [staking.rest]
      refine ⟨known.account, ?_⟩
      rw [Table.keys_insert, Finset.insert_eq_of_mem stored]
      exact known.claims
  | redeemed msg pool cw20 staking => exact known.of_same staking.holders staking.claims
  | bought msg pool cw20 staking =>
      obtain ⟨s, raw⟩ := known.account _ (Staking.quoteTickets_owed staking.quoted)
      have settled := staking.settled
      rw [← raw] at settled
      refine settled.known known ?_
      rw [staking.claims]
      exact Finset.subset_insert _ _

theorem Reachable.known {w : World χ} (h : Reachable out dep w) :
    Staking.Known api w.staking := by
  refine Reachable.induct (fun w => Staking.Known api w.staking) ?_ ?_ h
  · intro msg m block x w _ d
    obtain ⟨loterra, staking⟩ := d.staking
    rw [staking]
    exact ⟨fun k member => absurd member (Finset.notMem_empty k), Finset.empty_subset _⟩
  · intro w w' input known stepped
    cases stepped with
    | refused _ => exact known
    | done _ effect => exact effect.known known
    | newBlock _ => exact known
    | oldBlock => exact known
    | outside _ => exact known

section Books

variable {w : World χ} {length : ℕ}

/-- The queries of the three contracts agree. A client that reads all pages of holders
gets every stored one, each once, with the answer the query for one holder has; stakes and claims add up
to the pool, the supply, and the tokens of the staking contract, and the rewards
reported to the holders are covered by the balance on record. -/
theorem books_add_up (reachable : Reachable out dep w) (regular : Staking.Regular api length)
    (limit : Option (Word 32)) (positive : ∀ n, limit = some n → 1 ≤ n.val) :
    ∃ pages claims pool held,
      (∀ fuel, w.staking.holders.keys.card < fuel →
        Staking.readAllHolders api w.staking limit fuel = some pages) ∧
      (∀ k ∈ w.staking.holders.keys, ∃ r ∈ pages.flatten, api.addrHumanize k = some r.address) ∧
      (pages.flatten.map Staking.HolderResponse.address).Nodup ∧
      (∀ r ∈ pages.flatten, Staking.queryHolder api w.staking r.address = .ok r) ∧
      pages.flatten.mapM (fun r => Staking.queryClaims api w.staking r.address) = .ok claims ∧
      Pool.queryState api w.pool = .ok pool ∧
      Cw20.queryBalance api w.cw20 pool.stakingAddress = .ok held ∧
      (Staking.queryState w.staking).totalBalance.val =
        (pages.flatten.map fun r => r.balance.val).sum ∧
      pool.totalUstPool.val = (pages.flatten.map fun r => r.balance.val).sum +
        (claims.map Staking.Storage.claimed).sum ∧
      (Cw20.queryTokenInfo w.cw20).totalSupply.val = pool.totalUstPool.val ∧
      held.val = pool.totalUstPool.val ∧
      (pages.flatten.map fun r => Staking.reported api w.staking r.address).sum ≤
        (Staking.queryState w.staking).prevRewardBalance.val := by
  have known := reachable.known
  have b := reachable.backing
  obtain ⟨dust, solvent⟩ := b.solvent
  obtain ⟨pages, cut, complete⟩ := (Staking.serves limit (known.addressed regular)).readAll_complete
    (Paging.capped_pos (by decide) (by decide) positive)
  have state : Pool.queryState api w.pool = .ok ⟨dep.staking.addr, dep.cw20.addr,
      w.pool.state.drawPeriod, w.pool.state.nextDraw, w.pool.state.totalUstPool⟩ := by
    rw [Pool.queryState, b.wired.stakingAddress, b.wired.cw20Address, Account.humanize_raw,
      Account.humanize_raw]
    rfl
  have tokens : Cw20.queryBalance api w.cw20 dep.staking.addr =
      .ok (w.cw20.balanceOf dep.staking.addr) := by
    rw [Cw20.queryBalance, Api.validate, regular.valid]
    rfl
  have distinct : (((w.staking.sortedKeys.map (Staking.respond api w.staking)).map
      Staking.HolderResponse.address).filterMap api.addrCanonicalize).Nodup := by
    rw [known.canonicalized]
    exact Staking.sortedKeys_nodup
  rw [← cut.flatten] at distinct
  refine ⟨pages, w.staking.sortedKeys.map w.staking.readClaims, _, _, ?_, ?_, ?_, ?_, ?_, state,
    tokens, ?_, ?_, b.supply, b.held, ?_⟩
  · intro fuel enough
    apply complete fuel
    rwa [List.length_map, ← List.toFinset_card_of_nodup Staking.sortedKeys_nodup,
      Staking.Storage.sortedKeys, Finset.sort_toFinset]
  · rw [cut.flatten]
    intro k stored
    exact known.listed stored
  · rw [cut.flatten]
    exact known.addresses_nodup
  · rw [cut.flatten]
    intro r member
    obtain ⟨k, stored, rfl⟩ := List.mem_map.mp member
    exact known.queryHolder_ok stored
  · rw [cut.flatten]
    exact known.queryClaims_ok
  · rw [cut.flatten, List.map_map]
    exact solvent.staked.trans Staking.sum_balances.symm
  · rw [cut.flatten, List.map_map, List.map_map]
    refine b.pool.trans ?_
    rw [solvent.staked, ← Staking.sum_balances, ← known.sum_claims]
    rfl
  · have covered := Staking.reported_sum_le api w.staking distinct
    rw [List.map_map] at covered
    apply solvent.covers.whole_le (by norm_num)
    rw [Nat.mul_comm]
    exact covered

theorem book_regular (names : List Addr) : Staking.Regular (Api.book names) 1 where
  valid := by
    intro a
    have canonical := a.canonical
    simp only [Api.book] at canonical ⊢
    split at canonical
    · next known => rw [if_pos known]
    · cases canonical
  uniform := by
    intro a
    have canonical := a.canonical
    simp only [Api.book] at canonical
    split at canonical
    · rw [← Option.some.inj canonical]
      rfl
    · cases canonical

/-- The sample's books, read one holder at a time: Alice's page is there. -/
theorem sample_books : ∃ w, Reachable Sample.out Sample.dep w ∧
    ∃ pages claims pool,
      (∀ fuel, w.staking.holders.keys.card < fuel →
        Staking.readAllHolders Sample.api w.staking (some (.ofNat 1)) fuel = some pages) ∧
      (∃ r ∈ pages.flatten, r.address = "alice") ∧
      pages.flatten.mapM (fun r => Staking.queryClaims Sample.api w.staking r.address) =
        .ok claims ∧
      Pool.queryState Sample.api w.pool = .ok pool ∧
      pool.totalUstPool.val = (pages.flatten.map fun r => r.balance.val).sum +
        (claims.map Staking.Storage.claimed).sum := by
  obtain ⟨w, deployed, stored⟩ : ∃ w, Sample.start = .ok w ∧ Sample.alice.raw ∈
      (run (step Sample.out Sample.dep) w Sample.waiting).staking.holders.keys := by
    decide +kernel
  have reachable : Reachable Sample.out Sample.dep w := .deployed rfl rfl deployed
  have one : ∀ n : Word 32, some (.ofNat 1) = some n → 1 ≤ n.val := by
    rintro n ⟨⟩
    decide
  obtain ⟨pages, claims, pool, _, complete, listed, _, _, asked, state, _, _, total, _⟩ :=
    books_add_up (reachable.run Sample.waiting) (book_regular _) (some (.ofNat 1)) one
  obtain ⟨r, member, address⟩ := listed _ stored
  have alice : r.address = "alice" := Option.some.inj (address.symm.trans Sample.alice.human)
  exact ⟨_, reachable.run Sample.waiting, pages, claims, pool, complete, ⟨r, member, alice⟩, asked,
    state, total⟩

end Books

end DogetherContracts.System
