import DogetherContracts.Staking.Commute
import DogetherContracts.Staking.Eager
import DogetherContracts.System.Reachable

/-! # Accounts that stay idle

What the transactions of others can do to an account: nothing but raise the global
index. Tickets are the one thing that anybody can buy for somebody else, from the
rewards of whoever gets them. -/
namespace DogetherContracts.System
open Checked Run

variable {χ : Type} {api : Api} {out : Outside χ} {dep : Deployment api}

/-- A transaction that can touch the account: its own, or a purchase of tickets for
it. -/
def Touches (s : Account api) (tx : Tx api) : Prop :=
  tx.sender.addr = s.addr ∨ ∃ recipient combination,
    tx.msg = .staking (.getTicket recipient combination) ∧ api.canonicalize recipient = .ok s.raw

/-- Nothing that is stored for the account has changed. -/
structure Untouched (s : Account api) (w w' : World χ) : Prop where
  holder : w'.staking.holders.lookup s.raw = w.staking.holders.lookup s.raw
  claims : w'.staking.claims.lookup s.raw = w.staking.claims.lookup s.raw
  combinations : ∀ counter combo, w'.staking.combinations.lookup (counter, s.raw, combo) =
    w.staking.combinations.lookup (counter, s.raw, combo)
  index : w.staking.state.globalIndex.val ≤ w'.staking.state.globalIndex.val

section Steps

variable {s : Account api} {w w' w'' : World χ} {tx : Tx api} {executed : List (Addr × CosmosMsg)}

theorem Untouched.of_same (same : w'.staking = w.staking) : Untouched s w w' := by
  constructor <;> simp only [same, le_refl, implies_true]

theorem Untouched.trans (first : Untouched s w w') (second : Untouched s w' w'') :
    Untouched s w w'' where
  holder := second.holder.trans first.holder
  claims := second.claims.trans first.claims
  combinations counter combo :=
    (second.combinations counter combo).trans (first.combinations counter combo)
  index := first.index.trans second.index

theorem TxEffect.untouched (effect : TxEffect out dep w tx w' executed)
    (idle : ¬ Touches s tx) : Untouched s w w' := by
  have raw : s.raw ≠ tx.sender.raw := fun same => idle (.inl (Account.raw_inj same.symm))
  cases effect with
  | pooled msg pool cw20 staking =>
      exact {
        holder := by rw [staking.settled.holders, Table.lookup_insert_ne _ _ raw]
        claims := by rw [staking.claims]
        combinations := fun _ _ => by rw [staking.combinations]
        index := by rw [staking.settled.globalIndex] }
  | unPooled msg pool cw20 staking =>
      exact {
        holder := by rw [staking.settled.holders, Table.lookup_insert_ne _ _ raw]
        claims := by rw [staking.claims, Staking.createClaim, Table.lookup_insert_ne _ _ raw]
        combinations := fun _ _ => by rw [staking.combinations]
        index := by rw [staking.settled.globalIndex] }
  | claimed msg staking =>
      exact {
        holder := by rw [staking.rest]
        claims := by rw [staking.rest, Table.lookup_insert_ne _ _ raw]
        combinations := fun _ _ => by rw [staking.rest]
        index := by rw [staking.rest] }
  | redeemed msg pool cw20 staking =>
      exact {
        holder := by rw [staking.holders]
        claims := by rw [staking.claims]
        combinations := fun _ _ => by rw [staking.combinations]
        index := by rw [staking.globalIndex]; exact Nat.le_add_right _ _ }
  | @bought _ recipient combination quote _ _ msg pool cw20 staking =>
      have other : s.raw ≠ quote.addrRaw := by
        intro same
        refine idle (.inr ⟨recipient, combination, msg, ?_⟩)
        rw [same]
        exact (Staking.quoteTickets_ok staking.quoted).1
      exact {
        holder := by rw [staking.settled.holders, Table.lookup_insert_ne _ _ other]
        claims := by rw [staking.claims]
        combinations := fun _ _ => Staking.saveCombinations_other staking.saved other
        index := by rw [staking.settled.globalIndex] }

theorem untouched_step (reachable : Reachable out dep w) {input : Input χ api}
    (idle : ∀ tx, input = .transaction tx → ¬ Touches s tx) :
    Untouched s w (step out dep w input) := by
  have stepped := reachable.stepped input
  generalize step out dep w input = w' at stepped
  cases stepped with
  | refused _ => exact .of_same rfl
  | done _ effect => exact effect.untouched (idle _ rfl)
  | newBlock _ => exact .of_same rfl
  | oldBlock => exact .of_same rfl
  | outside _ => exact .of_same rfl

theorem untouched_run (reachable : Reachable out dep w) {inputs : List (Input χ api)}
    (idle : ∀ tx, Input.transaction tx ∈ inputs → ¬ Touches s tx) :
    Untouched s w (run (step out dep) w inputs) := by
  induction inputs using List.reverseRecOn with
  | nil => exact .of_same rfl
  | append_singleton inputs input ih =>
      rw [run_snoc]
      have before := ih fun tx member => idle tx (List.mem_append_left _ member)
      refine before.trans (untouched_step (reachable.run inputs) ?_)
      intro tx same
      exact idle tx (List.mem_append_right _ (List.mem_singleton.mpr same.symm))

end Steps

/-- As long as nobody buys tickets for it, an idle account keeps its stake, its claims
and its tickets whatever others do, and is owed the growth of the global index for
every token it has staked, no more and no less. -/
theorem idle_account {w : World χ} (reachable : Reachable out dep w) (s : Account api)
    (inputs : List (Input χ api)) (idle : ∀ tx, Input.transaction tx ∈ inputs → ¬ Touches s tx) :
    let w' := run (step out dep) w inputs
    Untouched s w w' ∧
      w'.staking.owed s.raw = w.staking.owed s.raw +
        (w'.staking.state.globalIndex.val - w.staking.state.globalIndex.val) *
          (w.staking.readHolder s.raw).balance.val := by
  intro w'
  have untouched : Untouched s w w' := untouched_run reachable idle
  obtain ⟨dust, solvent⟩ := reachable.backing.solvent
  have same : w'.staking.readHolder s.raw = w.staking.readHolder s.raw := by
    rw [Staking.Storage.readHolder, untouched.holder]
    rfl
  obtain ⟨grown, growth⟩ := Nat.exists_eq_add_of_le untouched.index
  refine ⟨untouched, ?_⟩
  rw [Staking.Storage.owed, same, growth,
    LazyIndex.Position.accrued_advance (solvent.index_le s.raw), Nat.add_sub_cancel_left]
  rfl

/-- Alice idles after her first two transactions, and earns on the 1380 that stay. -/
theorem alice_idle : ∃ w w' : World Sample.Reserve,
    (w.staking.readHolder Sample.alice.raw).balance.val = 1380 ∧
    w.staking.state.globalIndex.val < w'.staking.state.globalIndex.val ∧
    w'.staking.owed Sample.alice.raw = w.staking.owed Sample.alice.raw +
      (w'.staking.state.globalIndex.val - w.staking.state.globalIndex.val) * 1380 := by
  obtain ⟨w₀, deployed, stake, index⟩ : ∃ w₀, Sample.start = .ok w₀ ∧
      ((run (step Sample.out Sample.dep) w₀ (Sample.waiting.take 2)).staking.readHolder
        Sample.alice.raw).balance.val = 1380 ∧
      (run (step Sample.out Sample.dep) w₀ (Sample.waiting.take 2)).staking.state.globalIndex.val <
        (run (step Sample.out Sample.dep)
          (run (step Sample.out Sample.dep) w₀ (Sample.waiting.take 2))
          (Sample.waiting.drop 3)).staking.state.globalIndex.val := by decide +kernel
  have reachable : Reachable Sample.out Sample.dep w₀ := .deployed rfl rfl deployed
  have idle : ∀ tx, Input.transaction tx ∈ Sample.waiting.drop 3 → ¬ Touches Sample.alice tx := by
    intro tx member
    simp only [Sample.waiting, List.drop_succ_cons, List.drop_zero, List.mem_cons,
      Input.transaction.injEq, reduceCtorEq, false_or, List.not_mem_nil, or_false] at member
    rcases member with rfl | rfl
    · rintro (same | ⟨_, _, buys, _⟩)
      · exact absurd same (by decide)
      · cases buys
    · rintro (same | ⟨_, _, buys, _⟩)
      · exact absurd same (by decide)
      · cases buys
  obtain ⟨_, owed⟩ := idle_account (reachable.run (Sample.waiting.take 2)) Sample.alice _ idle
  rw [stake] at owed
  exact ⟨_, _, stake, index, owed⟩

end DogetherContracts.System
