import DogetherContracts.System.Accepted

/-! # Coins

The coins that Anchor is given and the bank pays out, read off the executed
messages. What an account ever gets out is part of what it put in and does not
have in the vault any more. -/
namespace DogetherContracts.System
open Checked Run

variable {χ : Type} {api : Api} {out : Outside χ} {dep : Deployment api}

def coins (funds : List Coin) : ℕ := (funds.map fun c => c.amount.val).sum

/-- Coins that are deposited in Anchor. -/
def depositCoins : CosmosMsg → ℕ
  | .execute _ .depositStable funds => coins funds
  | _ => 0

/-- Coins that the bank sends to some addresses. -/
def bankCoins (payees : Addr → Bool) : CosmosMsg → ℕ
  | .bankSend payee funds => if payees payee then coins funds else 0
  | _ => 0

/-- What the messages of one input have for `kind`, if one of the senders sent it and
it goes through. -/
def flow (out : Outside χ) (dep : Deployment api) (senders : Addr → Bool)
    (kind : CosmosMsg → ℕ) (w : World χ) : Input χ api → ℕ
  | .transaction tx =>
    match runTx out dep w tx with
    | .ok (_, r) => if senders tx.sender.addr then amounts kind r.executed else 0
    | .error _ => 0
  | .newBlock _ | .outside _ => 0

/-- The flow over a run. -/
def flows (out : Outside χ) (dep : Deployment api) (senders : Addr → Bool)
    (kind : CosmosMsg → ℕ) (w : World χ) (inputs : List (Input χ api)) : ℕ :=
  tally (step out dep) (flow out dep senders kind) w inputs

section Transaction

variable {w w' : World χ} {tx : Tx api} {r : Receipt} {executed : List (Addr × CosmosMsg)}

/-- Every coin for Anchor is bonded. -/
theorem TxEffect.deposited (effect : TxEffect out dep w tx w' executed) :
    amounts depositCoins executed = amounts bondAmount executed := by
  cases effect with
  | pooled _ _ _ _ _ list => simp [list, amounts, depositCoins, bondAmount, coins]
  | unPooled _ _ _ _ _ list => simp [list, amounts, depositCoins, bondAmount]
  | claimed _ _ _ _ _ _ list => simp [list, amounts, depositCoins, bondAmount]
  | redeemed _ _ _ _ _ _ list => simp [list, amounts, depositCoins, bondAmount]
  | bought _ _ _ _ _ list => simp [list, amounts, depositCoins, bondAmount]

/-- The bank pays whoever claims, and no more than is burned. -/
theorem paid_le_burned (reachable : Reachable out dep w) (ran : runTx out dep w tx = .ok (w', r))
    (payees : Addr → Bool) : amounts (bankCoins payees) r.executed ≤
      if payees tx.sender.addr then amounts burnAmount r.executed else 0 := by
  cases runTx_effect reachable.wired ran with
  | claimed msg =>
      obtain ⟨_, call⟩ := runTx_pool msg ran
      obtain ⟨amount, _, _, _, _, _, _, _, _, net, _, _, payout, _, list⟩ :=
        claim_payout reachable call
      have within := payout.quoted.net_le
      simp only [list, amounts, bankCoins, burnAmount, coins, List.map_cons, List.map_nil,
        List.sum_cons, List.sum_nil]
      split
      · omega
      · exact le_rfl
  | pooled _ _ _ _ _ list => simp [list, amounts, bankCoins]
  | unPooled _ _ _ _ _ list => simp [list, amounts, bankCoins]
  | redeemed _ _ _ _ _ _ list => simp [list, amounts, bankCoins]
  | bought _ _ _ _ _ list => simp [list, amounts, bankCoins]

/-- Bonds and burns of a transaction go into and out of its sender's account. -/
theorem TxEffect.paid_actions (effect : TxEffect out dep w tx w' executed) (a : CanonicalAddr) :
    ((txActions tx.sender.raw executed tx.msg).map (Vault.paidIn a)).sum =
        (if tx.sender.raw = a then amounts bondAmount executed else 0) ∧
      ((txActions tx.sender.raw executed tx.msg).map (Vault.paidOut a)).sum =
        if tx.sender.raw = a then amounts burnAmount executed else 0 := by
  cases effect with
  | pooled msg _ _ _ _ list =>
      simp [msg, list, txActions, Vault.paidIn, Vault.paidOut, amounts, burnAmount]
  | unPooled msg _ _ _ _ list =>
      simp [msg, list, txActions, Vault.paidIn, Vault.paidOut, amounts, bondAmount, burnAmount]
  | claimed msg _ _ _ _ _ list =>
      simp [msg, list, txActions, Vault.paidIn, Vault.paidOut, amounts, bondAmount]
  | redeemed msg _ _ _ _ _ list =>
      simp [msg, list, txActions, amounts, bondAmount, burnAmount]
  | bought msg _ _ _ _ list =>
      simp [msg, list, txActions, amounts, bondAmount, burnAmount]

/-- The pool grows by what is bonded, and shrinks by what is burned. -/
theorem TxEffect.pool_total (effect : TxEffect out dep w tx w' executed) :
    w'.pool.state.totalUstPool.val + amounts burnAmount executed =
      w.pool.state.totalUstPool.val + amounts bondAmount executed := by
  cases effect with
  | pooled _ pool _ _ _ list => simp [list, pool.total, amounts, bondAmount, burnAmount]
  | unPooled _ pool _ _ _ list => simp [list, pool, amounts, bondAmount, burnAmount]
  | claimed _ _ _ pool _ _ list => simp [list, ← pool.total, amounts, bondAmount, burnAmount]
  | redeemed _ pool _ _ _ _ list => simp [list, pool.total, amounts, bondAmount, burnAmount]
  | bought _ pool _ _ _ list => simp [list, pool, amounts, bondAmount, burnAmount]

end Transaction

/-- Everybody. -/
def anyone : Addr → Bool := fun _ => true

def only (a : Addr) : Addr → Bool := fun b => decide (b = a)

/-- What flowed into and out of the account `s`, and of the pool. -/
structure Flows (s : Account api) (w w' : World χ) (put burned got allPut allBurned allGot : ℕ) :
    Prop where
  account : (vaultOf w').holdings s.raw + burned = (vaultOf w).holdings s.raw + put
  paid : got ≤ burned
  pool : w'.pool.state.totalUstPool.val + allBurned = w.pool.state.totalUstPool.val + allPut
  allPaid : allGot ≤ allBurned

section Flow

variable {w w' : World χ} {s : Account api}

theorem Flows.nothing (vault : ∀ a, (vaultOf w').holdings a = (vaultOf w).holdings a)
    (pool : w'.pool = w.pool) : Flows s w w' 0 0 0 0 0 0 where
  account := by rw [vault]
  paid := le_rfl
  pool := by rw [pool]
  allPaid := le_rfl

theorem Flows.trans {w₁ w₂ : World χ} {p b g p' b' g' q c h q' c' h' : ℕ}
    (first : Flows s w w₁ p b g q c h) (second : Flows s w₁ w₂ p' b' g' q' c' h') :
    Flows s w w₂ (p + p') (b + b') (g + g') (q + q') (c + c') (h + h') where
  account := by
    have := first.account
    have := second.account
    omega
  paid := Nat.add_le_add first.paid second.paid
  pool := by
    have := first.pool
    have := second.pool
    omega
  allPaid := Nat.add_le_add first.allPaid second.allPaid

theorem flow_step (reachable : Reachable out dep w) (s : Account api) (input : Input χ api) :
    Flows s w (step out dep w input) (flow out dep (only s.addr) depositCoins w input)
      (flow out dep (only s.addr) burnAmount w input)
      (flow out dep anyone (bankCoins (only s.addr)) w input)
      (flow out dep anyone depositCoins w input) (flow out dep anyone burnAmount w input)
      (flow out dep anyone (bankCoins anyone) w input) := by
  cases input with
  | transaction tx =>
      cases ran : runTx out dep w tx with
      | error e =>
          simp only [step, flow, ran]
          exact .nothing (fun _ => rfl) rfl
      | ok result =>
          obtain ⟨w', r⟩ := result
          have effect := runTx_effect reachable.wired ran
          have enabled := effect.enabled reachable.byHeight
            w.staking.config.unbondingPeriod.val
          have moved := Vault.conserved _ enabled s.raw
          obtain ⟨paidIn, paidOut⟩ := effect.paid_actions s.raw
          rw [← effect.matched reachable.byHeight, paidIn, paidOut, ← effect.deposited] at moved
          have own : only s.addr tx.sender.addr = true ↔ tx.sender.raw = s.raw := by
            rw [only, decide_eq_true_iff]
            exact ⟨fun same => by rw [Account.eq_of_addr same], Account.raw_inj⟩
          have pool := effect.pool_total
          rw [← effect.deposited] at pool
          simp only [step, flow, ran, own, anyone, if_true]
          exact {
            account := moved
            paid := by
              have paid := paid_le_burned reachable ran (only s.addr)
              simp only [own] at paid
              exact paid
            pool := pool
            allPaid := paid_le_burned reachable ran anyone }
  | newBlock block =>
      rw [step]
      split
      · exact .nothing (fun _ => rfl) rfl
      · exact .nothing (fun _ => rfl) rfl
  | outside x => exact .nothing (fun _ => rfl) rfl

theorem flows_run (reachable : Reachable out dep w) (s : Account api)
    (inputs : List (Input χ api)) :
    Flows s w (run (step out dep) w inputs) (flows out dep (only s.addr) depositCoins w inputs)
      (flows out dep (only s.addr) burnAmount w inputs)
      (flows out dep anyone (bankCoins (only s.addr)) w inputs)
      (flows out dep anyone depositCoins w inputs) (flows out dep anyone burnAmount w inputs)
      (flows out dep anyone (bankCoins anyone) w inputs) := by
  induction inputs using List.reverseRecOn with
  | nil => exact .nothing (fun _ => rfl) rfl
  | append_singleton inputs input ih =>
      simp only [flows, run_snoc, tally_snoc]
      exact ih.trans (flow_step (reachable.run inputs) s input)

end Flow

/-- Whatever happens, an account has in the vault what was deposited in Anchor for it
less what was burned for it, and the bank pays it no more than that; and the same is
true of all accounts together and the pool. -/
theorem coins_covered {deployer : Account api} {msg : Pool.InstantiateMsg}
    {m : Cw20.InstantiateMsg} {block : BlockInfo} {x : χ} {w : World χ}
    (token : msg.messageCw20 = .cw20 m) (empty : m.initialBalances = [])
    (deployed : deploy out dep deployer msg block x = .ok w) (s : Account api)
    (inputs : List (Input χ api)) :
    let w' := run (step out dep) w inputs
    let burned := flows out dep (only s.addr) burnAmount w inputs
    let allBurned := flows out dep anyone burnAmount w inputs
    (flows out dep (only s.addr) depositCoins w inputs = (vaultOf w').holdings s.raw + burned ∧
      flows out dep anyone (bankCoins (only s.addr)) w inputs ≤ burned) ∧
    flows out dep anyone depositCoins w inputs = w'.pool.state.totalUstPool.val + allBurned ∧
      flows out dep anyone (bankCoins anyone) w inputs ≤ allBurned := by
  intro w' burned allBurned
  have d := deploy_ok token deployed
  have moved := flows_run (.deployed token empty deployed) s inputs
  have nothing : (vaultOf w).holdings s.raw = 0 := by
    rw [d.vault]
    rfl
  have account := moved.account
  have pool := moved.pool
  rw [nothing, Nat.zero_add] at account
  rw [d.empty, Word.val_zero, Nat.zero_add] at pool
  exact ⟨⟨account.symm, moved.paid⟩, pool.symm, moved.allPaid⟩

/-- Alice puts in 1980 and gets some of 600 back. -/
theorem sample_coins : ∃ w, Sample.start = .ok w ∧
    flows Sample.out Sample.dep (only Sample.alice.addr) depositCoins w Sample.inputs = 1980 ∧
    flows Sample.out Sample.dep (only Sample.alice.addr) burnAmount w Sample.inputs = 600 ∧
    flows Sample.out Sample.dep anyone (bankCoins (only Sample.alice.addr)) w Sample.inputs ≤
      600 := by
  obtain ⟨w, deployed, put, burned⟩ : ∃ w, Sample.start = .ok w ∧
      flows Sample.out Sample.dep (only Sample.alice.addr) depositCoins w Sample.inputs = 1980 ∧
      flows Sample.out Sample.dep (only Sample.alice.addr) burnAmount w Sample.inputs = 600 := by
    decide +kernel
  obtain ⟨⟨_, paid⟩, _⟩ := coins_covered rfl rfl deployed Sample.alice Sample.inputs
  exact ⟨w, deployed, put, burned, burned ▸ paid⟩

end DogetherContracts.System
