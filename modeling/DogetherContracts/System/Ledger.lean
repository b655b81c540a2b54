import DogetherContracts.Lib.Run
import DogetherContracts.Staking.Claims
import DogetherContracts.Staking.Solvency
import DogetherContracts.System.Steps

/-! # The ledger of one account

What an account bonded, un-pooled and withdrew, read off its own successful
transactions. The ledger adds up to its stake and its claims, and its un-poolings
and withdrawals are a time lock. -/
namespace DogetherContracts.System
open Checked Run TimeLock

structure Ledger where
  bonded : ℕ
  unpooled : List (ℕ × ℕ)
  withdrawn : List (ℕ × ℕ)

/-- The sum of the executed messages, each with the amount it has for `kind`. -/
def amounts (kind : CosmosMsg → ℕ) (executed : List (Addr × CosmosMsg)) : ℕ :=
  (executed.map fun e => kind e.2).sum

def bondAmount : CosmosMsg → ℕ
  | .execute _ (.cw20 (.bond _ amount _ _)) _ => amount.val
  | _ => 0

def burnAmount : CosmosMsg → ℕ
  | .execute _ (.cw20 (.burn amount)) _ => amount.val
  | _ => 0

namespace Ledger

def empty : Ledger := ⟨0, [], []⟩

/-- Enter a successful transaction of the account at `height`. -/
def enter (l : Ledger) (height : ℕ) (executed : List (Addr × CosmosMsg)) : ExecMsg → Ledger
  | .pool .pool => { l with bonded := l.bonded + amounts bondAmount executed }
  | .pool (.unPool amount) => { l with unpooled := l.unpooled ++ [(height, amount.val)] }
  | .pool .claimUnPool =>
    { l with withdrawn := l.withdrawn ++ [(height, amounts burnAmount executed)] }
  | _ => l

end Ledger

/-- Each un-pooling with the height at which it is due. -/
def due (period : ℕ) (unpooled : List (ℕ × ℕ)) : List (ℕ × ℕ) :=
  unpooled.map fun e => (e.1 + period, e.2)

/-- What was un-pooled at `h - period` or earlier. -/
def matured (period h : ℕ) (unpooled : List (ℕ × ℕ)) : ℕ :=
  total (unpooled.filter fun e => decide (e.1 + period ≤ h))

theorem upTo_due (period h : ℕ) (unpooled : List (ℕ × ℕ)) :
    upTo h (due period unpooled) = matured period h unpooled := by
  rw [upTo, due, List.filter_map, total, List.map_map]
  rfl

theorem due_snoc (period height amount : ℕ) (unpooled : List (ℕ × ℕ)) :
    due period (unpooled ++ [(height, amount)]) =
      due period unpooled ++ [(height + period, amount)] :=
  List.map_append

variable {χ : Type} {api : Api} (out : Outside χ) (dep : Deployment api)

def noteLedger (s : Account api) (l : Ledger) (w : World χ) : Input χ api → Ledger
  | .transaction tx =>
    if tx.sender.addr = s.addr then
      match runTx out dep w tx with
      | .ok (_, r) => l.enter w.block.height.val r.executed tx.msg
      | .error _ => l
    else l
  | .newBlock _ | .outside _ => l

def ledgerOf (s : Account api) (w : World χ) (inputs : List (Input χ api)) : Ledger :=
  history (step out dep) (noteLedger out dep s) .empty w inputs

/-- The ledger of `s` agrees with the contracts. -/
structure Kept (s : Account api) (period : ℕ) (w : World χ) (l : Ledger) : Prop where
  unbonding : w.staking.config.unbondingPeriod.val = period
  funds : l.bonded = (w.staking.readHolder s.raw).balance.val +
    Staking.Storage.claimed (w.staking.readClaims s.raw) + total l.withdrawn
  byHeight : Staking.ByHeight (w.staking.readClaims s.raw)
  locked : Locked w.block.height.val (due period l.unpooled)
    (Staking.dues (w.staking.readClaims s.raw)) l.withdrawn

variable {out dep} {w w' : World χ} {tx : Tx api} {executed : List (Addr × CosmosMsg)}
  {s : Account api} {period : ℕ} {l : Ledger}

theorem Kept.of_same (k : Kept s period w l) (config : w'.staking.config = w.staking.config)
    (balance : (w'.staking.readHolder s.raw).balance = (w.staking.readHolder s.raw).balance)
    (claims : w'.staking.readClaims s.raw = w.staking.readClaims s.raw)
    (later : w.block.height.val ≤ w'.block.height.val) : Kept s period w' l where
  unbonding := by rw [config]; exact k.unbonding
  funds := by rw [balance, claims]; exact k.funds
  byHeight := by rw [claims]; exact k.byHeight
  locked := by rw [claims]; exact k.locked.later later

theorem TxEffect.block (effect : TxEffect out dep w tx w' executed) : w'.block = w.block := by
  cases effect <;> assumption

theorem TxEffect.config (effect : TxEffect out dep w tx w' executed) :
    w'.staking.config = w.staking.config := by
  cases effect with
  | pooled msg pool cw20 staking => exact staking.settled.config
  | unPooled msg pool cw20 staking => exact staking.settled.config
  | claimed msg staking => rw [staking.rest]
  | redeemed msg pool cw20 staking => exact staking.config
  | bought msg pool cw20 staking => exact staking.settled.config

/-- A transaction of another account leaves stake and claims of `s` alone. -/
theorem TxEffect.other (effect : TxEffect out dep w tx w' executed)
    (ne : tx.sender.addr ≠ s.addr) :
    (w'.staking.readHolder s.raw).balance = (w.staking.readHolder s.raw).balance ∧
      w'.staking.readClaims s.raw = w.staking.readClaims s.raw := by
  have raw : s.raw ≠ tx.sender.raw := Account.raw_ne ne.symm
  cases effect with
  | pooled msg pool cw20 staking =>
      rw [staking.settled.readHolder_other raw, Staking.readClaims_same staking.claims]
      exact ⟨rfl, rfl⟩
  | unPooled msg pool cw20 staking =>
      rw [staking.settled.readHolder_other raw, staking.readClaims_other raw]
      exact ⟨rfl, rfl⟩
  | claimed msg staking =>
      rw [staking.readClaims_other raw, staking.rest]
      exact ⟨rfl, rfl⟩
  | redeemed msg pool cw20 staking =>
      rw [staking.readHolder, Staking.readClaims_same staking.claims]
      exact ⟨rfl, rfl⟩
  | bought msg pool cw20 staking =>
      rw [staking.balance_kept, Staking.readClaims_same staking.claims]
      exact ⟨rfl, rfl⟩

/-! What each message of staking enters into the ledger of its holder. -/

section Entries

variable {env : Env} {info : MessageInfo} {h : Staking.Holder} {amount : Uint128} {address : String}

theorem Kept.bond {wrapper : Cw20.Cw20ReceiveMsg} (k : Kept s period w l)
    (bonded : Staking.Bonded api info w.staking w'.staking wrapper s.raw h)
    (block : w'.block = w.block) :
    Kept s period w' { l with bonded := l.bonded + wrapper.amount.val } := by
  have funds := k.funds
  have balance := bonded.balance
  have claims := Staking.readClaims_same bonded.claims s.raw
  refine ⟨?_, ?_, ?_, ?_⟩
  · rw [bonded.settled.config]
    exact k.unbonding
  · rw [bonded.settled.readHolder_self, claims]
    simp only
    omega
  · rw [claims]
    exact k.byHeight
  · rw [claims, block]
    exact k.locked

theorem Kept.unbond {release : Uint64} (k : Kept s period w l)
    (unbonded : Staking.Unbonded api ⟨w.block, dep.staking.addr⟩ info w.staking w'.staking amount
      address s.raw h release) (block : w'.block = w.block) :
    Kept s period w'
      { l with unpooled := l.unpooled ++ [(w.block.height.val, amount.val)] } := by
  have funds := k.funds
  have balance := unbonded.balance
  have claims := unbonded.readClaims_self
  have matures := unbonded.matures
  simp only [k.unbonding] at matures
  refine ⟨?_, ?_, ?_, ?_⟩
  · rw [unbonded.settled.config]
    exact k.unbonding
  · rw [unbonded.settled.readHolder_self, claims, Staking.claimed_append, Staking.claimed_single]
    simp only
    omega
  · rw [claims]
    exact Staking.byHeight_snoc k.byHeight amount release
  · rw [claims, Staking.dues_snoc, matures, block, due_snoc]
    exact k.locked.request _ _

theorem Kept.withdraw {waiting : List Staking.Claim} {target : Addr} (k : Kept s period w l)
    (withdrawn : Staking.Withdrawn api ⟨w.block, dep.staking.addr⟩ info w.staking w'.staking none
      address s.raw amount waiting target) (block : w'.block = w.block) :
    Kept s period w'
      { l with withdrawn := l.withdrawn ++ [(w.block.height.val, amount.val)] } := by
  have funds := k.funds
  have claims := withdrawn.readClaims_self
  obtain ⟨paid, left, byHeight⟩ := Staking.partitionClaims_due k.byHeight withdrawn.partition
  have conserved := Staking.partitionClaims_sum withdrawn.partition
  rw [Word.val_zero] at conserved
  have holders : w'.staking.readHolder s.raw = w.staking.readHolder s.raw := by
    rw [withdrawn.rest]
    rfl
  refine ⟨?_, ?_, ?_, ?_⟩
  · rw [withdrawn.rest]
    exact k.unbonding
  · rw [holders, claims]
    simp only [total_snoc]
    omega
  · rw [claims]
    exact byHeight
  · rw [claims, left, block, paid]
    exact k.locked.release

end Entries

theorem TxEffect.own (effect : TxEffect out dep w tx w' executed) (k : Kept s period w l)
    (own : tx.sender = s) : Kept s period w' (l.enter w.block.height.val executed tx.msg) := by
  subst own
  have block := effect.block
  have later : w.block.height.val ≤ w'.block.height.val := by rw [block]
  cases effect with
  | @pooled _ _ _ _ net _ _ msg pool cw20 staking _ list =>
      have entered : amounts bondAmount executed = net.amount.val := by
        rw [list]
        simp [amounts, bondAmount]
      rw [msg, Ledger.enter, entered]
      exact k.bond staking block
  | unPooled msg pool cw20 staking =>
      rw [msg]
      exact k.unbond staking block
  | @claimed _ amount _ _ _ _ _ _ _ _ msg staking _ _ _ _ list =>
      have entered : amounts burnAmount executed = amount.val := by
        rw [list]
        simp [amounts, burnAmount]
      rw [msg, Ledger.enter, entered]
      exact k.withdraw staking block
  | redeemed msg pool cw20 staking =>
      rw [msg]
      exact k.of_same staking.config (by rw [staking.readHolder])
        (Staking.readClaims_same staking.claims _) later
  | bought msg pool cw20 staking =>
      rw [msg]
      exact k.of_same staking.settled.config (staking.balance_kept _)
        (Staking.readClaims_same staking.claims _) later

theorem Stepped.kept {input : Input χ api} (stepped : Stepped out dep w input w')
    (k : Kept s period w l) : Kept s period w' (noteLedger out dep s l w input) := by
  cases stepped with
  | refused failed =>
      simp only [noteLedger, failed, ite_self]
      exact k
  | done ran effect =>
      simp only [noteLedger, ran]
      split
      · next own => exact effect.own k (Account.eq_of_addr own)
      · next ne =>
        obtain ⟨balance, claims⟩ := effect.other ne
        exact k.of_same effect.config balance claims (by rw [effect.block])
  | newBlock later => exact k.of_same rfl rfl rfl later
  | oldBlock => exact k
  | outside x => exact k.of_same rfl rfl rfl le_rfl

theorem Deployed.kept {msg : Pool.InstantiateMsg} {m : Cw20.InstantiateMsg} {block : BlockInfo}
    {x : χ} (d : Deployed dep msg m block x w) (s : Account api) :
    Kept s msg.unbondingPeriod.val w .empty := by
  obtain ⟨loterra, staking⟩ := d.staking
  have stake : (w.staking.readHolder s.raw).balance.val = 0 := by
    rw [staking]
    rfl
  have claims : w.staking.readClaims s.raw = [] := by
    rw [staking]
    rfl
  refine ⟨by rw [staking]; rfl, ?_, ?_, ?_⟩
  · rw [stake, claims]
    rfl
  · rw [claims]
    exact fun c member => absurd member List.not_mem_nil
  · rw [claims]
    exact .empty _

/-- Right after a withdrawal, everything that has matured is withdrawn. -/
theorem TxEffect.exact (effect : TxEffect out dep w tx w' executed) (k : Kept s period w l)
    (own : tx.sender = s) (claim : tx.msg = .pool .claimUnPool) :
    upTo w.block.height.val (l.enter w.block.height.val executed tx.msg).withdrawn =
      matured period w.block.height.val
        (l.enter w.block.height.val executed tx.msg).unpooled := by
  have after := (effect.own k own).locked
  subst own
  rw [effect.block] at after
  cases effect with
  | claimed _ staking =>
      obtain ⟨_, left, _⟩ := Staking.partitionClaims_due k.byHeight staking.partition
      rw [staking.readClaims_self, left] at after
      rw [← upTo_due]
      exact after.exact
  | pooled msg => cases msg.symm.trans claim
  | unPooled msg => cases msg.symm.trans claim
  | redeemed msg => cases msg.symm.trans claim
  | bought msg => cases msg.symm.trans claim

/-- Coins leave the contracts in withdrawals alone, and go to whoever withdraws. -/
theorem TxEffect.payout (effect : TxEffect out dep w tx w' executed) {sender payee : Addr}
    {coins : List Coin} (paid : (sender, .bankSend payee coins) ∈ executed) :
    tx.msg = .pool .claimUnPool ∧ payee = tx.sender.addr := by
  cases effect with
  | claimed msg staking cw20 pool before block list =>
      rw [list] at paid
      simp only [List.mem_cons, Prod.mk.injEq, reduceCtorEq, and_false, false_or,
        CosmosMsg.bankSend.injEq, List.not_mem_nil, or_false] at paid
      exact ⟨msg, paid.2.1⟩
  | pooled msg pool cw20 staking block list => simp [list] at paid
  | unPooled msg pool cw20 staking block list => simp [list] at paid
  | redeemed msg pool cw20 staking before block list => simp [list] at paid
  | bought msg pool cw20 staking block list => simp [list] at paid

theorem TxEffect.paid (effect : TxEffect out dep w tx w' executed)
    (claim : tx.msg = .pool .claimUnPool) :
    ∃ net, (dep.pool.addr, .bankSend tx.sender.addr [net]) ∈ executed := by
  cases effect with
  | @claimed _ _ _ _ _ _ _ net _ _ msg staking cw20 pool before block list =>
      rw [list]
      exact ⟨net, by simp⟩
  | pooled msg => cases msg.symm.trans claim
  | unPooled msg => cases msg.symm.trans claim
  | redeemed msg => cases msg.symm.trans claim
  | bought msg => cases msg.symm.trans claim

/-- The ledger of every account balances in every run, nothing is withdrawn before
it has matured, a withdrawal takes everything that has, and no transaction of
another account touches stake, claims or payouts. -/
theorem account_ledger {deployer : Account api} {msg : Pool.InstantiateMsg}
    {m : Cw20.InstantiateMsg} {block : BlockInfo} {x : χ} (token : msg.messageCw20 = .cw20 m)
    (empty : m.initialBalances = []) (deployed : deploy out dep deployer msg block x = .ok w)
    (s : Account api) (inputs : List (Input χ api)) :
    let w₁ := run (step out dep) w inputs
    let l := ledgerOf out dep s w inputs
    l.bonded = (w₁.staking.readHolder s.raw).balance.val +
      Staking.Storage.claimed (w₁.staking.readClaims s.raw) + total l.withdrawn ∧
    (∀ h, upTo h l.withdrawn ≤ matured msg.unbondingPeriod.val h l.unpooled) ∧
    ∀ tx w₂ r, runTx out dep w₁ tx = .ok (w₂, r) →
      (tx.msg = .pool .claimUnPool → tx.sender.addr = s.addr →
        let l' := ledgerOf out dep s w (inputs ++ [.transaction tx])
        upTo w₁.block.height.val l'.withdrawn =
            matured msg.unbondingPeriod.val w₁.block.height.val l'.unpooled ∧
          ∃ net, (dep.pool.addr, .bankSend s.addr [net]) ∈ r.executed) ∧
      (∀ sender payee coins, (sender, .bankSend payee coins) ∈ r.executed →
        tx.msg = .pool .claimUnPool ∧ payee = tx.sender.addr) ∧
      (tx.sender.addr ≠ s.addr →
        (w₂.staking.readHolder s.raw).balance = (w₁.staking.readHolder s.raw).balance ∧
        w₂.staking.readClaims s.raw = w₁.staking.readClaims s.raw ∧
        ∀ sender coins, (sender, .bankSend s.addr coins) ∉ r.executed) := by
  intro w₁ l
  have d := deploy_ok token deployed
  obtain ⟨wired, k⟩ : Wired dep w₁ ∧ Kept s msg.unbondingPeriod.val w₁ l := by
    refine run_rule (fun w l => Wired dep w ∧ Kept s msg.unbondingPeriod.val w l)
      ⟨d.wired empty, d.kept s⟩ ?_ inputs
    rintro w l input ⟨wired, k⟩
    have stepped : Stepped out dep w input (step out dep w input) := step_stepped wired input
    exact ⟨stepped.wired wired, stepped.kept k⟩
  refine ⟨k.funds, fun h => upTo_due _ h l.unpooled ▸ k.locked.early h, ?_⟩
  intro tx w₂ r ran
  have effect := runTx_effect wired ran
  refine ⟨?_, fun sender payee coins paid => effect.payout paid, ?_⟩
  · intro claim own
    have noted : ledgerOf out dep s w (inputs ++ [.transaction tx]) =
        l.enter w₁.block.height.val r.executed tx.msg := by
      rw [ledgerOf, history_snoc]
      simp only [noteLedger, own, if_true]
      rw [show runTx out dep (run (step out dep) w inputs) tx = .ok (w₂, r) from ran]
      rfl
    rw [noted, ← own]
    exact ⟨effect.exact k (Account.eq_of_addr own) claim, effect.paid claim⟩
  · intro ne
    obtain ⟨balance, claims⟩ := effect.other ne
    exact ⟨balance, claims, fun sender coins paid => ne (effect.payout paid).2.symm⟩

theorem alice_ledger : ∃ w, Sample.start = .ok w ∧
    let l := ledgerOf Sample.out Sample.dep Sample.alice w Sample.inputs
    l.withdrawn = [(1100, 600)] ∧ upTo 1100 l.withdrawn = matured 100 1100 l.unpooled := by
  obtain ⟨w, deployed, withdrawn, height, ⟨w₂, r⟩, ran, _⟩ : ∃ w, Sample.start = .ok w ∧
      (ledgerOf Sample.out Sample.dep Sample.alice w Sample.inputs).withdrawn = [(1100, 600)] ∧
      (run (step Sample.out Sample.dep) w Sample.waiting).block.height.val = 1100 ∧
      ∃ p, runTx Sample.out Sample.dep (run (step Sample.out Sample.dep) w Sample.waiting)
        (Sample.call Sample.alice .claimUnPool []) = .ok p ∧ True := by
    decide +kernel
  obtain ⟨_, _, exact⟩ := account_ledger rfl rfl deployed Sample.alice Sample.waiting
  obtain ⟨all, _⟩ := (exact _ _ _ ran).1 rfl rfl
  rw [height] at all
  exact ⟨w, deployed, withdrawn, all⟩

end DogetherContracts.System
