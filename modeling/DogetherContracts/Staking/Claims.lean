import DogetherContracts.Lib.Greedy
import DogetherContracts.Lib.TimeLock
import DogetherContracts.Staking.Effects

/-! # Claims

What `claim_tokens` takes out of a list of claims, and what is left. -/
namespace DogetherContracts.Staking
open Checked Storage TimeLock

theorem claimed_cons (c : Claim) (claims : List Claim) :
    claimed (c :: claims) = c.amount.val + claimed claims := by
  simp [claimed]

theorem claimed_single (amount : Uint128) (releaseAt : Expiration) :
    claimed [⟨amount, releaseAt⟩] = amount.val := by
  simp [claimed]

theorem claimed_append (claims claims' : List Claim) :
    claimed (claims ++ claims') = claimed claims + claimed claims' := by
  simp [claimed]

/-! `claim_tokens` is a greedy pass: a claim is taken when it is expired and fits
under the cap on top of the claims taken before it. -/

def withinCap (cap : Option Uint128) (total : ℕ) : Bool :=
  match cap with
  | some limit => decide (total ≤ limit.val)
  | none => true

theorem withinCap_iff {cap : Option Uint128} {total : ℕ} :
    withinCap cap total = true ↔ ∀ limit, cap = some limit → total ≤ limit.val := by
  cases cap with
  | none => simp [withinCap]
  | some limit => simp [withinCap]

theorem exceeds_eq (total : Uint128) (cap : Option Uint128) :
    exceeds total cap = !withinCap cap total.val := by
  cases cap with
  | none => rfl
  | some limit =>
      rw [exceeds, withinCap, Bool.eq_iff_iff, Bool.not_eq_true', decide_eq_true_iff,
        decide_eq_false_iff_not, Nat.not_le]
      rfl

def claimMarks (block : BlockInfo) (cap : Option Uint128) (taken : ℕ) (claims : List Claim) :
    List Bool :=
  Greedy.marks (fun c => c.amount.val) (fun c => c.releaseAt.isExpired block) (withinCap cap) taken
    claims

theorem claimMarks_taken {block : BlockInfo} {cap : Option Uint128} {taken : ℕ} {c : Claim}
    (expired : c.releaseAt.isExpired block = true)
    (fits : withinCap cap (taken + c.amount.val) = true) (claims : List Claim) :
    claimMarks block cap taken (c :: claims) =
      true :: claimMarks block cap (taken + c.amount.val) claims :=
  if_pos ⟨expired, fits⟩

theorem claimMarks_kept {block : BlockInfo} {cap : Option Uint128} {taken : ℕ} {c : Claim}
    (kept : c.releaseAt.isExpired block = true → withinCap cap (taken + c.amount.val) = false)
    (claims : List Claim) :
    claimMarks block cap taken (c :: claims) = false :: claimMarks block cap taken claims :=
  if_neg fun ⟨expired, fits⟩ => Bool.false_ne_true ((kept expired).symm.trans fits)

theorem partitionClaims_greedy {block : BlockInfo} {cap : Option Uint128}
    {claims waiting : List Claim} {toSend amount : Uint128}
    (h : partitionClaims block cap toSend claims = .ok (amount, waiting)) :
    waiting = Greedy.pick false (claimMarks block cap toSend.val claims) claims ∧
      amount.val = toSend.val +
        claimed (Greedy.pick true (claimMarks block cap toSend.val claims) claims) := by
  induction claims generalizing toSend amount waiting with
  | nil =>
      cases h
      exact ⟨rfl, rfl⟩
  | cons c claims ih =>
      rw [partitionClaims] at h
      split at h
      · next expired =>
        obtain ⟨total, htotal, h⟩ := bind_ok.mp h
        have raised := Word.add_ok.mp htotal
        rw [exceeds_eq, raised] at h
        split at h
        · next full =>
          simp only [bind_ok, pure_ok, Prod.exists, Prod.mk.injEq] at h
          obtain ⟨sent, kept, rest, rfl, rfl⟩ := h
          obtain ⟨waits, sum⟩ := ih rest
          have exceeded : withinCap cap (toSend.val + c.amount.val) = false := by simpa using full
          rw [claimMarks_kept (fun _ => exceeded), Greedy.pick, Greedy.pick, if_pos rfl,
            if_neg Bool.false_ne_true]
          exact ⟨congrArg (c :: ·) waits, sum⟩
        · next fits =>
          obtain ⟨waits, sum⟩ := ih h
          have within : withinCap cap (toSend.val + c.amount.val) = true := by simpa using fits
          rw [claimMarks_taken expired within, Greedy.pick, Greedy.pick, if_pos rfl,
            if_neg Bool.true_eq_false.mp, claimed_cons, ← raised]
          exact ⟨waits, by omega⟩
      · next unexpired =>
        simp only [bind_ok, pure_ok, Prod.exists, Prod.mk.injEq] at h
        obtain ⟨sent, kept, rest, rfl, rfl⟩ := h
        obtain ⟨waits, sum⟩ := ih rest
        rw [claimMarks_kept (fun expired => absurd expired unexpired), Greedy.pick, Greedy.pick,
          if_pos rfl, if_neg Bool.false_ne_true]
        exact ⟨congrArg (c :: ·) waits, sum⟩

/-- The additions of the closure stay in range with the sum of the claims. -/
theorem partitionClaims_of_fits (block : BlockInfo) (cap : Option Uint128) {claims : List Claim}
    {toSend : Uint128} (fits : toSend.val + claimed claims < 2 ^ 128) :
    ∃ r, partitionClaims block cap toSend claims = .ok r := by
  induction claims generalizing toSend with
  | nil => exact ⟨_, rfl⟩
  | cons c claims ih =>
      rw [claimed_cons] at fits
      obtain ⟨total, htotal⟩ := Word.add_of_lt (e := Fault.panic)
        (show toSend.val + c.amount.val < 2 ^ 128 by omega)
      have raised := Word.add_ok.mp htotal
      obtain ⟨kept, hkept⟩ := ih (show toSend.val + claimed claims < 2 ^ 128 by omega)
      obtain ⟨taken, htaken⟩ := ih (show total.val + claimed claims < 2 ^ 128 by omega)
      rw [partitionClaims, htotal, ok_bind, hkept, ok_bind]
      split
      · split
        · exact ⟨_, rfl⟩
        · exact ⟨taken, htaken⟩
      · exact ⟨_, rfl⟩

theorem length_claimMarks (block : BlockInfo) (cap : Option Uint128) (taken : ℕ)
    (claims : List Claim) : (claimMarks block cap taken claims).length = claims.length :=
  Greedy.length_marks taken claims

/-- A claim is taken exactly when it is expired and fits on top of the claims taken
before it. -/
theorem claimMarks_iff (block : BlockInfo) (cap : Option Uint128) (taken : ℕ) {claims : List Claim}
    {i : ℕ} {c : Claim} (entry : claims[i]? = some c) :
    (claimMarks block cap taken claims)[i]? = some true ↔ c.releaseAt.isExpired block = true ∧
      withinCap cap (taken + claimed (Greedy.pick true ((claimMarks block cap taken claims).take i)
        (claims.take i)) + c.amount.val) = true :=
  Greedy.marks_iff entry

/-- Nothing is lost: the amount sent and the claims kept are what was there. -/
theorem partitionClaims_sum {block : BlockInfo} {cap : Option Uint128} {claims waiting : List Claim}
    {toSend amount : Uint128}
    (h : partitionClaims block cap toSend claims = .ok (amount, waiting)) :
    amount.val + claimed waiting = toSend.val + claimed claims := by
  obtain ⟨rfl, sum⟩ := partitionClaims_greedy h
  have parts := Greedy.total_pick (fun c : Claim => c.amount.val)
    (length_claimMarks block cap toSend.val claims)
  change claimed _ + claimed _ = claimed claims at parts
  omega

/-- Without a cap every mature claim is taken and every other one is kept. -/
theorem partitionClaims_waiting {block : BlockInfo} {claims waiting : List Claim}
    {toSend amount : Uint128}
    (h : partitionClaims block none toSend claims = .ok (amount, waiting)) :
    waiting = claims.filter fun c => !c.releaseAt.isExpired block := by
  obtain ⟨rfl, _⟩ := partitionClaims_greedy h
  exact Greedy.pick_false_of_fits fun _ => rfl

/-- `claim_tokens` conserves the claims and takes exactly what a greedy pass takes:
an expired claim stays only where it no longer fits under the cap. -/
theorem claimTokens_greedy (claims : Table CanonicalAddr (List Claim)) (addr : CanonicalAddr)
    (block : BlockInfo) (cap : Option Uint128)
    (fits : claimed ((claims.lookup addr).getD []) < 2 ^ 128) :
    ∃ claims' amount stored kept marks, claimTokens claims addr block cap = .ok (claims', amount) ∧
      stored = (claims.lookup addr).getD [] ∧ kept = (claims'.lookup addr).getD [] ∧
      marks.length = stored.length ∧ kept = Greedy.pick false marks stored ∧
      kept.Sublist stored ∧ amount.val = claimed (Greedy.pick true marks stored) ∧
      amount.val + claimed kept = claimed stored ∧
      (∀ limit, cap = some limit → amount.val ≤ limit.val) ∧
      (∀ i c, stored[i]? = some c → (marks[i]? = some true ↔ c.releaseAt.isExpired block = true ∧
        ∀ limit, cap = some limit → claimed (Greedy.pick true (marks.take i) (stored.take i)) +
          c.amount.val ≤ limit.val)) ∧
      (cap = none → kept = stored.filter fun c => !c.releaseAt.isExpired block) ∧
      ∀ b, b ≠ addr → claims'.lookup b = claims.lookup b := by
  generalize hstored : (claims.lookup addr).getD [] = stored at fits
  obtain ⟨⟨amount, waiting⟩, ran⟩ := partitionClaims_of_fits block cap
    (show (0 : Uint128).val + claimed stored < 2 ^ 128 by rw [Word.val_zero]; omega)
  obtain ⟨kept, taken⟩ := partitionClaims_greedy ran
  have sum := partitionClaims_sum ran
  rw [Word.val_zero, Nat.zero_add] at taken sum
  have within : withinCap cap (0 + claimed (Greedy.pick true (claimMarks block cap 0 stored)
      stored)) = true :=
    Greedy.fits_total (withinCap_iff.mpr fun limit _ => Nat.zero_le _)
  refine ⟨claims.insert addr waiting, amount, stored, waiting, claimMarks block cap 0 stored, ?_,
    rfl, ?_, length_claimMarks block cap 0 stored, kept,
    kept ▸ Greedy.pick_sublist false _ stored, taken, sum, ?_, ?_, ?_, ?_⟩
  · rw [claimTokens, hstored]
    exact bind_ok.mpr ⟨_, ran, rfl⟩
  · rw [Table.lookup_insert_eq]
    rfl
  · rw [Nat.zero_add, ← taken] at within
    exact withinCap_iff.mp within
  · intro i c entry
    have iff := claimMarks_iff block cap 0 entry
    rw [Nat.zero_add] at iff
    exact iff.trans (and_congr_right fun _ => withinCap_iff)
  · intro uncapped
    subst uncapped
    exact partitionClaims_waiting ran
  · intro b other
    exact Table.lookup_insert_ne _ _ other

/-- Claims of one address: two that fit under a cap of 45 at height 1000, one too
large between them, and two that wait. -/
def Sample.claims : Table CanonicalAddr (List Claim) :=
  (∅ : Table CanonicalAddr (List Claim)).insert (Api.raw 4)
    [⟨.ofNat 10, .atHeight (.ofNat 500)⟩, ⟨.ofNat 20, .atHeight (.ofNat 2000)⟩,
      ⟨.ofNat 50, .atHeight (.ofNat 600)⟩, ⟨.ofNat 5, .never⟩, ⟨.ofNat 30, .atTime 0⟩]

theorem claimTokens_greedy_forty :
    ∃ claims' amount kept, claimTokens Sample.claims (Api.raw 4) ⟨.ofNat 1000, 0⟩
        (some (.ofNat 45)) = .ok (claims', amount) ∧ kept = (claims'.lookup (Api.raw 4)).getD [] ∧
      amount.val + claimed kept = 115 ∧ amount.val ≤ 45 := by
  obtain ⟨claims', amount, stored, kept, _, ran, hstored, hkept, _, _, _, _, sum, within, _⟩ :=
    claimTokens_greedy Sample.claims (Api.raw 4) ⟨.ofNat 1000, 0⟩ (some (.ofNat 45))
      (by decide +kernel)
  have total : claimed stored = 115 := by
    rw [hstored]
    decide +kernel
  exact ⟨claims', amount, kept, ran, hkept, by omega, within _ rfl⟩

theorem readClaims_same {st st' : Storage} (h : st'.claims = st.claims) (a : CanonicalAddr) :
    st'.readClaims a = st.readClaims a := by
  rw [readClaims, h]
  rfl

theorem claimsTotal_same {st st' : Storage} (h : st'.claims = st.claims) :
    st'.claimsTotal = st.claimsTotal := by
  rw [Storage.claimsTotal, h]
  rfl

/-! Claims with a release height, as dated amounts. -/

def dues (claims : List Claim) : List (ℕ × ℕ) :=
  claims.filterMap fun c => match c.releaseAt with
    | .atHeight height => some (height.val, c.amount.val)
    | .atTime _ | .never => none

/-- Every claim waits for a height. -/
def ByHeight (claims : List Claim) : Prop := ∀ c ∈ claims, ∃ height, c.releaseAt = .atHeight height

theorem dues_snoc (claims : List Claim) (amount : Uint128) (height : Uint64) :
    dues (claims ++ [⟨amount, .atHeight height⟩]) = dues claims ++ [(height.val, amount.val)] := by
  simp [dues]

theorem byHeight_snoc {claims : List Claim} (byHeight : ByHeight claims) (amount : Uint128)
    (height : Uint64) : ByHeight (claims ++ [⟨amount, .atHeight height⟩]) := by
  intro c member
  rcases List.mem_append.mp member with old | new
  · exact byHeight c old
  · exact ⟨height, by rw [List.mem_singleton.mp new]⟩

theorem total_dues {claims : List Claim} (byHeight : ByHeight claims) :
    total (dues claims) = claimed claims := by
  induction claims with
  | nil => rfl
  | cons c claims ih =>
      obtain ⟨height, dated⟩ := byHeight c List.mem_cons_self
      have rest := ih fun d member => byHeight d (List.mem_cons_of_mem c member)
      rw [claimed_cons, ← rest, dues, List.filterMap_cons, dated, total_cons]
      rfl

theorem dues_filter (block : BlockInfo) (claims : List Claim) :
    dues (claims.filter fun c => !c.releaseAt.isExpired block) =
      after block.height.val (dues claims) := by
  rw [after, dues, dues, List.filterMap_filter, List.filter_filterMap]
  apply List.filterMap_congr
  intro c _
  cases release : c.releaseAt with
  | atHeight height =>
      by_cases due : height.val ≤ block.height.val
      · simp [Expiration.isExpired, Option.filter_some, due, Word.le_def]
      · simp [Expiration.isExpired, Option.filter_some, due, Nat.lt_of_not_le due, Word.le_def]
  | atTime time => simp
  | never => simp

/-- A withdrawal without a cap takes exactly what is due, and leaves the rest. -/
theorem partitionClaims_due {block : BlockInfo} {claims waiting : List Claim} {amount : Uint128}
    (byHeight : ByHeight claims) (h : partitionClaims block none 0 claims = .ok (amount, waiting)) :
    amount.val = upTo block.height.val (dues claims) ∧
      dues waiting = after block.height.val (dues claims) ∧ ByHeight waiting := by
  have kept := partitionClaims_waiting h
  have stays : ByHeight waiting := by
    intro c member
    rw [kept] at member
    exact byHeight c (List.mem_filter.mp member).1
  have later : dues waiting = after block.height.val (dues claims) := by
    rw [kept, dues_filter]
  have sum := partitionClaims_sum h
  have parts := upTo_add_after block.height.val (dues claims)
  rw [← later, total_dues stays, total_dues byHeight] at parts
  rw [Word.val_zero] at sum
  exact ⟨by omega, later, stays⟩

theorem Unbonded.readClaims_self {api : Api} {env : Env} {info : MessageInfo} {st st' : Storage}
    {amount : Uint128} {address : String} {a : CanonicalAddr} {h : Holder} {release : Uint64}
    (done : Unbonded api env info st st' amount address a h release) :
    st'.readClaims a = st.readClaims a ++ [⟨amount, .atHeight release⟩] := by
  rw [readClaims, done.claims, createClaim, Table.lookup_insert_eq]
  rfl

theorem Unbonded.readClaims_other {api : Api} {env : Env} {info : MessageInfo} {st st' : Storage}
    {amount : Uint128} {address : String} {a b : CanonicalAddr} {h : Holder} {release : Uint64}
    (done : Unbonded api env info st st' amount address a h release) (ne : b ≠ a) :
    st'.readClaims b = st.readClaims b := by
  rw [readClaims, done.claims, createClaim, Table.lookup_insert_ne _ _ ne]
  rfl

theorem Unbonded.claimsTotal {api : Api} {env : Env} {info : MessageInfo} {st st' : Storage}
    {amount : Uint128} {address : String} {a : CanonicalAddr} {h : Holder} {release : Uint64}
    (done : Unbonded api env info st st' amount address a h release) :
    st'.claimsTotal = st.claimsTotal + amount.val := by
  have moved := Table.total_insert claimed st.claims a
    (st.readClaims a ++ [⟨amount, .atHeight release⟩])
  rw [st.valueAt_claimed, claimed_append, claimed_single] at moved
  have same : st'.claimsTotal = Table.total claimed (st.claims.insert a
      (st.readClaims a ++ [⟨amount, .atHeight release⟩])) := by
    rw [Storage.claimsTotal, done.claims]
    rfl
  have before : st.claimsTotal = Table.total claimed st.claims := rfl
  omega

section Withdrawn

variable {api : Api} {env : Env} {info : MessageInfo} {st st' : Storage} {cap : Option Uint128}
  {address : String} {a : CanonicalAddr} {amount : Uint128} {waiting : List Claim} {token : Addr}

theorem Withdrawn.readClaims_self
    (done : Withdrawn api env info st st' cap address a amount waiting token) :
    st'.readClaims a = waiting := by
  rw [done.rest, readClaims, Table.lookup_insert_eq]
  rfl

theorem Withdrawn.readClaims_other {b : CanonicalAddr}
    (done : Withdrawn api env info st st' cap address a amount waiting token) (ne : b ≠ a) :
    st'.readClaims b = st.readClaims b := by
  rw [done.rest, readClaims, Table.lookup_insert_ne _ _ ne]
  rfl

theorem Withdrawn.claimsTotal
    (done : Withdrawn api env info st st' cap address a amount waiting token) :
    st'.claimsTotal + amount.val = st.claimsTotal := by
  have moved := Table.total_insert claimed st.claims a waiting
  rw [st.valueAt_claimed] at moved
  have conserved := partitionClaims_sum done.partition
  have same : st'.claimsTotal = Table.total claimed (st.claims.insert a waiting) := by
    rw [done.rest]
    rfl
  have before : st.claimsTotal = Table.total claimed st.claims := rfl
  rw [Word.val_zero] at conserved
  omega

end Withdrawn
end DogetherContracts.Staking
