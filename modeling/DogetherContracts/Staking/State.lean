import DogetherContracts.Lib.LazyIndex
import DogetherContracts.CosmWasm.Message
import DogetherContracts.Math

/-! # Storage of the staking contract

state.rs and claim.rs. Holders and claims are keyed by canonical address; a
combination is keyed by lottery counter, canonical recipient and text, which the
composite key of the store keeps apart. -/
namespace DogetherContracts.Staking
open Checked

structure Config where
  admin : CanonicalAddr
  cw20TokenAddr : CanonicalAddr
  loterraAddr : CanonicalAddr
  rewardDenom : String
  unbondingPeriod : Uint64
  deriving DecidableEq, Repr

@[ext] structure State where
  globalIndex : Decimal
  totalBalance : Uint128
  prevRewardBalance : Uint128
  deriving DecidableEq, Repr

structure Holder where
  balance : Uint128
  index : Decimal
  pendingRewards : Decimal
  deriving DecidableEq, Repr

structure Claim where
  amount : Uint128
  releaseAt : Expiration
  deriving DecidableEq, Repr

abbrev CombinationKey := Uint64 × CanonicalAddr × String

@[ext] structure Storage where
  config : Config
  state : State
  holders : Table CanonicalAddr Holder
  claims : Table CanonicalAddr (List Claim)
  combinations : Table CombinationKey String

def Holder.empty : Holder := ⟨0, 0, 0⟩

namespace Storage

def readHolder (st : Storage) (a : CanonicalAddr) : Holder :=
  (st.holders.lookup a).getD .empty

def readClaims (st : Storage) (a : CanonicalAddr) : List Claim := (st.claims.lookup a).getD []

/-- The storage `instantiate` leaves behind. -/
def initial (config : Config) : Storage := ⟨config, ⟨0, 0, 0⟩, ∅, ∅, ∅⟩

end Storage

/-! claim.rs -/

def createClaim (claims : Table CanonicalAddr (List Claim)) (addr : CanonicalAddr)
    (amount : Uint128) (releaseAt : Expiration) : Table CanonicalAddr (List Claim) :=
  claims.insert addr ((claims.lookup addr).getD [] ++ [⟨amount, releaseAt⟩])

def exceeds (total : Uint128) : Option Uint128 → Bool
  | some limit => decide (limit < total)
  | none => false

/-- The closure of `claim_tokens`, with `toSend` the amount accepted so far: the
result is the final amount and the claims that wait. -/
def partitionClaims (block : BlockInfo) (cap : Option Uint128) (toSend : Uint128) :
    List Claim → Except Fault (Uint128 × List Claim)
  | [] => .ok (toSend, [])
  | c :: claims => do
    if c.releaseAt.isExpired block = true then
      -- if mature and we can pay fully, then include in the amount to send
      let total ← toSend.add .panic c.amount
      if exceeds total cap = true then
        let (amount, waiting) ← partitionClaims block cap toSend claims
        pure (amount, c :: waiting)
      else partitionClaims block cap total claims
    else
      let (amount, waiting) ← partitionClaims block cap toSend claims
      pure (amount, c :: waiting)

/-- Removes mature claims, up to an optional cap, and returns their total. -/
def claimTokens (claims : Table CanonicalAddr (List Claim)) (addr : CanonicalAddr)
    (block : BlockInfo) (cap : Option Uint128) :
    Except Fault (Table CanonicalAddr (List Claim) × Uint128) := do
  let (toSend, waiting) ← partitionClaims block cap 0 ((claims.lookup addr).getD [])
  pure (claims.insert addr waiting, toSend)

def queryClaims (api : Api) (st : Storage) (address : String) : Except Fault (List Claim) := do
  let addressRaw ← api.canonicalize address
  pure (st.readClaims addressRaw)

/-! What a holder is owed, as a position of the reward pot. -/

def Holder.position (h : Holder) : LazyIndex.Position :=
  ⟨h.balance.val, h.index.val, h.pendingRewards.val⟩

@[simp] theorem Holder.position_empty : Holder.empty.position = ⟨0, 0, 0⟩ := rfl

@[simp] theorem Holder.accrued_empty (I : ℕ) : Holder.empty.position.accrued I = 0 := by
  simp [LazyIndex.Position.accrued]

namespace Storage

/-- Raw rewards owed to an address, stored or not. -/
def owed (st : Storage) (a : CanonicalAddr) : ℕ :=
  (st.readHolder a).position.accrued st.state.globalIndex.val

/-- Raw rewards owed to all stored holders together. -/
def liability (st : Storage) : ℕ :=
  LazyIndex.liability Holder.position st.state.globalIndex.val st.holders

def balances (st : Storage) : ℕ := LazyIndex.weights Holder.position st.holders

/-- The sum of one address's stored claims. -/
def claimed (claims : List Claim) : ℕ := (claims.map fun c => c.amount.val).sum

def claimsTotal (st : Storage) : ℕ := Table.total claimed st.claims

@[simp] theorem liability_initial (config : Config) : (initial config).liability = 0 := by
  simp only [initial, liability, LazyIndex.liability, Table.total_empty]

@[simp] theorem balances_initial (config : Config) : (initial config).balances = 0 := by
  simp only [initial, balances, LazyIndex.weights, Table.total_empty]

@[simp] theorem claimsTotal_initial (config : Config) : (initial config).claimsTotal = 0 := by
  simp only [initial, claimsTotal, Table.total_empty]

theorem readHolder_insert_eq (st : Storage) {st' : Storage} {a : CanonicalAddr} {h : Holder}
    (holders : st'.holders = st.holders.insert a h) : st'.readHolder a = h := by
  rw [readHolder, holders, Table.lookup_insert_eq]
  rfl

theorem readHolder_insert_ne (st : Storage) {st' : Storage} {a b : CanonicalAddr} {h : Holder}
    (holders : st'.holders = st.holders.insert a h) (ne : b ≠ a) :
    st'.readHolder b = st.readHolder b := by
  rw [readHolder, holders, Table.lookup_insert_ne _ _ ne]
  rfl

theorem valueAt_balance (st : Storage) (a : CanonicalAddr) :
    Table.valueAt (fun h : Holder => h.position.weight) st.holders a =
      (st.readHolder a).balance.val :=
  Table.valueAt_getD (d := Holder.empty) rfl

theorem valueAt_owed (st : Storage) (a : CanonicalAddr) :
    Table.valueAt (fun h : Holder => h.position.accrued st.state.globalIndex.val) st.holders a =
      st.owed a :=
  Table.valueAt_getD (d := Holder.empty) (Holder.accrued_empty _)

theorem owed_le_liability (st : Storage) (a : CanonicalAddr) : st.owed a ≤ st.liability := by
  rw [← st.valueAt_owed]
  exact Table.valueAt_le_total _ _ _

theorem balance_le_balances (st : Storage) (a : CanonicalAddr) :
    (st.readHolder a).balance.val ≤ st.balances := by
  rw [← st.valueAt_balance]
  exact Table.valueAt_le_total _ _ _

theorem valueAt_claimed (st : Storage) (a : CanonicalAddr) :
    Table.valueAt claimed st.claims a = claimed (st.readClaims a) :=
  Table.valueAt_getD (d := ([] : List Claim)) rfl

end Storage
end DogetherContracts.Staking
