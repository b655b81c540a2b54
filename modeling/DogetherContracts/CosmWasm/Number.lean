import DogetherContracts.Lib.Word

/-! # Errors and numbers of the CosmWasm libraries

`Uint128`, `Decimal` (a raw `Uint128` scaled by 10^18) and `Decimal256` follow
their documented behaviour: exact arithmetic that aborts when the result leaves
its range. A panic and a returned error end a call alike; they are kept apart
because only an error has a text. -/
namespace DogetherContracts

inductive StdError where
  | genericErr (msg : String)
  | overflow
  | parseErr
  deriving DecidableEq, Repr

namespace Pool

inductive ContractError where
  | unauthorized
  | emptyFunds
  | multipleDenoms
  | wrongDenom
  | emptyAmount
  | retryRedeemLater (nextDraw : ℕ)
  | doNotSendFunds
  deriving DecidableEq, Repr

end Pool

namespace Cw20

inductive ContractError where
  | unauthorized
  | invalidZeroAmount
  | cannotExceedCap
  deriving DecidableEq, Repr

end Cw20

/-- How a call can end without a result: an error of a contract, a failed
address or query import of the host, a panic, or a refusal of the chain. -/
inductive Fault where
  | std (e : StdError)
  | pool (e : Pool.ContractError)
  | cw20 (e : Cw20.ContractError)
  | address
  | query
  | panic
  | chain (reason : String)
  deriving DecidableEq, Repr

def genericErr (msg : String) : Fault := .std (.genericErr msg)

/-- The error of `checked_add` and `checked_sub`. -/
def overflow : Fault := .std .overflow

abbrev Uint64 := Word 64
abbrev Uint128 := Word 128

namespace Uint128

def one : Uint128 := ⟨1, by norm_num⟩

/-- `Decimal::DECIMAL_FRACTIONAL`, and `DECIMAL_FRACTION` of taxation.rs. -/
def decimalFraction : Uint128 := ⟨10 ^ 18, by norm_num⟩

@[simp] theorem val_one : one.val = 1 := rfl
@[simp] theorem val_decimalFraction : decimalFraction.val = 10 ^ 18 := rfl

end Uint128

def Word.toString {w : ℕ} (u : Word w) : String := Nat.repr u.val

structure Decimal extends Word 128
  deriving DecidableEq, Repr

structure Decimal256 extends Word 256
  deriving DecidableEq, Repr

namespace Decimal
open Checked

instance : Zero Decimal := ⟨⟨0⟩⟩

@[simp] theorem val_zero : (0 : Decimal).val = 0 := rfl

def fromRatio (numerator denominator : Uint128) : Except Fault Decimal :=
  mk <$> numerator.mulDiv .panic Uint128.decimalFraction denominator

/-- `Decimal * Uint128`, rounded down. -/
def mulUint (d : Decimal) (u : Uint128) : Except Fault Uint128 :=
  if u.val = 0 ∨ d.val = 0 then .ok 0
  else u.mulDiv .panic d.toWord Uint128.decimalFraction

theorem mk_ok {x : Except Fault (Word 128)} {d : Decimal} :
    mk <$> x = .ok d ↔ x = .ok d.toWord := by
  rw [map_ok]
  constructor
  · rintro ⟨a, h, rfl⟩
    exact h
  · intro h
    exact ⟨_, h, rfl⟩

theorem fromRatio_ok {n d : Uint128} {c : Decimal} :
    fromRatio n d = .ok c ↔ d.val ≠ 0 ∧ c.val = n.val * 10 ^ 18 / d.val := by
  rw [fromRatio, mk_ok, Word.mulDiv_ok]
  rfl

theorem fromRatio_failsWith (n d : Uint128) : FailsWith (fromRatio n d) .panic :=
  FailsWith.map fun _ => Word.mulDiv_error

theorem mulUint_ok {d : Decimal} {u c : Uint128} :
    d.mulUint u = .ok c ↔ c.val = u.val * d.val / 10 ^ 18 := by
  unfold mulUint
  split
  · next h =>
    have zero : u.val * d.val / 10 ^ 18 = 0 := by
      rcases h with h | h <;> simp [h]
    rw [zero, Except.ok.injEq, Word.ext_iff]
    exact eq_comm
  · rw [Word.mulDiv_ok]
    simp

end Decimal

namespace Decimal256
open Checked

def ofDecimal (d : Decimal) : Decimal256 :=
  ⟨⟨d.val, d.lt.trans (by norm_num)⟩⟩

/-- Narrowing back to `Decimal` asserts that the upper half is zero. -/
def toDecimal (d : Decimal256) : Except Fault Decimal := Decimal.mk <$> Word.narrow .panic d.val

/-- `U256` overflow panics; the quotient by the fraction never overflows. -/
def mul (a b : Decimal256) : Except Fault Decimal256 := do
  let product ← a.toWord.mul .panic b.toWord
  let quotient ← product.div .panic ⟨10 ^ 18, by norm_num⟩
  pure ⟨quotient⟩

def add (a b : Decimal256) : Except Fault Decimal256 := mk <$> a.toWord.add .panic b.toWord

def sub (a b : Decimal256) : Except Fault Decimal256 := mk <$> a.toWord.sub .panic b.toWord

/-- `Decimal256::from_ratio` on two raw `U256` numbers. -/
def fromRatio (numerator denominator : Word 256) : Except Fault Decimal256 := do
  let scaled ← numerator.mul .panic ⟨10 ^ 18, by norm_num⟩
  let quotient ← scaled.div .panic denominator
  pure ⟨quotient⟩

@[simp] theorem val_ofDecimal (d : Decimal) : (ofDecimal d).val = d.val := rfl

theorem toDecimal_ok {d : Decimal256} {c : Decimal} : d.toDecimal = .ok c ↔ c.val = d.val := by
  rw [toDecimal, Decimal.mk_ok, Word.narrow_ok]

theorem mk_ok {x : Except Fault (Word 256)} {d : Decimal256} :
    mk <$> x = .ok d ↔ x = .ok d.toWord := by
  rw [map_ok]
  constructor
  · rintro ⟨a, h, rfl⟩
    exact h
  · intro h
    exact ⟨_, h, rfl⟩

/-! The three operations and the narrowing can only panic. -/

theorem toDecimal_failsWith (d : Decimal256) : FailsWith d.toDecimal .panic :=
  FailsWith.map fun _ => Word.narrow_error

theorem mul_failsWith (a b : Decimal256) : FailsWith (a.mul b) .panic :=
  FailsWith.bind (fun _ => Word.narrow_error) fun _ _ =>
    FailsWith.bind (fun _ => Word.div_error) fun _ _ => FailsWith.pure _

theorem add_failsWith (a b : Decimal256) : FailsWith (a.add b) .panic :=
  FailsWith.map fun _ => Word.narrow_error

theorem sub_failsWith (a b : Decimal256) : FailsWith (a.sub b) .panic :=
  FailsWith.map fun _ => Word.sub_error

theorem add_ok {a b c : Decimal256} : a.add b = .ok c ↔ c.val = a.val + b.val := by
  rw [add, mk_ok, Word.add_ok]

theorem sub_ok {a b c : Decimal256} : a.sub b = .ok c ↔ c.val + b.val = a.val := by
  rw [sub, mk_ok, Word.sub_ok]

theorem mul_ok {a b c : Decimal256} :
    a.mul b = .ok c ↔ a.val * b.val < 2 ^ 256 ∧ c.val = a.val * b.val / 10 ^ 18 := by
  simp only [mul, bind_ok, Word.mul_ok, Word.div_ok, pure_ok]
  constructor
  · rintro ⟨product, exact, quotient, ⟨_, divided⟩, rfl⟩
    rw [← exact]
    exact ⟨product.lt, divided⟩
  · rintro ⟨fits, value⟩
    exact ⟨⟨_, fits⟩, rfl, c.toWord, ⟨by norm_num, value⟩, rfl⟩

theorem fromRatio_ok {n d : Word 256} {c : Decimal256} :
    fromRatio n d = .ok c ↔
      n.val * 10 ^ 18 < 2 ^ 256 ∧ d.val ≠ 0 ∧ c.val = n.val * 10 ^ 18 / d.val := by
  simp only [fromRatio, bind_ok, Word.mul_ok, Word.div_ok, pure_ok]
  constructor
  · rintro ⟨scaled, exact, quotient, ⟨nonzero, divided⟩, rfl⟩
    rw [← exact]
    exact ⟨scaled.lt, nonzero, divided⟩
  · rintro ⟨fits, nonzero, value⟩
    exact ⟨⟨_, fits⟩, rfl, c.toWord, ⟨nonzero, value⟩, rfl⟩

end Decimal256

end DogetherContracts
