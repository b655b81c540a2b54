import DogetherContracts.CosmWasm.Number

/-! # math.rs

Decimal arithmetic by way of `Decimal256`. The file is the same in dogether and
in the staking contract. -/
namespace DogetherContracts
open Checked

/-- return a * b -/
def decimalMultiplicationIn256 (a b : Decimal) : Except Fault Decimal := do
  let c ← (Decimal256.ofDecimal b).mul (Decimal256.ofDecimal a)
  c.toDecimal

/-- return a + b -/
def decimalSummationIn256 (a b : Decimal) : Except Fault Decimal := do
  let c ← (Decimal256.ofDecimal b).add (Decimal256.ofDecimal a)
  c.toDecimal

/-- return a - b -/
def decimalSubtractionIn256 (a b : Decimal) : Except Fault Decimal := do
  let c ← (Decimal256.ofDecimal a).sub (Decimal256.ofDecimal b)
  c.toDecimal

theorem widened_mul_lt (a b : Decimal) : b.val * a.val < 2 ^ 256 :=
  calc b.val * a.val < 2 ^ 128 * 2 ^ 128 := Nat.mul_lt_mul'' b.lt a.lt
    _ = 2 ^ 256 := by norm_num

theorem decimalMultiplicationIn256_ok {a b c : Decimal} :
    decimalMultiplicationIn256 a b = .ok c ↔ c.val = a.val * b.val / 10 ^ 18 := by
  simp only [decimalMultiplicationIn256, bind_ok, Decimal256.mul_ok, Decimal256.toDecimal_ok,
    Decimal256.val_ofDecimal]
  constructor
  · rintro ⟨wide, ⟨_, product⟩, narrowed⟩
    rw [narrowed, product, Nat.mul_comm]
  · intro value
    refine ⟨Decimal256.ofDecimal c, ⟨widened_mul_lt a b, ?_⟩, rfl⟩
    rw [Decimal256.val_ofDecimal, value, Nat.mul_comm]

theorem decimalSummationIn256_ok {a b c : Decimal} :
    decimalSummationIn256 a b = .ok c ↔ c.val = a.val + b.val := by
  simp only [decimalSummationIn256, bind_ok, Decimal256.add_ok, Decimal256.toDecimal_ok,
    Decimal256.val_ofDecimal]
  constructor
  · rintro ⟨wide, sum, narrowed⟩
    omega
  · intro value
    exact ⟨Decimal256.ofDecimal c, by rw [Decimal256.val_ofDecimal]; omega, rfl⟩

theorem decimalSubtractionIn256_ok {a b c : Decimal} :
    decimalSubtractionIn256 a b = .ok c ↔ c.val + b.val = a.val := by
  simp only [decimalSubtractionIn256, bind_ok, Decimal256.sub_ok, Decimal256.toDecimal_ok,
    Decimal256.val_ofDecimal]
  constructor
  · rintro ⟨wide, difference, narrowed⟩
    omega
  · intro value
    exact ⟨Decimal256.ofDecimal c, value, rfl⟩

/-! All three can only panic. -/

theorem decimalMultiplicationIn256_failsWith (a b : Decimal) :
    FailsWith (decimalMultiplicationIn256 a b) .panic :=
  (Decimal256.mul_failsWith _ _).bind fun c _ => c.toDecimal_failsWith

theorem decimalSummationIn256_failsWith (a b : Decimal) :
    FailsWith (decimalSummationIn256 a b) .panic :=
  (Decimal256.add_failsWith _ _).bind fun c _ => c.toDecimal_failsWith

theorem decimalSubtractionIn256_failsWith (a b : Decimal) :
    FailsWith (decimalSubtractionIn256 a b) .panic :=
  (Decimal256.sub_failsWith _ _).bind fun c _ => c.toDecimal_failsWith

end DogetherContracts
