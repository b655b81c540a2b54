import Mathlib

/-! # Principal held in whole units

A principal is invested in whole units, and `scale` units are worth the rate. Both
buying and redeeming units round down. Every purchase may leave the principal
short of one unit; redemptions never do, and a harvest of the surplus takes the
units down to what covers the principal. The surplus of the units over the principal moves
by exactly what is rounded off, sold, or gained by a new rate. -/
namespace DogetherContracts.Units

/-- The units, and the worth of `n` more, cover the principal `p`. -/
def Covers (scale p units n rate : ℕ) : Prop := p * scale ≤ units * rate + n * rate

variable {scale p units n rate : ℕ}

/-- More units and a better rate cover at least as much. -/
theorem Covers.grow {units' rate' : ℕ} (c : Covers scale p units n rate) (more : units ≤ units')
    (better : rate ≤ rate') : Covers scale p units' n rate' :=
  c.trans (Nat.add_le_add (Nat.mul_le_mul more better) (Nat.mul_le_mul_left n better))

theorem Covers.deposit (c : Covers scale p units n rate) (positive : 0 < rate) (d : ℕ) :
    Covers scale (p + d) (units + d * scale / rate) (n + 1) rate := by
  have bought : d * scale ≤ (d * scale / rate + 1) * rate :=
    ((Nat.div_lt_iff_lt_mul positive).mp (Nat.lt_succ_self _)).le
  unfold Covers at *
  calc (p + d) * scale = p * scale + d * scale := Nat.add_mul p d scale
    _ ≤ (units * rate + n * rate) + (d * scale / rate + 1) * rate := Nat.add_le_add c bought
    _ = (units + d * scale / rate) * rate + (n + 1) * rate := by ring

/-- A redemption takes out no more than the principal it returns. -/
theorem redeem_shortfall {p' amount units' : ℕ} (principal : p' + amount = p)
    (burned : units ≤ units' + amount * scale / rate) :
    p' * scale + units * rate ≤ p * scale + units' * rate := by
  have floor := Nat.div_mul_le_self (amount * scale) rate
  calc p' * scale + units * rate
      ≤ p' * scale + (units' + amount * scale / rate) * rate :=
        Nat.add_le_add_left (Nat.mul_le_mul_right rate burned) _
    _ = p' * scale + units' * rate + amount * scale / rate * rate := by ring
    _ ≤ p' * scale + units' * rate + amount * scale := Nat.add_le_add_left floor _
    _ = p * scale + units' * rate := by rw [← principal]; ring

theorem Covers.redeem {p' amount units' : ℕ} (c : Covers scale p units n rate)
    (principal : p' + amount = p) (burned : units ≤ units' + amount * scale / rate) :
    Covers scale p' units' n rate := by
  have kept := redeem_shortfall principal burned
  unfold Covers at *
  omega

/-- After a harvest of the surplus the principal is covered in full. -/
theorem harvest {surplus units' : ℕ} (excess : surplus + p * scale = units * rate)
    (burned : units ≤ units' + surplus / rate) : Covers scale p units' 0 rate := by
  have floor := Nat.div_mul_le_self surplus rate
  have worth := Nat.mul_le_mul_right rate burned
  rw [Nat.add_mul] at worth
  unfold Covers
  omega

/-- A harvest takes the most units that leave the principal covered. -/
theorem harvest_largest {surplus : ℕ} (positive : 0 < rate)
    (excess : surplus + p * scale = units * rate) (v : ℤ) :
    (p * scale : ℤ) ≤ (units - v) * rate ↔ v ≤ (surplus / rate : ℕ) := by
  have worth : (surplus : ℤ) + p * scale = units * rate := by exact_mod_cast excess
  have floor : v ≤ (surplus : ℤ) / rate ↔ v * rate ≤ surplus :=
    Int.le_ediv_iff_mul_le (by exact_mod_cast positive)
  rw [Int.natCast_ediv, floor, Int.sub_mul]
  constructor <;> intro h <;> linarith

/-- What a harvest leaves over the principal is worth less than a unit. -/
theorem harvest_rest {surplus left : ℕ} (excess : surplus + p * scale = units * rate)
    (taken : left + surplus / rate = units) : surplus % rate + p * scale = left * rate := by
  have whole := Nat.div_add_mod' surplus rate
  rw [← taken, Nat.add_mul] at excess
  omega

/-- A principal covered in full can be redeemed in any portions, at the present
rate or better ones. -/
theorem Covers.redeemable (c : Covers scale p units 0 rate) (positive : 0 < rate)
    (portions : List (ℕ × ℕ)) (better : ∀ e ∈ portions, rate ≤ e.2)
    (within : (portions.map Prod.fst).sum ≤ p) :
    (portions.map fun e => e.1 * scale / e.2).sum ≤ units := by
  have floors : (portions.map fun e => e.1 * scale / e.2).sum * rate ≤
      (portions.map Prod.fst).sum * scale := by
    clear within
    induction portions with
    | nil => simp
    | cons e portions ih =>
        have rest := ih fun f member => better f (List.mem_cons_of_mem e member)
        have first : e.1 * scale / e.2 * rate ≤ e.1 * scale :=
          (Nat.mul_le_mul_left _ (better e List.mem_cons_self)).trans (Nat.div_mul_le_self _ _)
        simp only [List.map_cons, List.sum_cons, Nat.add_mul]
        exact Nat.add_le_add first rest
  have covered : p * scale ≤ units * rate := by
    unfold Covers at c
    omega
  exact Nat.le_of_mul_le_mul_right
    (floors.trans ((Nat.mul_le_mul_right scale within).trans covered)) positive

/-! The surplus. -/

/-- What the units are worth over the principal. -/
def surplus (scale p units rate : ℕ) : ℤ := units * rate - p * scale

/-- What an amount is worth over the units that it buys. -/
def dust (scale rate amount : ℕ) : ℕ := amount * scale % rate

@[simp] theorem dust_zero (scale rate : ℕ) : dust scale rate 0 = 0 := by
  rw [dust, Nat.zero_mul, Nat.zero_mod]

theorem dust_lt (scale amount : ℕ) (positive : 0 < rate) : dust scale rate amount < rate :=
  Nat.mod_lt _ positive

theorem surplus_deposit (scale p units rate d : ℕ) :
    surplus scale (p + d) (units + d * scale / rate) rate + dust scale rate d =
      surplus scale p units rate := by
  have whole : ((d * scale / rate : ℕ) : ℤ) * rate + (d * scale % rate : ℕ) = d * scale := by
    exact_mod_cast Nat.div_add_mod' (d * scale) rate
  simp only [surplus, dust, Nat.cast_add]
  linear_combination whole

theorem surplus_redeem {p' amount units' : ℕ} (principal : p' + amount = p)
    (burned : units' + amount * scale / rate = units) :
    surplus scale p' units' rate = surplus scale p units rate + dust scale rate amount := by
  rw [← surplus_deposit scale p' units' rate amount, principal, burned]

theorem surplus_sold {units' sold : ℕ} (left : units' + sold = units) :
    surplus scale p units' rate + (sold * rate : ℕ) = surplus scale p units rate := by
  simp only [surplus, ← left, Nat.cast_add, Nat.cast_mul]
  ring

/-- A new rate gains on every unit. -/
theorem surplus_revalued (scale p units rate rate' : ℕ) :
    surplus scale p units rate' = surplus scale p units rate + units * ((rate' : ℤ) - rate) := by
  simp only [surplus]
  ring

end DogetherContracts.Units
