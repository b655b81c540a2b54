import DogetherContracts.Lib.Table

/-! # Lazy index accounting

A pot is shared out by weight. Instead of crediting every position at every
distribution, one global index grows by the amount per unit of weight, and a
position remembers the index at which it was last settled. Amounts are raw
fixed-point numbers: a unit of the pot is `S` raw units. -/
namespace DogetherContracts.LazyIndex

@[ext] structure Position where
  weight : ℕ
  index : ℕ
  settled : ℕ

namespace Position

/-- What the position is owed when the global index is `I`. -/
def accrued (I : ℕ) (p : Position) : ℕ := p.settled + (I - p.index) * p.weight

theorem accrued_advance {I δ : ℕ} {p : Position} (h : p.index ≤ I) :
    p.accrued (I + δ) = p.accrued I + δ * p.weight := by
  have split : I + δ - p.index = (I - p.index) + δ := by omega
  simp only [accrued, split, Nat.add_mul]
  omega

end Position

variable {K V : Type} [DecidableEq K]

/-- What all positions of a table are owed together. -/
def liability (pos : V → Position) (I : ℕ) (m : Table K V) : ℕ :=
  Table.total (fun v => (pos v).accrued I) m

def weights (pos : V → Position) (m : Table K V) : ℕ := Table.total (fun v => (pos v).weight) m

theorem liability_advance {pos : V → Position} {I δ : ℕ} {m : Table K V}
    (behind : ∀ k v, m.lookup k = some v → (pos v).index ≤ I) :
    liability pos (I + δ) m = liability pos I m + δ * weights pos m := by
  have each : liability pos (I + δ) m =
      Table.total (fun v => (pos v).accrued I + δ * (pos v).weight) m :=
    Table.total_congr (fun k v h => Position.accrued_advance (behind k v h))
  rw [each, Table.total_add, Table.total_mul_left]
  rfl

/-! A distribution of `c` units over a weight `W` raises the index by the
rounded-down quotient. -/

def perWeight (S c W : ℕ) : ℕ := c * S / W

theorem perWeight_mul_le (S c W : ℕ) : perWeight S c W * W ≤ c * S := Nat.div_mul_le_self _ _

theorem lt_perWeight_mul {S c W : ℕ} (pos : 0 < W) : c * S < perWeight S c W * W + W := by
  have h := Nat.lt_div_mul_add (a := c * S) pos
  exact h

/-- A pot of `pot` units covers the liability, with at most `dust` raw units over. -/
structure Covers (S pot liability dust : ℕ) : Prop where
  enough : liability ≤ pot * S
  tight : pot * S ≤ liability + dust

namespace Covers

variable {S pot liab dust : ℕ}

theorem empty (S : ℕ) : Covers S 0 0 0 := ⟨by simp, by simp⟩

/-- Sharing out `c` more units leaves less than one raw unit per unit of weight. -/
theorem distribute (h : Covers S pot liab dust) (c : ℕ) {W : ℕ} (pos : 0 < W) :
    Covers S (pot + c) (liab + perWeight S c W * W) (dust + W) := by
  have le := perWeight_mul_le S c W
  have lt := lt_perWeight_mul (S := S) (c := c) pos
  have enough := h.enough
  have tight := h.tight
  constructor <;> rw [Nat.add_mul] <;> omega

theorem weaken {dust' : ℕ} (h : Covers S pot liab dust) (le : dust ≤ dust') :
    Covers S pot liab dust' :=
  ⟨h.enough, h.tight.trans (Nat.add_le_add_left le _)⟩

/-- One position spends `n` whole units out of what it is owed, `r`, and keeps
the other whole units: its fraction of a unit becomes dust. -/
theorem spend (h : Covers S pot liab dust) {r n liab' pot' : ℕ} (owed : n ≤ r / S)
    (after : liab' + r = liab + (r / S - n) * S) (paid : pot' + n = pot) :
    Covers S pot' liab' (dust + r % S) := by
  have enough := h.enough
  have tight := h.tight
  have whole := Nat.div_add_mod r S
  have kept : (r / S - n) * S + n * S = S * (r / S) := by
    rw [← Nat.add_mul, Nat.sub_add_cancel owed, Nat.mul_comm]
  have paid' : pot' * S + n * S = pot * S := by rw [← Nat.add_mul, paid]
  constructor <;> omega

/-- Whole units promised to different positions fit in the pot together. -/
theorem whole_le (h : Covers S pot liab dust) (pos : 0 < S) {n : ℕ} (owed : n * S ≤ liab) :
    n ≤ pot :=
  Nat.le_of_mul_le_mul_right (owed.trans h.enough) pos

end Covers

end DogetherContracts.LazyIndex
