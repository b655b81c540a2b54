import Mathlib

/-! # A levy on top of a payment

A payer of `x` is charged `x * r / S`, rounded down and at most `c`, on top of
it. From a gross sum the payer can send the net amount: what is left after the
levy contained in the sum. -/
namespace DogetherContracts.Levy

variable {S r c g : ℕ}

/-- The levy charged on top of a payment of `x`. -/
def onTop (S r c x : ℕ) : ℕ := min (x * r / S) c

/-- The levy contained in a gross sum before the cap. -/
def uncapped (S r g : ℕ) : ℕ := g - g * S / (r + S)

/-- The part of the gross sum `g` that is set aside for the levy. -/
def contained (S r c g : ℕ) : ℕ := min (uncapped S r g) c

def net (S r c g : ℕ) : ℕ := g - contained S r c g

/-- What neither the net amount nor the levy on it uses up. -/
def slack (S r c g : ℕ) : ℕ :=
  if c < uncapped S r g then 0 else (g * S % (r + S) + S - 1) / S

theorem onTop_mono {x y : ℕ} (h : x ≤ y) : onTop S r c x ≤ onTop S r c y :=
  min_le_min_right c (Nat.div_le_div_right (Nat.mul_le_mul_right r h))

theorem scaled_le (S r g : ℕ) : g * S / (r + S) ≤ g := by
  apply Nat.div_le_of_le_mul
  rw [Nat.mul_comm]
  exact Nat.mul_le_mul_right g (Nat.le_add_left S r)

theorem contained_le (S r c g : ℕ) : contained S r c g ≤ g :=
  (min_le_left _ _).trans (Nat.sub_le _ _)

theorem net_add_contained (S r c g : ℕ) : net S r c g + contained S r c g = g :=
  Nat.sub_add_cancel (contained_le S r c g)

theorem net_of_uncapped (h : uncapped S r g ≤ c) : net S r c g = g * S / (r + S) := by
  rw [net, contained, min_eq_left h]
  exact Nat.sub_sub_self (scaled_le S r g)

theorem net_of_capped (h : c < uncapped S r g) : net S r c g = g - c := by
  rw [net, contained, min_eq_right h.le]

theorem slack_of_capped (h : c < uncapped S r g) : slack S r c g = 0 := if_pos h

/-- Below a sum whose levy is capped every net amount is smaller. -/
theorem net_lt_of_capped {x : ℕ} (h : c < uncapped S r g) (lt : x < g) :
    net S r c x < net S r c g := by
  have quotient : x * S / (r + S) ≤ g * S / (r + S) :=
    Nat.div_le_div_right (Nat.mul_le_mul_right S lt.le)
  have split := net_add_contained S r c x
  rw [net_of_capped h]
  rw [contained] at split
  unfold uncapped at h split
  omega

/-- The levy before the cap, at full scale: the rate on the rounded-down net
amount, and the remainder of the rounding. -/
theorem uncapped_mul (S r g : ℕ) :
    uncapped S r g * S = g * S / (r + S) * r + g * S % (r + S) := by
  have le := Nat.mul_le_mul_right S (scaled_le S r g)
  have whole := Nat.div_add_mod (g * S) (r + S)
  rw [Nat.mul_comm, Nat.mul_add] at whole
  rw [uncapped, Nat.sub_mul]
  omega

/-- Rounding `k * S - t` down to whole multiples of `S` rounds `t` up. -/
theorem div_add_ceil {k m t : ℕ} (pos : 0 < S) (h : k * S = m + t) :
    m / S + (t + S - 1) / S = k := by
  have quotient : m / S ≤ k := by
    apply Nat.div_le_of_le_mul
    rw [Nat.mul_comm]
    omega
  have rest : t = (k - m / S) * S - m % S := by
    have whole := Nat.div_add_mod m S
    rw [Nat.sub_mul, Nat.mul_comm (m / S)]
    omega
  have ceil : (t + S - 1) / S = k - m / S := by
    have lt := Nat.mod_lt m pos
    apply Nat.div_eq_of_lt_le
    · omega
    · rw [Nat.add_mul]
      omega
  omega

/-- One unit more than the rounded-down net amount carries the levy before the
cap, less one unit. -/
theorem uncapped_le_levy (pos : 0 < S) (r g : ℕ) :
    uncapped S r g ≤ (g * S / (r + S) + 1) * r / S + 1 := by
  have part : g * S % (r + S) < r + S := Nat.mod_lt _ (Nat.add_pos_right r pos)
  have exact := uncapped_mul S r g
  rw [← Nat.sub_le_iff_le_add, Nat.le_div_iff_mul_le pos, Nat.sub_mul, Nat.add_mul]
  omega

/-- A cap that binds is no more than the levy on the net amount. -/
theorem cap_le_levy (pos : 0 < S) (h : c < uncapped S r g) : c ≤ (g - c) * r / S := by
  have room : g * S / (r + S) + 1 ≤ g - c := by
    unfold uncapped at h
    omega
  have levy := Nat.div_le_div_right (c := S) (Nat.mul_le_mul_right r room)
  have next := uncapped_le_levy pos r g
  omega

/-- The net amount, the levy on it and the slack add up to the gross sum. -/
theorem net_add_onTop (pos : 0 < S) (r c g : ℕ) :
    net S r c g + onTop S r c (net S r c g) + slack S r c g = g := by
  by_cases h : c < uncapped S r g
  · have le : c ≤ g := h.le.trans (Nat.sub_le _ _)
    rw [slack_of_capped h, net_of_capped h, onTop, min_eq_right (cap_le_levy pos h)]
    omega
  · have exact := div_add_ceil pos (uncapped_mul S r g)
    have le := scaled_le S r g
    have within : g * S / (r + S) * r / S ≤ c :=
      (Nat.le.intro exact).trans (Nat.le_of_not_lt h)
    rw [slack, if_neg h, net_of_uncapped (Nat.le_of_not_lt h), onTop, min_eq_left within]
    unfold uncapped at exact
    omega

/-- The net amount can be paid with its levy. -/
theorem affordable (pos : 0 < S) (r c g : ℕ) :
    net S r c g + onTop S r c (net S r c g) ≤ g := by
  have exact := net_add_onTop pos r c g
  omega

/-- Two units more cannot. -/
theorem tight (pos : 0 < S) (r c g : ℕ) :
    g < net S r c g + 2 + onTop S r c (net S r c g + 2) := by
  by_cases h : c < uncapped S r g
  · have mono := onTop_mono (S := S) (r := r) (c := c) (Nat.le_add_right (net S r c g) 2)
    have exact := net_add_onTop pos r c g
    rw [slack_of_capped h] at exact
    omega
  · have next := uncapped_le_levy pos r g
    have grown : (g * S / (r + S) + 1) * r / S ≤ (g * S / (r + S) + 2) * r / S :=
      Nat.div_le_div_right (Nat.mul_le_mul_right r (Nat.le_succ _))
    have levy : uncapped S r g ≤ onTop S r c (g * S / (r + S) + 2) + 1 := by
      rw [onTop]
      omega
    rw [net_of_uncapped (Nat.le_of_not_lt h)]
    unfold uncapped at levy
    omega

/-! Paying in portions. -/

theorem contained_add_le (S r c g h : ℕ) :
    contained S r c (g + h) ≤ contained S r c g + contained S r c h := by
  have floors : g * S / (r + S) + h * S / (r + S) ≤ (g + h) * S / (r + S) := by
    rw [Nat.add_mul]
    exact Nat.div_add_div_le_add_div
  have left := scaled_le S r g
  have right := scaled_le S r h
  unfold contained uncapped
  omega

/-- The levy on a sum is no more than the levies on its portions. -/
theorem contained_sum_le (S r c : ℕ) (portions : List ℕ) :
    contained S r c portions.sum ≤ (portions.map (contained S r c)).sum := by
  induction portions with
  | nil => simp [contained, uncapped]
  | cons g portions ih =>
      have first := contained_add_le S r c g portions.sum
      rw [List.sum_cons, List.map_cons, List.sum_cons]
      omega

theorem net_sum (S r c : ℕ) (portions : List ℕ) :
    (portions.map (net S r c)).sum + (portions.map (contained S r c)).sum = portions.sum := by
  induction portions with
  | nil => rfl
  | cons g portions ih =>
      have first := net_add_contained S r c g
      simp only [List.map_cons, List.sum_cons]
      omega

/-- What is left of the portions is no more than what is left of their sum. -/
theorem net_sum_le (S r c : ℕ) (portions : List ℕ) :
    (portions.map (net S r c)).sum ≤ net S r c portions.sum := by
  have parts := net_sum S r c portions
  have whole := net_add_contained S r c portions.sum
  have levy := contained_sum_le S r c portions
  omega

/-- Rounding loses at most a unit on every portion but the first. -/
theorem scaled_sum_le (pos : 0 < S) (r g : ℕ) (portions : List ℕ) :
    (g + portions.sum) * S / (r + S) ≤
      g * S / (r + S) + (portions.map fun h => h * S / (r + S)).sum + portions.length := by
  induction portions generalizing g with
  | nil => simp
  | cons h portions ih =>
      have carry : (g * S + (h + portions.sum) * S) / (r + S) ≤
          g * S / (r + S) + (h + portions.sum) * S / (r + S) + 1 := by
        rw [Nat.add_div (Nat.add_pos_right r pos)]
        split <;> omega
      have rest := ih h
      rw [← Nat.add_mul] at carry
      simp only [List.sum_cons, List.map_cons, List.length_cons]
      omega

/-- While the cap does not bind the portions lose at most a unit each. -/
theorem net_le_sum_of_uncapped (pos : 0 < S) (portions : List ℕ)
    (h : uncapped S r (g + portions.sum) ≤ c) :
    net S r c (g + portions.sum) ≤
      net S r c g + (portions.map (net S r c)).sum + portions.length := by
  have below (g : ℕ) : g * S / (r + S) ≤ net S r c g := by
    have le := scaled_le S r g
    unfold net contained uncapped
    omega
  have each := List.sum_le_sum fun (h : ℕ) (_ : h ∈ portions) => below h
  have first := below g
  have round := scaled_sum_le pos r g portions
  rw [net_of_uncapped h]
  omega

/-- Once it binds they lose up to the cap each. -/
theorem net_le_sum_of_capped (portions : List ℕ) (h : c < uncapped S r (g + portions.sum)) :
    net S r c (g + portions.sum) ≤
      net S r c g + (portions.map (net S r c)).sum + portions.length * c := by
  have capped (g : ℕ) : contained S r c g ≤ c := min_le_right _ _
  have each := List.sum_le_card_nsmul (portions.map (contained S r c)) c
    (by rintro _ member; obtain ⟨g, _, rfl⟩ := List.mem_map.mp member; exact capped g)
  have parts := net_sum S r c portions
  have first := net_add_contained S r c g
  have own := capped g
  rw [List.length_map, smul_eq_mul] at each
  rw [net_of_capped h]
  omega

end DogetherContracts.Levy
