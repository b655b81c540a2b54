import DogetherContracts.Lib.Checked

/-! # Machine words

A word of `w` bits is a natural number that carries its own range. Every
operation names the error with which it aborts; what it returns is fixed by the
value alone, so the rules are equivalences and hold no side condition. -/
namespace DogetherContracts

@[ext] structure Word (w : ℕ) where
  val : ℕ
  lt : val < 2 ^ w
  deriving DecidableEq, Repr

namespace Word
open Checked

variable {ε : Type} {w : ℕ}

instance : Zero (Word w) := ⟨⟨0, Nat.two_pow_pos w⟩⟩

@[simp] theorem val_zero : (0 : Word w).val = 0 := rfl

instance : LE (Word w) := ⟨fun a b => a.val ≤ b.val⟩
instance : LT (Word w) := ⟨fun a b => a.val < b.val⟩
instance (a b : Word w) : Decidable (a ≤ b) := inferInstanceAs (Decidable (a.val ≤ b.val))
instance (a b : Word w) : Decidable (a < b) := inferInstanceAs (Decidable (a.val < b.val))

theorem le_def {a b : Word w} : a ≤ b ↔ a.val ≤ b.val := Iff.rfl

/-- The low bits of a number; a number in range is itself. -/
def ofNat (n : ℕ) : Word w := ⟨n % 2 ^ w, Nat.mod_lt _ (Nat.two_pow_pos w)⟩

/-- Put a number into a word, or abort when it does not fit. -/
def narrow (e : ε) (n : ℕ) : Except ε (Word w) :=
  if h : n < 2 ^ w then .ok ⟨n, h⟩ else .error e

def add (e : ε) (a b : Word w) : Except ε (Word w) := narrow e (a.val + b.val)

def sub (e : ε) (a b : Word w) : Except ε (Word w) :=
  if b ≤ a then .ok ⟨a.val - b.val, Nat.lt_of_le_of_lt (Nat.sub_le _ _) a.lt⟩ else .error e

def mul (e : ε) (a b : Word w) : Except ε (Word w) := narrow e (a.val * b.val)

def div (e : ε) (a b : Word w) : Except ε (Word w) :=
  if b.val = 0 then .error e
  else .ok ⟨a.val / b.val, Nat.lt_of_le_of_lt (Nat.div_le_self _ _) a.lt⟩

/-- `a * n / d` with the product taken at full width. -/
def mulDiv (e : ε) (a n d : Word w) : Except ε (Word w) :=
  if d.val = 0 then .error e else narrow e (a.val * n.val / d.val)

def min (a b : Word w) : Word w := if b < a then b else a

theorem narrow_ok {e : ε} {n : ℕ} {u : Word w} : narrow e n = .ok u ↔ u.val = n := by
  unfold narrow
  split
  · simp only [Except.ok.injEq, Word.ext_iff]
    exact eq_comm
  · have := u.lt
    simp only [reduceCtorEq, false_iff]
    omega

theorem narrow_of_lt {e : ε} {n : ℕ} (h : n < 2 ^ w) : narrow e n = .ok (⟨n, h⟩ : Word w) :=
  dif_pos h

theorem add_ok {e : ε} {a b c : Word w} : add e a b = .ok c ↔ c.val = a.val + b.val := narrow_ok

theorem sub_ok {e : ε} {a b c : Word w} : sub e a b = .ok c ↔ c.val + b.val = a.val := by
  unfold sub
  split
  · next h =>
    rw [le_def] at h
    simp only [Except.ok.injEq, Word.ext_iff]
    omega
  · next h =>
    rw [le_def] at h
    simp only [reduceCtorEq, false_iff]
    omega

theorem mul_ok {e : ε} {a b c : Word w} : mul e a b = .ok c ↔ c.val = a.val * b.val := narrow_ok

theorem div_ok {e : ε} {a b c : Word w} :
    div e a b = .ok c ↔ b.val ≠ 0 ∧ c.val = a.val / b.val := by
  unfold div
  split
  · next h => simp [h]
  · next h =>
    simp only [Except.ok.injEq, Word.ext_iff, ne_eq, h, not_false_eq_true, true_and]
    exact eq_comm

theorem mulDiv_ok {e : ε} {a n d c : Word w} :
    mulDiv e a n d = .ok c ↔ d.val ≠ 0 ∧ c.val = a.val * n.val / d.val := by
  unfold mulDiv
  split
  · next h => simp [h]
  · next h => simp only [narrow_ok, ne_eq, h, not_false_eq_true, true_and]

theorem narrow_error {e e' : ε} {n : ℕ} (h : (narrow e n : Except ε (Word w)) = .error e') :
    e' = e := by
  unfold narrow at h
  split at h <;> cases h
  rfl

theorem sub_error {e e' : ε} {a b : Word w} (h : sub e a b = .error e') : e' = e := by
  unfold sub at h
  split at h <;> cases h
  rfl

theorem div_error {e e' : ε} {a b : Word w} (h : div e a b = .error e') : e' = e := by
  unfold div at h
  split at h <;> cases h
  rfl

theorem mulDiv_error {e e' : ε} {a n d : Word w} (h : mulDiv e a n d = .error e') : e' = e := by
  unfold mulDiv at h
  split at h
  · cases h
    rfl
  · exact narrow_error h

/-- A subtraction that does not go below zero succeeds. -/
theorem sub_of_le {e : ε} {a b : Word w} (h : b.val ≤ a.val) : ∃ c, sub e a b = .ok c :=
  ⟨⟨a.val - b.val, Nat.lt_of_le_of_lt (Nat.sub_le _ _) a.lt⟩, if_pos h⟩

theorem add_of_lt {e : ε} {a b : Word w} (h : a.val + b.val < 2 ^ w) : ∃ c, add e a b = .ok c :=
  ⟨_, narrow_of_lt h⟩

@[simp] theorem val_min (a b : Word w) : (min a b).val = Nat.min a.val b.val := by
  unfold min
  split
  · next h => exact (Nat.min_eq_right (Nat.le_of_lt h)).symm
  · next h => exact (Nat.min_eq_left (Nat.le_of_not_lt h)).symm

end Word
end DogetherContracts
