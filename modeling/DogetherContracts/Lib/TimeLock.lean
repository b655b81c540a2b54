import Mathlib

/-! # Time locks

Amounts are requested with a due time, wait, and are paid once they are due.
Nothing is paid early, and a payment takes everything that is due. -/
namespace DogetherContracts.TimeLock

variable {T : Type*}

def total (entries : List (T × ℕ)) : ℕ := (entries.map Prod.snd).sum

@[simp] theorem total_nil : total ([] : List (T × ℕ)) = 0 := rfl

@[simp] theorem total_cons (e : T × ℕ) (entries : List (T × ℕ)) :
    total (e :: entries) = e.2 + total entries := by
  simp [total]

theorem total_append (entries more : List (T × ℕ)) :
    total (entries ++ more) = total entries + total more := by
  simp [total]

theorem total_snoc (entries : List (T × ℕ)) (e : T × ℕ) :
    total (entries ++ [e]) = total entries + e.2 := by
  rw [total_append, total_cons, total_nil, Nat.add_zero]

variable [LinearOrder T]

/-- The sum of the entries dated `h` or earlier. -/
def upTo (h : T) (entries : List (T × ℕ)) : ℕ := total (entries.filter fun e => decide (e.1 ≤ h))

/-- The entries dated after `now`. -/
def after (now : T) (entries : List (T × ℕ)) : List (T × ℕ) :=
  entries.filter fun e => decide (now < e.1)

@[simp] theorem upTo_nil (h : T) : upTo h [] = 0 := rfl

theorem upTo_cons (h : T) (e : T × ℕ) (entries : List (T × ℕ)) :
    upTo h (e :: entries) = (if e.1 ≤ h then e.2 else 0) + upTo h entries := by
  unfold upTo
  by_cases due : e.1 ≤ h
  · rw [List.filter_cons_of_pos (by simpa using due), total_cons, if_pos due]
  · rw [List.filter_cons_of_neg (by simpa using due), if_neg due, Nat.zero_add]

theorem upTo_snoc (h : T) (entries : List (T × ℕ)) (e : T × ℕ) :
    upTo h (entries ++ [e]) = upTo h entries + if e.1 ≤ h then e.2 else 0 := by
  induction entries with
  | nil => rw [List.nil_append, upTo_cons, upTo_nil, Nat.add_comm]
  | cons f entries ih => rw [List.cons_append, upTo_cons, upTo_cons, ih, Nat.add_assoc]

/-- When everything is dated early enough, everything counts. -/
theorem upTo_of_le {h : T} {entries : List (T × ℕ)} (past : ∀ e ∈ entries, e.1 ≤ h) :
    upTo h entries = total entries := by
  rw [upTo, List.filter_eq_self.mpr]
  intro e member
  exact decide_eq_true (past e member)

/-- What is due now and what is due later are everything. -/
theorem upTo_add_after (now : T) (entries : List (T × ℕ)) :
    upTo now entries + total (after now entries) = total entries := by
  induction entries with
  | nil => rfl
  | cons e entries ih =>
      rw [upTo_cons, total_cons, after]
      by_cases due : e.1 ≤ now
      · rw [List.filter_cons_of_neg (by simpa using due), if_pos due]
        rw [after] at ih
        omega
      · rw [List.filter_cons_of_pos (by simpa using due), if_neg due, total_cons]
        rw [after] at ih
        omega

/-- From now on, taking out what is due now takes as much from every later date. -/
theorem upTo_after {now h : T} (le : now ≤ h) (entries : List (T × ℕ)) :
    upTo now entries + upTo h (after now entries) = upTo h entries := by
  induction entries with
  | nil => rfl
  | cons e entries ih =>
      rw [upTo_cons, upTo_cons, after]
      rw [after] at ih
      by_cases due : e.1 ≤ now
      · rw [List.filter_cons_of_neg (by simpa using due), if_pos due, if_pos (due.trans le)]
        omega
      · rw [List.filter_cons_of_pos (by simpa using due), if_neg due, upTo_cons]
        omega

/-- The state of a time lock: what was requested, each entry with its due time,
what of it waits, and what was paid, each entry with the time it was paid. -/
structure Locked (now : T) (requested waiting paid : List (T × ℕ)) : Prop where
  past : ∀ e ∈ paid, e.1 ≤ now
  settled : ∀ h, now ≤ h → total paid + upTo h waiting = upTo h requested
  early : ∀ h, upTo h paid ≤ upTo h requested

namespace Locked

variable {now : T} {requested waiting paid : List (T × ℕ)}

theorem empty (now : T) : Locked now [] [] [] where
  past := by simp
  settled := by simp
  early := by simp

theorem later {now' : T} (l : Locked now requested waiting paid) (le : now ≤ now') :
    Locked now' requested waiting paid where
  past := fun e member => (l.past e member).trans le
  settled := fun h reached => l.settled h (le.trans reached)
  early := l.early

theorem request (l : Locked now requested waiting paid) (due : T) (amount : ℕ) :
    Locked now (requested ++ [(due, amount)]) (waiting ++ [(due, amount)]) paid where
  past := l.past
  settled := by
    intro h reached
    have before := l.settled h reached
    rw [upTo_snoc, upTo_snoc]
    omega
  early := by
    intro h
    have before := l.early h
    rw [upTo_snoc]
    omega

/-- Everything that is due is paid at once. -/
theorem release (l : Locked now requested waiting paid) :
    Locked now requested (after now waiting) (paid ++ [(now, upTo now waiting)]) where
  past := by
    intro e member
    rcases List.mem_append.mp member with old | new
    · exact l.past e old
    · rw [List.mem_singleton.mp new]
  settled := by
    intro h reached
    have before := l.settled h reached
    have moved := upTo_after reached waiting
    rw [total_snoc]
    omega
  early := by
    intro h
    rw [upTo_snoc]
    by_cases reached : now ≤ h
    · have before := l.settled h reached
      have moved := upTo_after reached waiting
      have everything := upTo_of_le fun e member => (l.past e member).trans reached
      rw [if_pos reached]
      omega
    · rw [if_neg reached]
      exact l.early h

/-- A time lock that has nothing due has paid exactly what was due. -/
theorem exact (l : Locked now requested (after now waiting) paid) :
    upTo now paid = upTo now requested := by
  have everything := upTo_of_le l.past
  have before := l.settled now le_rfl
  have nothing : upTo now (after now waiting) = 0 := by
    have moved := upTo_after (le_refl now) waiting
    omega
  omega

end Locked
end DogetherContracts.TimeLock
