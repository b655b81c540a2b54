import Mathlib

/-! # One greedy pass over a list

The pass takes an entry when it is ready and its weight still fits on top of what
was taken before it. The marks say which entries were taken. -/
namespace DogetherContracts.Greedy

variable {α : Type} (weight : α → ℕ) (ready : α → Bool) (fits : ℕ → Bool)

def marks (taken : ℕ) : List α → List Bool
  | [] => []
  | a :: as =>
    if ready a = true ∧ fits (taken + weight a) = true then true :: marks (taken + weight a) as
    else false :: marks taken as

/-- The entries with the given mark, in their order. -/
def pick (mark : Bool) : List Bool → List α → List α
  | b :: bs, a :: as => if b = mark then a :: pick mark bs as else pick mark bs as
  | _, _ => []

def total (as : List α) : ℕ := (as.map weight).sum

variable {weight ready fits}

@[simp] theorem total_nil : total weight [] = 0 := rfl

@[simp] theorem total_cons (a : α) (as : List α) :
    total weight (a :: as) = weight a + total weight as := by
  simp only [total, List.map_cons, List.sum_cons]

theorem length_marks (taken : ℕ) (as : List α) :
    (marks weight ready fits taken as).length = as.length := by
  induction as generalizing taken with
  | nil => rfl
  | cons a as ih =>
      rw [marks]
      split
      · rw [List.length_cons, ih, List.length_cons]
      · rw [List.length_cons, ih, List.length_cons]

theorem pick_sublist (mark : Bool) (bs : List Bool) (as : List α) :
    (pick mark bs as).Sublist as := by
  induction as generalizing bs with
  | nil =>
      cases bs with
      | nil => exact List.Sublist.refl _
      | cons _ _ => exact List.Sublist.refl _
  | cons a as ih =>
      cases bs with
      | nil => exact List.nil_sublist _
      | cons b bs =>
          rw [pick]
          split
          · exact (ih bs).cons_cons a
          · exact (ih bs).cons a

/-- What is taken and what is left have the weight of the list together. -/
theorem total_pick (weight : α → ℕ) {bs : List Bool} {as : List α} (same : bs.length = as.length) :
    total weight (pick true bs as) + total weight (pick false bs as) = total weight as := by
  induction as generalizing bs with
  | nil =>
      cases bs with
      | nil => rfl
      | cons _ _ => cases same
  | cons a as ih =>
      cases bs with
      | nil => cases same
      | cons b bs =>
          have rest := ih (Nat.succ.inj same)
          cases b with
          | false =>
              rw [pick, if_neg Bool.false_ne_true, pick, if_pos rfl, total_cons, total_cons]
              omega
          | true =>
              rw [pick, if_pos rfl, pick, if_neg Bool.true_eq_false.mp, total_cons, total_cons]
              omega

/-- An entry is taken exactly when it is ready and fits on top of the entries
taken before it. -/
theorem marks_iff {taken i : ℕ} {as : List α} {a : α} (entry : as[i]? = some a) :
    (marks weight ready fits taken as)[i]? = some true ↔ ready a = true ∧
      fits (taken + total weight (pick true ((marks weight ready fits taken as).take i)
        (as.take i)) + weight a) = true := by
  induction as generalizing taken i with
  | nil => cases entry
  | cons b as ih =>
      cases i with
      | zero =>
          obtain rfl : b = a := Option.some.inj entry
          rw [marks]
          split
          · next h => simp [pick, h]
          · next h => simpa [pick] using h
      | succ i =>
          have later : as[i]? = some a := entry
          rw [marks]
          split
          · rw [List.getElem?_cons_succ, ih later, List.take_succ_cons, List.take_succ_cons, pick,
              if_pos rfl, total_cons, Nat.add_assoc taken]
          · rw [List.getElem?_cons_succ, ih later, List.take_succ_cons, List.take_succ_cons, pick,
              if_neg Bool.false_ne_true]

/-- The pass never takes more than fits. -/
theorem fits_total {taken : ℕ} {as : List α} (start : fits taken = true) :
    fits (taken + total weight (pick true (marks weight ready fits taken as) as)) = true := by
  induction as generalizing taken with
  | nil => exact start
  | cons a as ih =>
      rw [marks]
      split
      · next h =>
        rw [pick, if_pos rfl, total_cons, ← Nat.add_assoc]
        exact ih h.2
      · rw [pick, if_neg Bool.false_ne_true]
        exact ih start

/-- Where everything fits, what is left is what is not ready. -/
theorem pick_false_of_fits {taken : ℕ} {as : List α} (all : ∀ n, fits n = true) :
    pick false (marks weight ready fits taken as) as = as.filter fun a => !ready a := by
  induction as generalizing taken with
  | nil => rfl
  | cons a as ih =>
      rw [marks]
      split
      · next h =>
        rw [pick, if_neg Bool.true_eq_false.mp, ih, List.filter_cons_of_neg (by simp [h.1])]
      · next h =>
        have unready : (!ready a) = true := by simpa [all] using h
        rw [pick, if_pos rfl, ih, List.filter_cons, if_pos unready]

/-- The pass takes nothing that is not ready, also by a wider notion of ready. -/
theorem filter_pick {wider : α → Bool} {taken : ℕ} {as : List α}
    (le : ∀ a, ready a = true → wider a = true) :
    (pick false (marks weight ready fits taken as) as).filter (fun a => !wider a) =
      as.filter fun a => !wider a := by
  induction as generalizing taken with
  | nil => rfl
  | cons a as ih =>
      rw [marks]
      split
      · next h =>
        rw [pick, if_neg Bool.true_eq_false.mp, ih, List.filter_cons_of_neg (by simp [le a h.1])]
      · rw [pick, if_pos rfl, List.filter_cons, List.filter_cons, ih]

end DogetherContracts.Greedy
