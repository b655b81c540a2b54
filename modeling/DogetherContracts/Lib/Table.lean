import Mathlib

/-! # Finite tables and their totals

A table is Mathlib's finite map. `valueAt f m k` weighs the entry under `k`,
zero when there is none, and `total f m` adds the weights of all entries. -/
namespace DogetherContracts

abbrev Table (K V : Type) := Finmap fun _ : K => V

namespace Table

variable {K V : Type} [DecidableEq K]

def valueAt (f : V → ℕ) (m : Table K V) (k : K) : ℕ := ((m.lookup k).map f).getD 0

def total (f : V → ℕ) (m : Table K V) : ℕ := ∑ k ∈ m.keys, valueAt f m k

theorem valueAt_some {f : V → ℕ} {m : Table K V} {k : K} {v : V} (h : m.lookup k = some v) :
    valueAt f m k = f v := by
  simp [valueAt, h]

theorem valueAt_none {f : V → ℕ} {m : Table K V} {k : K} (h : m.lookup k = none) :
    valueAt f m k = 0 := by
  simp [valueAt, h]

/-- Reading with a default of weight zero weighs the entry. -/
theorem valueAt_getD {f : V → ℕ} {m : Table K V} {k : K} {d : V} (hd : f d = 0) :
    valueAt f m k = f ((m.lookup k).getD d) := by
  cases h : m.lookup k with
  | none => simp [valueAt, h, hd]
  | some v => simp [valueAt, h]

theorem lookup_insert_eq (m : Table K V) (k : K) (v : V) : (m.insert k v).lookup k = some v :=
  Finmap.lookup_insert m

theorem lookup_insert_ne (m : Table K V) {k j : K} (v : V) (h : j ≠ k) :
    (m.insert k v).lookup j = m.lookup j :=
  Finmap.lookup_insert_of_ne m h

theorem valueAt_insert_eq (f : V → ℕ) (m : Table K V) (k : K) (v : V) :
    valueAt f (m.insert k v) k = f v :=
  valueAt_some (lookup_insert_eq m k v)

theorem valueAt_insert_ne (f : V → ℕ) (m : Table K V) {k j : K} (v : V) (h : j ≠ k) :
    valueAt f (m.insert k v) j = valueAt f m j := by
  simp only [valueAt, lookup_insert_ne m v h]

theorem keys_insert (m : Table K V) (k : K) (v : V) : (m.insert k v).keys = insert k m.keys := by
  ext j
  simp only [Finmap.mem_keys, Finmap.mem_insert, Finset.mem_insert]

/-- The total over any finite set of keys that covers the table. -/
theorem total_eq_sum {f : V → ℕ} {m : Table K V} {s : Finset K} (cover : m.keys ⊆ s) :
    total f m = ∑ k ∈ s, valueAt f m k := by
  apply Finset.sum_subset cover
  intro k _ absent
  exact valueAt_none (Finmap.lookup_eq_none.mpr (fun member => absent (Finmap.mem_keys.mpr member)))

@[simp] theorem total_empty (f : V → ℕ) : total f (∅ : Table K V) = 0 := by
  simp [total]

/-- Writing an entry adds its weight and removes the weight it replaces. -/
theorem total_insert (f : V → ℕ) (m : Table K V) (k : K) (v : V) :
    total f (m.insert k v) + valueAt f m k = total f m + f v := by
  have others : ∑ j ∈ (insert k m.keys).erase k, valueAt f (m.insert k v) j =
      ∑ j ∈ (insert k m.keys).erase k, valueAt f m j := by
    apply Finset.sum_congr rfl
    intro j member
    exact valueAt_insert_ne f m v (Finset.ne_of_mem_erase member)
  have after := Finset.add_sum_erase _ (valueAt f (m.insert k v)) (Finset.mem_insert_self k m.keys)
  have before := Finset.add_sum_erase _ (valueAt f m) (Finset.mem_insert_self k m.keys)
  rw [valueAt_insert_eq, others] at after
  rw [total_eq_sum (keys_insert m k v).subset, total_eq_sum (Finset.subset_insert k m.keys),
    ← after, ← before]
  omega

theorem valueAt_le_total (f : V → ℕ) (m : Table K V) (k : K) : valueAt f m k ≤ total f m := by
  rw [total_eq_sum (Finset.subset_insert k m.keys)]
  exact Finset.single_le_sum (f := valueAt f m) (fun _ _ => Nat.zero_le _)
    (Finset.mem_insert_self k m.keys)

/-- So do the entries under any list of different keys. -/
theorem sum_le_total (f : V → ℕ) (m : Table K V) {ks : List K} (distinct : ks.Nodup) :
    (ks.map (valueAt f m)).sum ≤ total f m := by
  rw [← List.sum_toFinset _ distinct,
    total_eq_sum (s := m.keys ∪ ks.toFinset) Finset.subset_union_left]
  exact Finset.sum_le_sum_of_subset Finset.subset_union_right

/-- A list of different keys that leaves none out adds up to the total. -/
theorem sum_of_cover {f : V → ℕ} {m : Table K V} {ks : List K} (distinct : ks.Nodup)
    (cover : ∀ k ∈ m.keys, k ∈ ks) : (ks.map (valueAt f m)).sum = total f m := by
  have keys : m.keys ⊆ ks.toFinset := fun k member => List.mem_toFinset.mpr (cover k member)
  rw [← List.sum_toFinset _ distinct, total_eq_sum keys]

theorem total_congr {f g : V → ℕ} {m : Table K V}
    (same : ∀ k v, m.lookup k = some v → f v = g v) : total f m = total g m := by
  apply Finset.sum_congr rfl
  intro k _
  cases h : m.lookup k with
  | none => rw [valueAt_none h, valueAt_none h]
  | some v => rw [valueAt_some h, valueAt_some h, same k v h]

theorem total_add (f g : V → ℕ) (m : Table K V) :
    total (fun v => f v + g v) m = total f m + total g m := by
  simp only [total, ← Finset.sum_add_distrib]
  apply Finset.sum_congr rfl
  intro k _
  cases h : m.lookup k <;> simp [valueAt, h]

theorem total_mul_left (c : ℕ) (f : V → ℕ) (m : Table K V) :
    total (fun v => c * f v) m = c * total f m := by
  simp only [total, Finset.mul_sum]
  apply Finset.sum_congr rfl
  intro k _
  cases h : m.lookup k <;> simp [valueAt, h]

end Table
end DogetherContracts
