import Mathlib

/-! # Reading a list page by page

A reader asks for the entries after the last one it has seen, a page at a time,
until a page is empty. -/
namespace DogetherContracts.Paging

/-- A page holds something when neither the limit asked for, nor the default, nor the
cap is zero. -/
theorem capped_pos {α : Type} {size : α → ℕ} {limit : Option α} {default cap : ℕ}
    (defaultPos : 0 < default) (capPos : 0 < cap) (positive : ∀ n, limit = some n → 1 ≤ size n) :
    0 < Nat.min ((limit.map size).getD default) cap := by
  cases limit with
  | none => exact Nat.lt_min.mpr ⟨defaultPos, capPos⟩
  | some n => exact Nat.lt_min.mpr ⟨positive n rfl, capPos⟩

/-- The list `xs` cut into pages of `size` entries, the last of which may be shorter. -/
inductive Pages {α : Type} (size : ℕ) : List α → List (List α) → Prop where
  | done : Pages size [] []
  | page {xs : List α} {pages : List (List α)} (more : xs ≠ [])
      (rest : Pages size (xs.drop size) pages) : Pages size xs (xs.take size :: pages)

namespace Pages

variable {α : Type} {size : ℕ} {xs : List α} {pages : List (List α)}

theorem flatten (h : Pages size xs pages) : pages.flatten = xs := by
  induction h with
  | done => rfl
  | page more rest ih => rw [List.flatten_cons, ih, List.take_append_drop]

theorem ne_nil {page : List α} (h : Pages size xs (page :: pages)) : xs ≠ [] := by
  cases h with
  | page more _ => exact more

/-- Every page but the last one is full. -/
theorem full (h : Pages size xs pages) : ∀ page ∈ pages.dropLast, page.length = size := by
  induction h with
  | done =>
      intro page member
      cases member
  | @page xs pages more rest ih =>
      intro page member
      cases pages with
      | nil => cases member
      | cons next pages =>
          have longer := List.length_pos_of_ne_nil rest.ne_nil
          rw [List.length_drop] at longer
          rcases List.mem_cons.mp member with rfl | later
          · rw [List.length_take]
            omega
          · exact ih page later

theorem bounds (h : Pages size xs pages) (pos : 0 < size) :
    ∀ page ∈ pages, page ≠ [] ∧ page.length ≤ size := by
  induction h with
  | done =>
      intro page member
      cases member
  | @page xs pages more rest ih =>
      intro page member
      rcases List.mem_cons.mp member with rfl | later
      · refine ⟨?_, List.length_take_le size xs⟩
        intro empty
        rcases List.take_eq_nil_iff.mp empty with zero | none
        · omega
        · exact more none
      · exact ih page later

theorem exists_pages (pos : 0 < size) (xs : List α) : ∃ pages, Pages size xs pages := by
  induction hn : xs.length using Nat.strong_induction_on generalizing xs with
  | _ n ih =>
      by_cases empty : xs = []
      · subst empty
        exact ⟨[], .done⟩
      · have longer := List.length_pos_of_ne_nil empty
        have shorter : (xs.drop size).length < n := by
          rw [List.length_drop]
          omega
        obtain ⟨pages, rest⟩ := ih _ shorter (xs.drop size) rfl
        exact ⟨_, .page empty rest⟩

end Pages

section Reader

variable {κ β : Type}

/-- Ask for the page after the key of the last entry seen until a page is empty;
`none` when a query fails or the fuel runs out. -/
def readAll (query : Option κ → Option (List β)) (key : β → κ) :
    ℕ → Option κ → Option (List (List β))
  | 0, _ => none
  | fuel + 1, bound =>
    match query bound with
    | none => none
    | some page =>
      match page.getLast? with
      | none => some []
      | some last => (readAll query key fuel (some (key last))).map (page :: ·)

/-- The query serves `entries` in pages: the first without a bound, and after the
key of an entry what follows that entry. -/
structure Serves (query : Option κ → Option (List β)) (key : β → κ) (entries : List β)
    (size : ℕ) : Prop where
  first : query none = some (entries.take size)
  next : ∀ before e rest, entries = before ++ e :: rest →
    query (some (key e)) = some (rest.take size)

variable {query : Option κ → Option (List β)} {key : β → κ} {entries : List β} {size : ℕ}

theorem Serves.readAll_from (serves : Serves query key entries size) (pos : 0 < size)
    (before : List β) {rest : List β} {pages : List (List β)} {bound : Option κ} {fuel : ℕ}
    (cut : Pages size rest pages) (split : entries = before ++ rest)
    (asked : query bound = some (rest.take size)) (enough : rest.length < fuel) :
    readAll query key fuel bound = some pages := by
  induction cut generalizing before bound fuel with
  | done =>
      cases fuel with
      | zero => cases enough
      | succ fuel =>
          rw [readAll, asked, List.take_nil]
          rfl
  | @page rest pages more later ih =>
      cases fuel with
      | zero => cases enough
      | succ fuel =>
          have shown : rest.take size ≠ [] := by
            intro empty
            rcases List.take_eq_nil_iff.mp empty with zero | none
            · omega
            · exact more none
          obtain ⟨init, last, whole⟩ : ∃ init last, rest.take size = init ++ [last] :=
            ⟨_, _, (List.dropLast_append_getLast shown).symm⟩
          have behind : entries = (before ++ init) ++ last :: rest.drop size :=
            calc entries = before ++ (rest.take size ++ rest.drop size) := by
                  rw [List.take_append_drop, split]
              _ = (before ++ init) ++ last :: rest.drop size := by
                  rw [whole, List.append_assoc, List.append_assoc, List.singleton_append]
          have longer := List.length_pos_of_ne_nil more
          have shorter : (rest.drop size).length < fuel := by
            rw [List.length_drop]
            omega
          have done := ih (before ++ init ++ [last]) (by simpa using behind)
            (serves.next _ _ _ behind) shorter
          rw [readAll, asked, whole]
          simp only [List.getLast?_concat, done, Option.map_some]

/-- Reading to the end yields the pages of the list, with any fuel that exceeds
its length. -/
theorem Serves.readAll_complete (serves : Serves query key entries size) (pos : 0 < size) :
    ∃ pages, Pages size entries pages ∧
      ∀ fuel, entries.length < fuel → readAll query key fuel none = some pages := by
  obtain ⟨pages, cut⟩ := Pages.exists_pages pos entries
  exact ⟨pages, cut, fun fuel enough =>
    serves.readAll_from pos [] cut rfl serves.first enough⟩

end Reader

/-! Sorted keys. -/

section Order

variable {κ : Type} [LinearOrder κ]

/-- In a sorted list the keys after one of its keys are those behind it. -/
theorem filter_after {before rest : List κ} {k : κ}
    (sorted : (before ++ k :: rest).Pairwise (· < ·)) :
    (before ++ k :: rest).filter (fun j => k < j) = rest := by
  obtain ⟨_, tail, across⟩ := List.pairwise_append.mp sorted
  have ahead : before.filter (fun j => k < j) = [] := by
    rw [List.filter_eq_nil_iff]
    intro j member
    have lt := across j member k List.mem_cons_self
    simpa using lt.le
  have behind : rest.filter (fun j => k < j) = rest := by
    rw [List.filter_eq_self]
    intro j member
    simpa using (List.pairwise_cons.mp tail).1 j member
  rw [List.filter_append, ahead, List.nil_append, List.filter_cons_of_neg (by simp), behind]

/-- Among strings of one length a longer bound splits as its prefix does. -/
theorem append_lt_iff {a b : List κ} (suffix : List κ) (same : a.length = b.length) :
    a ++ suffix < b ↔ a < b := by
  induction a generalizing b with
  | nil =>
      obtain rfl := List.length_eq_zero_iff.mp same.symm
      exact iff_of_false (List.not_lt_nil _) (List.not_lt_nil _)
  | cons x a ih =>
      cases b with
      | nil => cases same
      | cons y b =>
          have rest := ih (Nat.succ.inj same)
          rw [List.cons_append, List.cons_lt_cons_iff, List.cons_lt_cons_iff, rest]

end Order

end DogetherContracts.Paging
