import Logbook.Log.Deletion
import Mathlib.Tactic.ByContra
import Mathlib.Tactic.NormNum

/-!
# Lists cut into pages

A page of a list is the window behind the pages before it, so the pages up to any one of them are a
beginning of the list (`take_append_page`), and every item stands on a page (`mem_iff_mem_page`).
The batches of a deletion are cut in the same way and lose nothing (`flatten_batches`).
-/

namespace Logbook

variable {α : Type}

/-- The items before a window and those of the window are the items up to its end. -/
theorem take_append_window (xs : List α) (k size : Nat) :
    xs.take (k * size) ++ (xs.drop (k * size)).take size = xs.take ((k + 1) * size) := by
  rw [Nat.add_mul, Nat.one_mul, List.take_add]

theorem clampPlace_of_nonneg {n : Nat} {i : Int} (h : 0 ≤ i) :
    clampPlace n i = min i.toNat n := by
  rw [clampPlace, if_neg (by omega)]

theorem clampPlace_of_neg {n : Nat} {i : Int} (h : i < 0) :
    clampPlace n i = min (i + n).toNat n := by
  rw [clampPlace, if_pos h]

/-- A window that starts at a place counted from the first item. -/
theorem window_natCast (xs : List α) (start size : Nat) :
    window xs start (start + size) = (xs.drop start).take size := by
  have place (n : Nat) : clampPlace xs.length n = min n xs.length :=
    clampPlace_of_nonneg (Int.natCast_nonneg n)
  unfold window
  dsimp only
  rw [show (start : Int) + size = (start + size : Nat) by push_cast; rfl, place, place]
  by_cases inside : start ≤ xs.length
  · rw [Nat.min_eq_left inside, List.take_eq_take_iff, List.length_drop]
    omega
  · have past : xs.length ≤ start := by omega
    rw [Nat.min_eq_right past, List.drop_length, List.drop_of_length_le past]
    simp

/-- The page behind `k` others. -/
theorem pageOf_succ (xs : List α) (k size : Nat) :
    pageOf xs (k + 1) size = (xs.drop (k * size)).take size := by
  have start : ((k : Int) + 1 - 1) * size = (k * size : Nat) := by
    push_cast
    rw [Int.add_sub_cancel]
  unfold pageOf
  simp only [start]
  exact window_natCast xs (k * size) size

/-- The items before a page and those on it are the items up to its end. -/
theorem take_append_page (xs : List α) (k size : Nat) :
    xs.take (k * size) ++ pageOf xs (k + 1) size = xs.take ((k + 1) * size) := by
  rw [pageOf_succ, take_append_window]

/-- A page with nothing on it lies behind all items. -/
theorem length_le_of_page_nil {xs : List α} {k size : Nat} (pos : 0 < size)
    (empty : pageOf xs (k + 1) size = []) : xs.length ≤ k * size := by
  rw [pageOf_succ] at empty
  by_contra inside
  have length := congrArg List.length empty
  simp only [List.length_take, List.length_drop, List.length_nil] at length
  omega

/-- A page of what is made of items is made of the items on the page. -/
theorem map_pageOf {β : Type} (f : α → β) (xs : List α) (page size : Int) :
    (pageOf xs page size).map f = pageOf (xs.map f) page size := by
  unfold pageOf window
  simp only [List.map_take, List.map_drop, List.length_map]

/-- A page holds nothing but items, whatever its number and its size. -/
theorem pageOf_subset (xs : List α) (page size : Int) : pageOf xs page size ⊆ xs :=
  fun _ mem => List.mem_of_mem_drop (List.mem_of_mem_take mem)

/-- A page whose number is above that of the items is empty, whatever its size. -/
theorem pageOf_eq_nil {xs : List α} {page : Int} (size : Int) (behind : xs.length < page) :
    pageOf xs page size = [] := by
  have others : 0 ≤ page - 1 := by omega
  unfold pageOf window
  dsimp only
  rcases lt_trichotomy size 0 with negative | rfl | positive
  · -- such a page ends before the first item
    have start := Int.mul_le_mul_of_nonneg_left (show size ≤ -1 by omega) others
    have stop : clampPlace xs.length ((page - 1) * size + size) = 0 := by
      rw [clampPlace_of_neg (by omega)]
      omega
    rw [stop, Nat.zero_sub, List.take_zero]
  · rw [Int.add_zero, Nat.sub_self, List.take_zero]
  · have start := Int.mul_le_mul_of_nonneg_left (show 1 ≤ size by omega) others
    have first : clampPlace xs.length ((page - 1) * size) = xs.length := by
      rw [clampPlace_of_nonneg (by omega)]
      omega
    rw [first, List.drop_length, List.take_nil]

/-- Every item stands on one of the pages, and the pages hold nothing else. -/
theorem mem_iff_mem_page {xs : List α} {size : Int} (pos : 1 ≤ size) {a : α} :
    a ∈ xs ↔ ∃ page : Int, 1 ≤ page ∧ a ∈ pageOf xs page size := by
  obtain ⟨n, rfl⟩ := Int.eq_ofNat_of_zero_le (by omega : 0 ≤ size)
  have pos : 0 < n := by omega
  constructor
  · intro mem
    obtain ⟨i, inside, rfl⟩ := List.mem_iff_getElem.1 mem
    obtain ⟨k, before⟩ : ∃ k, k = i / n := ⟨_, rfl⟩
    have whole : k * n + i % n = i := before ▸ Nat.div_add_mod' i n
    have rest : i % n < n := Nat.mod_lt i pos
    refine ⟨k + 1, by omega, ?_⟩
    rw [pageOf_succ, List.mem_iff_getElem]
    refine ⟨i % n, by rw [List.length_take, List.length_drop]; omega, ?_⟩
    simp only [List.getElem_take, List.getElem_drop, whole]
  · rintro ⟨page, first, mem⟩
    obtain ⟨k, hk⟩ := Int.eq_ofNat_of_zero_le (by omega : 0 ≤ page - 1)
    have behind : page = k + 1 := by omega
    rw [behind, pageOf_succ] at mem
    exact List.mem_of_mem_drop (List.mem_of_mem_take mem)

/-- The first batches are the items up to the end of the last of them. -/
theorem flatten_windows (xs : List α) (size count : Nat) :
    ((List.range count).map fun i => (xs.drop (i * size)).take size).flatten =
      xs.take (count * size) := by
  induction count with
  | zero => simp
  | succ k ih =>
    rw [List.range_succ, List.map_append, List.flatten_append, ih]
    simpa using take_append_window xs k size

/-- The batches of a list hold its items in order. -/
theorem flatten_batches {size : Nat} (pos : 0 < size) (xs : List α) :
    (batches size xs).flatten = xs := by
  rw [batches, flatten_windows]
  apply List.take_of_length_le
  have count := Nat.div_add_mod' (xs.length + size - 1) size
  have rest := Nat.mod_lt (xs.length + size - 1) pos
  omega

end Logbook
