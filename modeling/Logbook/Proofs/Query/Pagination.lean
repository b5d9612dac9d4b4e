import Logbook.Proofs.Number.Rounding
import Logbook.Proofs.Query.Page
import Mathlib.Data.Rat.Floor

/-!
# Answers that are cut into pages

An answer that takes its pages from one list in windows loses and repeats nothing
(`Paginates.of_windows`): the pages up to the last one are the list, all but the last are full, and
those behind it are empty. Which page is the last one is counted with a quotient in doubles, and
that is exact for numbers that doubles hold exactly (`pageCount_eq`).
-/

namespace Logbook

/-- The number of pages that some items take up: the exact quotient, upward. -/
def pagesNeeded (items : Nat) (size : Int) : Int :=
  ⌈(items : ℚ) / size⌉

/-- The number of pages is the exact one for numbers below `2 ^ 53`. -/
theorem pageCount_eq {items : Nat} {size : Int} (pos : 1 ≤ size) (few : (items : Int) < 2 ^ 53)
    (small : size < 2 ^ 53) : pageCount items size = .ok (pagesNeeded items size) := by
  obtain ⟨d, rfl⟩ := Int.eq_ofNat_of_zero_le (by omega : 0 ≤ size)
  have ceil := Double.ceil?_ofRatio (n := items) (d := d) (by omega) (by omega) (by omega)
  have sign : (d : Int).sign = 1 := Int.sign_eq_one_of_pos (by omega)
  rw [pageCount, if_neg (by omega), sign, Int.mul_one, Double.ofQuotient, Int.natAbs_natCast,
    Int.natAbs_natCast, decide_eq_false (by omega), ceil]
  rfl

/-- The pages needed hold all items, and fewer pages do not. -/
theorem pagesNeeded_spec (items : Nat) {size : Nat} (pos : 0 < size) :
    ∃ count : Nat, pagesNeeded items size = count ∧ items ≤ count * size ∧
      ∀ k < count, k * size < items := by
  have places : (0 : ℚ) < size := by exact_mod_cast pos
  refine ⟨⌈(items : ℚ) / size⌉₊, ?_, ?_, ?_⟩
  · rw [pagesNeeded, Int.natCast_ceil_eq_ceil (by positivity), Int.cast_natCast]
  · have above := Nat.le_ceil ((items : ℚ) / size)
    rw [div_le_iff₀ places] at above
    exact_mod_cast above
  · intro k before
    have below := Nat.lt_ceil.1 before
    rw [lt_div_iff₀ places] at below
    exact_mod_cast below

/-- The logs on the first pages of an answer, one page behind the other. -/
def readPages (answer : Int → Except Fault ResultPage) : Nat → Except Fault (List Fields)
  | 0 => .ok []
  | k + 1 => do return (← readPages answer k) ++ (← answer (k + 1)).logs

/-- An answer cuts a list of logs into pages of a size. Every page is answered, from one source and
with the same totals; the pages are together the list; all but the last are full, and the last one
is not empty; behind it there is nothing. -/
structure Paginates (answer : Int → Except Fault ResultPage) (size : Int) (source : Source)
    (logs : List Fields) : Prop where
  answered : ∀ page, 1 ≤ page → ∃ r, answer page = .ok r ∧ r.source = source ∧
    r.total = logs.length ∧ r.pageTotal = .ok (pagesNeeded logs.length size)
  whole : readPages answer (pagesNeeded logs.length size).toNat = .ok logs
  full : ∀ page r, 1 ≤ page → page < pagesNeeded logs.length size → answer page = .ok r →
    r.logs.length = size
  last : ∀ r, 1 ≤ pagesNeeded logs.length size →
    answer (pagesNeeded logs.length size) = .ok r → 1 ≤ r.logs.length ∧ r.logs.length ≤ size
  behind : ∀ page r, pagesNeeded logs.length size < page → answer page = .ok r → r.logs = []

/-- The page of some logs with a number, as it is answered. -/
def ResultPage.cut (source : Source) (page size : Int) (logs : List Fields) : ResultPage where
  logs := pageOf logs page size
  total := logs.length
  page := page
  pageSize := size
  source := source

section Windows

variable {answer : Int → Except Fault ResultPage} {size : Nat} {source : Source}
  {logs : List Fields}

/-- The first pages of an answer in windows are a beginning of the list. -/
theorem readPages_of_windows
    (each : ∀ page, 1 ≤ page → answer page = .ok (.cut source page size logs)) (count : Nat) :
    readPages answer count = .ok (logs.take (count * size)) := by
  induction count with
  | zero =>
    rw [Nat.zero_mul, List.take_zero]
    rfl
  | succ k ih =>
    have next := each (k + 1) (by omega)
    rw [readPages, ih, next, ← take_append_page]
    rfl

/-- Where the window of a page lies, as far as there are logs. -/
theorem length_page (logs : List Fields) (k size : Nat) :
    (pageOf logs (k + 1) size).length = min size (logs.length - k * size) := by
  rw [pageOf_succ, List.length_take, List.length_drop]

/-- An answer in windows of one list cuts the list into pages. -/
theorem Paginates.of_windows (pos : 0 < size) (small : size < 2 ^ 53)
    (few : logs.length < 2 ^ 53)
    (each : ∀ page, 1 ≤ page → answer page = .ok (.cut source page size logs)) :
    Paginates answer size source logs := by
  obtain ⟨count, needed, enough, before⟩ := pagesNeeded_spec logs.length pos
  have total : pageCount logs.length size = .ok (pagesNeeded logs.length size) :=
    pageCount_eq (by omega) (by omega) (by omega)
  -- a page that was answered is the window of its number
  have shown (page : Int) (r : ResultPage) (first : 1 ≤ page) (answered : answer page = .ok r) :
      ∃ k : Nat, page = k + 1 ∧ r.logs.length = min size (logs.length - k * size) := by
    obtain ⟨k, number⟩ := Int.eq_ofNat_of_zero_le (by omega : 0 ≤ page - 1)
    have behind : page = k + 1 := by omega
    rw [each page first] at answered
    cases answered
    refine ⟨k, behind, ?_⟩
    rw [behind]
    exact length_page logs k size
  constructor
  case answered =>
    intro page first
    exact ⟨_, each page first, rfl, rfl, total⟩
  case whole =>
    rw [needed, Int.toNat_natCast, readPages_of_windows each, List.take_of_length_le enough]
  case full =>
    intro page r first inside answered
    obtain ⟨k, rfl, length⟩ := shown page r first answered
    have next := before (k + 1) (by omega)
    rw [Nat.add_mul] at next
    omega
  case last =>
    intro r some_page answered
    obtain ⟨k, number, length⟩ := shown _ r some_page answered
    have inside := before k (by omega)
    omega
  case behind =>
    intro page r past answered
    obtain ⟨k, rfl, length⟩ := shown page r (by omega) answered
    have passed : count * size ≤ k * size := Nat.mul_le_mul_right size (by omega)
    apply List.length_eq_zero_iff.1
    omega

end Windows

end Logbook
