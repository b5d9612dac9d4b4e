import Logbook.Text.Integer
import Logbook.Time.Moment
import Mathlib.Algebra.Ring.Nat
import Mathlib.Data.List.Induction

/-!
# Numerals

A text of decimal digits is a numeral of a number. In ASCII a number has just one numeral of a width,
the padded one (`Text.digitsValue?_eq_some_iff`), and the value of a numeral is the one that the library
gives it (`Text.digitsValue?_of_digits`).
-/

namespace Logbook

namespace Text

/-- A text is in ASCII if the test of its characters says so. -/
theorem ascii_of_all {s : List Char} (all : s.all (·.toNat < 128) = true) :
    ∀ c ∈ s, c.toNat < 128 := by
  simpa only [List.all_eq_true, decide_eq_true_eq] using all

theorem digitValue?_digitChar {v : Nat} (small : v < 10) : digitValue? (Nat.digitChar v) = some v := by
  revert v
  decide

/-- In ASCII a digit is written in one way. -/
theorem eq_digitChar_of_digitValue? {c : Char} (ascii : c.toNat < 128) {v : Nat}
    (value : digitValue? c = some v) : c = Nat.digitChar v := by
  have far : ∀ z ∈ digitZeros, z = 48 ∨ 128 ≤ z := by decide
  obtain ⟨z, found, rfl⟩ := Option.map_eq_some_iff.1 value
  have between := List.find?_some found
  simp only [Bool.and_eq_true, decide_eq_true_eq] at between
  obtain rfl | beyond := far z (List.mem_of_find?_eq_some found)
  · refine Char.toNat_inj.1 ?_
    rw [Nat.toNat_digitChar_of_lt_ten (by omega)]
    omega
  · omega

/-- A digit of ASCII has the value that the library gives it. -/
theorem digitValue?_of_isDigit {c : Char} (digit : c.isDigit = true) :
    digitValue? c = some (c.toNat - '0'.toNat) := by
  obtain ⟨least, most⟩ := Char.isDigit_iff_toNat.1 digit
  rw [show '0'.toNat = 48 from rfl] at *
  rw [show '9'.toNat = 57 from rfl] at most
  have char : c = Nat.digitChar (c.toNat - 48) := by
    refine Char.toNat_inj.1 ?_
    rw [Nat.toNat_digitChar_of_lt_ten (by omega)]
    omega
  have value := digitValue?_digitChar (v := c.toNat - 48) (by omega)
  rwa [← char] at value

/-- The digits of ASCII are those that the library has. -/
theorem isDigit_iff_of_ascii {c : Char} (ascii : c.toNat < 128) :
    isDigit c = true ↔ c.isDigit = true := by
  constructor
  · intro digit
    obtain ⟨v, value⟩ := Option.isSome_iff_exists.1 digit
    rw [eq_digitChar_of_digitValue? ascii value, Nat.isDigit_digitChar]
    exact decide_eq_true (digitValue?_lt value)
  · intro digit
    exact Option.isSome_iff_exists.2 ⟨_, digitValue?_of_isDigit digit⟩

/-- A text of ASCII digits is a numeral of the number that the library reads in it. -/
theorem digitsValue?_of_digits {s : List Char} (digits : ∀ c ∈ s, c.isDigit = true) :
    digitsValue? s = some (Nat.ofDigitChars 10 s 0) := by
  -- more generally, behind what was read before
  suffices behind : ∀ n, s.foldl (fun acc c => do return 10 * (← acc) + (← digitValue? c)) (some n) =
      some (Nat.ofDigitChars 10 s n) from behind 0
  induction s with
  | nil => exact fun n => rfl
  | cons c r ih =>
    intro n
    rw [List.foldl_cons, digitValue?_of_isDigit (digits c (List.mem_cons_self ..)),
      Nat.ofDigitChars_cons]
    exact ih (fun d mem => digits d (List.mem_cons_of_mem c mem)) _

/-- The last digit of a numeral counts the ones. -/
theorem digitsValue?_concat_eq_some_iff {s : List Char} {c : Char} {n : Nat} :
    digitsValue? (s ++ [c]) = some n ↔
      digitsValue? s = some (n / 10) ∧ digitValue? c = some (n % 10) := by
  have step : digitsValue? (s ++ [c]) =
      (digitsValue? s).bind fun m => (digitValue? c).bind fun v => some (10 * m + v) := by
    unfold digitsValue?
    rw [List.foldl_append]
    rfl
  rw [step]
  constructor
  · intro value
    obtain ⟨m, front, value⟩ := Option.bind_eq_some_iff.1 value
    obtain ⟨v, last, value⟩ := Option.bind_eq_some_iff.1 value
    have small := digitValue?_lt last
    cases value
    rw [front, last]
    constructor <;> congr 1 <;> omega
  · rintro ⟨front, last⟩
    rw [front, last]
    exact congrArg some (Nat.div_add_mod n 10)

end Text

section Padded

theorem toList_padded_one {n : Nat} (small : n < 10) : (padded 1 n).toList = [Nat.digitChar n] := by
  simp [padded, Nat.toDigits_of_lt_base small]

/-- A padded numeral ends with the ones. -/
theorem toList_padded_succ {width : Nat} (given : 0 < width) (n : Nat) :
    (padded (width + 1) n).toList = (padded width (n / 10)).toList ++ [Nat.digitChar (n % 10)] := by
  simp only [padded, String.toList_ofList]
  rw [Nat.toDigits_eq_if (by omega) (n := n)]
  split_ifs with small
  · have zero : n / 10 = 0 := by omega
    obtain ⟨w, rfl⟩ : ∃ w, width = w + 1 := ⟨width - 1, by omega⟩
    rw [zero, Nat.toDigits_zero, Nat.mod_eq_of_lt small]
    simp [List.replicate_succ']
  · rw [List.length_append, List.length_singleton, Nat.add_sub_add_right, List.append_assoc]

end Padded

namespace Text

/-- In ASCII the numeral of a number is the padded one of its width. -/
theorem digitsValue?_eq_some_iff {s : List Char} (ascii : ∀ c ∈ s, c.toNat < 128) (filled : s ≠ [])
    {n : Nat} : digitsValue? s = some n ↔ n < 10 ^ s.length ∧ s = (padded s.length n).toList := by
  induction s using List.reverseRecOn generalizing n with
  | nil => exact absurd rfl filled
  | append_singleton r c ih =>
    have last : digitValue? c = some (n % 10) ↔ c = Nat.digitChar (n % 10) := by
      refine ⟨eq_digitChar_of_digitValue? (ascii c (by simp)), ?_⟩
      rintro rfl
      exact digitValue?_digitChar (Nat.mod_lt n (by omega))
    rw [digitsValue?_concat_eq_some_iff, last, List.length_append, List.length_singleton]
    by_cases alone : r = []
    · subst alone
      rw [List.length_nil, List.nil_append, Nat.zero_add, Nat.pow_one]
      constructor
      · rintro ⟨zero, rfl⟩
        have small : n < 10 := by
          have : 0 = n / 10 := Option.some.inj zero
          omega
        rw [toList_padded_one small, Nat.mod_eq_of_lt small]
        exact ⟨small, rfl⟩
      · rintro ⟨small, digit⟩
        rw [toList_padded_one small] at digit
        rw [Nat.mod_eq_of_lt small, Nat.div_eq_of_lt small]
        exact ⟨rfl, (List.cons.inj digit).1⟩
    · rw [ih (fun d mem => ascii d (by simp [mem])) alone,
        toList_padded_succ (List.length_pos_iff.2 alone), List.append_singleton_inj, Nat.pow_succ,
        Nat.div_lt_iff_lt_mul (by omega)]
      exact and_assoc

theorem length_padded {width n : Nat} (given : 0 < width) (small : n < 10 ^ width) :
    (padded width n).toList.length = width := by
  have digits := (Nat.length_toDigits_le_iff (by omega) given).2 small
  simp only [padded, String.toList_ofList, List.length_append, List.length_replicate]
  omega

theorem isDigit_of_mem_padded {width n : Nat} {c : Char} (mem : c ∈ (padded width n).toList) :
    c.isDigit = true := by
  simp only [padded, String.toList_ofList, List.mem_append, List.mem_replicate] at mem
  rcases mem with ⟨-, rfl⟩ | mem
  · rfl
  · exact Nat.isDigit_of_mem_toDigits (by omega) (by omega) mem

/-- A padded numeral is read back. -/
theorem digitsValue?_padded {width n : Nat} (given : 0 < width) (small : n < 10 ^ width) :
    digitsValue? (padded width n).toList = some n := by
  have length := length_padded given small
  refine (digitsValue?_eq_some_iff ?_ ?_).2 ⟨by rwa [length], by rw [length]⟩
  · intro c mem
    have := (Char.isDigit_iff_toNat.1 (isDigit_of_mem_padded mem)).2
    rw [show '9'.toNat = 57 from rfl] at this
    omega
  · exact List.ne_nil_of_length_pos (by omega)

/-- Texts that start with numerals of one width are equal only if the numbers and the rests are. -/
theorem padded_append_inj {width n n' : Nat} {r r' : List Char} (given : 0 < width)
    (small : n < 10 ^ width) (small' : n' < 10 ^ width)
    (same : (padded width n).toList ++ r = (padded width n').toList ++ r') : n = n' ∧ r = r' := by
  have length : (padded width n).toList.length = (padded width n').toList.length := by
    rw [length_padded given small, length_padded given small']
  obtain ⟨numerals, rests⟩ := List.append_inj same length
  have read := digitsValue?_padded given small
  rw [numerals, digitsValue?_padded given small'] at read
  exact ⟨(Option.some.inj read).symm, rests⟩

end Text

end Logbook
