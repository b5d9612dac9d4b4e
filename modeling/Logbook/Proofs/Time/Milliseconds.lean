import Logbook.Number.Word
import Logbook.Proofs.Number.Nearest
import Logbook.Proofs.Time.Calendar
import Logbook.Time.Epoch

/-!
# Milliseconds through doubles

The milliseconds of a moment come from two roundings and a cut toward zero, the same on either side of
1970 (`epochMs_eq`). They are in the order of the moments (`epochMs_mono`), exact for whole seconds
(`epochMs_whole`) and at most one off for all others (`abs_epochMs_sub_le`). A thousandth of a second
beside a whole one may be lost: the seconds have a place less than the milliseconds where a number of
milliseconds is next above a power of two. The last millisecond of a day is lost so in eight runs of
days, four before and four after 1970 (`epochMs_dayEnd`).
-/

namespace Logbook

/-- A moment, in microseconds, is at most `2 ^ 40` seconds from the start of 1970. -/
def InReach (micros : Int) : Prop :=
  -(2 ^ 40 * 1000000) ≤ micros ∧ micros ≤ 2 ^ 40 * 1000000

section Milliseconds

open Double

/-- The integer part of a finite double. -/
theorem truncate?_finite (negative : Bool) (m : Nat) (e : Int) :
    truncate? (.finite negative m e) =
      some (if negative then -⌊(m : ℚ) * 2 ^ e⌋ else ⌊(m : ℚ) * 2 ^ e⌋) := by
  obtain ⟨-, same⟩ := magnitude_ratio m e
  have whole : ⌊(m : ℚ) * 2 ^ e⌋ = ((magnitude m e).1 / (magnitude m e).2 : Nat) := by
    rw [← same, Int.natCast_div]
    exact Rat.floor_intCast_div_natCast ((magnitude m e).1 : Int) (magnitude m e).2
  rw [whole]
  cases negative <;> simp [truncate?, ratio?, Int.neg_tdiv]

/-- The milliseconds of a distance from the start of 1970 in microseconds. -/
def millis (n : Nat) : Int :=
  ⌊near (near ((n : ℚ) / 1000000) * 1000)⌋

/-- The milliseconds are those of the distance from the start of 1970, with the sign of the moment. -/
theorem epochMs_eq {micros : Int} (reach : InReach micros) :
    epochMs micros = if micros < 0 then -millis micros.natAbs else millis micros.natAbs := by
  obtain ⟨low, high⟩ := reach
  have within : (micros.natAbs : ℚ) / 1000000 ≤ (2 ^ 40 : Nat) := by
    have whole : micros.natAbs ≤ 2 ^ 40 * 1000000 := by omega
    rw [div_le_iff₀ (by norm_num)]
    exact_mod_cast whole
  obtain ⟨m, e, seconds⟩ := exists_finite (micros < 0) (n := micros.natAbs) (d := 1000000)
    (by norm_num) ((show _ ≤ _ from by exact_mod_cast within).trans_lt (by norm_num))
  have size := size_eq_near (by norm_num) seconds
  have bounded : near ((micros.natAbs : ℚ) / 1000000) ≤ (2 ^ 40 : Nat) :=
    (near_mono (by positivity) within).trans_eq (near_natCast (by norm_num))
  -- a thousand times as much is finite, too
  obtain ⟨pos, same⟩ := magnitude_ratio m e
  have thousand : (((magnitude m e).1 * 1000 : Nat) : ℚ) / (magnitude m e).2 =
      near ((micros.natAbs : ℚ) / 1000000) * 1000 := by
    rw [Nat.cast_mul, mul_div_right_comm, same, size]
    norm_num
  obtain ⟨m', e', product⟩ := exists_finite (micros < 0) pos (n := (magnitude m e).1 * 1000) (by
    rw [thousand]
    norm_num at bounded ⊢
    linarith)
  have size' := size_eq_near pos product
  rw [thousand] at size'
  have times : times (finite (decide (micros < 0)) m e) 1000 =
      finite (decide (micros < 0)) m' e' := product
  rw [epochMs, ofQuotient, seconds, times, truncate?_finite, size']
  simp only [Option.getD_some, decide_eq_true_eq]
  rfl

theorem millis_mono {n n' : Nat} (order : n ≤ n') : millis n ≤ millis n' := by
  have numerators : (n : ℚ) ≤ n' := by exact_mod_cast order
  have seconds : near ((n : ℚ) / 1000000) ≤ near ((n' : ℚ) / 1000000) :=
    near_mono (by positivity) (by gcongr)
  refine Int.floor_le_floor (near_mono ?_ (by gcongr))
  exact mul_nonneg (near_nonneg _) (by norm_num)

theorem millis_nonneg (n : Nat) : 0 ≤ millis n :=
  Int.floor_nonneg.2 (near_nonneg _)

/-- Whole seconds have their exact milliseconds. -/
theorem millis_whole {s : Nat} (small : s ≤ 2 ^ 40) : millis (s * 1000000) = s * 1000 := by
  have seconds : ((s * 1000000 : Nat) : ℚ) / 1000000 = (s : Nat) := by
    push_cast
    exact mul_div_cancel_right₀ _ (by norm_num)
  have product : (s : ℚ) * 1000 = ((s * 1000 : Nat) : ℚ) := by push_cast; rfl
  rw [millis, seconds, near_natCast (by omega), product, near_natCast (by omega), Int.floor_natCast]
  push_cast
  rfl

/-- A later moment has no fewer milliseconds. -/
theorem epochMs_mono {a b : Int} (reach : InReach a) (reach' : InReach b) (order : a ≤ b) :
    epochMs a ≤ epochMs b := by
  have natural := millis_nonneg a.natAbs
  have natural' := millis_nonneg b.natAbs
  rw [epochMs_eq reach, epochMs_eq reach']
  split_ifs with before before'
  · have := millis_mono (show b.natAbs ≤ a.natAbs by omega)
    omega
  · omega
  · omega
  · exact millis_mono (by omega)

/-- Whole seconds have their exact milliseconds, also before 1970. -/
theorem epochMs_whole {s : Int} (reach : InReach (s * 1000000)) : epochMs (s * 1000000) = s * 1000 := by
  have size : (s * 1000000).natAbs = s.natAbs * 1000000 := by omega
  have small : s.natAbs ≤ 2 ^ 40 := by
    obtain ⟨low, high⟩ := reach
    omega
  rw [epochMs_eq reach, size, millis_whole small]
  split_ifs <;> omega

/-- The milliseconds of a moment within reach are a word. -/
theorem epochMs_holds {micros : Int} (reach : InReach micros) : Word.holds (epochMs micros) = true := by
  have least := millis_nonneg micros.natAbs
  have most : millis micros.natAbs ≤ millis (2 ^ 40 * 1000000) := by
    obtain ⟨low, high⟩ := reach
    exact millis_mono (by omega)
  rw [millis_whole (Nat.le_refl _)] at most
  rw [epochMs_eq reach, Word.holds, Word.least, Word.greatest]
  simp only [Bool.and_eq_true, decide_eq_true_eq]
  split_ifs <;> omega

/-- Numbers that are less than one apart have integer parts that are no more than one apart. -/
theorem abs_floor_sub_floor_le {x y : ℚ} (close : |x - y| < 1) : |⌊x⌋ - ⌊y⌋| ≤ 1 := by
  rw [abs_sub_lt_iff] at close
  have below : ⌊x⌋ < ⌊y⌋ + 2 := by
    rw [Int.floor_lt]
    have := Int.lt_floor_add_one y
    push_cast
    linarith
  have above : ⌊y⌋ < ⌊x⌋ + 2 := by
    rw [Int.floor_lt]
    have := Int.lt_floor_add_one x
    push_cast
    linarith
  rw [abs_sub_le_iff]
  omega

/-- The two roundings together carry a number of milliseconds by less than one. -/
theorem abs_near_near_sub_lt {n : Nat} (small : n ≤ 2 ^ 40 * 1000000) :
    |near (near ((n : ℚ) / 1000000) * 1000) - n / 1000| < 1 := by
  have few : (n : ℚ) / 1000000 ≤ 2 ^ 40 := by
    rw [div_le_iff₀ (by norm_num)]
    exact_mod_cast small
  have seconds := abs_near_sub_le (q := (n : ℚ) / 1000000) (e := -12) (by positivity) (by norm_num)
    (few.trans_lt (by norm_num))
  have natural := near_nonneg ((n : ℚ) / 1000000)
  obtain ⟨low, high⟩ := abs_sub_le_iff.1 seconds
  have places : (2 : ℚ) ^ (-12 : Int) / 2 = 1 / 8192 := by norm_num
  rw [places] at low high
  have product := abs_near_sub_le (q := near ((n : ℚ) / 1000000) * 1000) (e := -3) (by positivity)
    (by norm_num) (by norm_num at few ⊢; linarith)
  obtain ⟨low', high'⟩ := abs_sub_le_iff.1 product
  have places' : (2 : ℚ) ^ (-3 : Int) / 2 = 1 / 16 := by norm_num
  rw [places'] at low' high'
  rw [abs_sub_lt_iff]
  constructor <;> linarith

/-- The milliseconds of a distance are at most one off from it. -/
theorem abs_millis_sub_le {n : Nat} (small : n ≤ 2 ^ 40 * 1000000) :
    |millis n - (n / 1000 : Nat)| ≤ 1 := by
  have whole : ((n / 1000 : Nat) : Int) = ⌊(n : ℚ) / 1000⌋ := by
    have floor := Rat.floor_intCast_div_natCast n 1000
    push_cast at floor ⊢
    exact floor.symm
  rw [whole]
  exact abs_floor_sub_floor_le (abs_near_near_sub_lt small)

/-- The milliseconds of a moment within reach are at most one off from the exact ones cut toward zero. -/
theorem abs_epochMs_sub_le {micros : Int} (reach : InReach micros) :
    |epochMs micros - micros.tdiv 1000| ≤ 1 := by
  have ⟨low, high⟩ := reach
  have close := abs_millis_sub_le (n := micros.natAbs) (by omega)
  rw [epochMs_eq reach]
  split
  · next before =>
    have exact_ms : micros.tdiv 1000 = -(micros.natAbs / 1000 : Nat) := by
      obtain ⟨n, rfl⟩ : ∃ n : Nat, micros = -n := ⟨micros.natAbs, by omega⟩
      rw [Int.neg_tdiv, Int.natAbs_neg]
      rfl
    rw [exact_ms, ← neg_add', abs_neg, ← sub_eq_add_neg]
    exact close
  · next after =>
    have exact_ms : micros.tdiv 1000 = (micros.natAbs / 1000 : Nat) := by
      obtain ⟨n, rfl⟩ := Int.eq_ofNat_of_zero_le (not_lt.1 after)
      rfl
    rw [exact_ms]
    exact close

end Milliseconds

section DayEnds

open Double

variable {p m : Nat} {r s t v σ : Int}

/-- A thousandth of a second more or less is rounded to the multiple of the last place next to it. -/
theorem near_seconds (places : p + m = 42) (low : 2 ^ p < s) (high : s < 2 ^ (p + 1))
    (unit : σ = 1 ∨ σ = -1) (close : |2 ^ (m + 10) - 1000 * r| < 500) :
    near ((s : ℚ) + σ / 1000) = s + σ * r / 2 ^ (m + 10) := by
  have small : |(σ : ℚ) / 1000| ≤ 1 / 1000 := by
    rcases unit with rfl | rfl <;> norm_num
  rw [abs_le] at small
  have least : (2 : ℚ) ^ p + 1 ≤ s := by exact_mod_cast low
  have most : (s : ℚ) + 1 ≤ 2 ^ (p + 1) := by exact_mod_cast high
  have close : |(2 : ℚ) ^ (m + 10) - 1000 * r| < 500 := by exact_mod_cast close
  have miss : ((s : ℚ) + σ / 1000) * 2 ^ (m + 10) - ((s * 2 ^ (m + 10) + σ * r : Int) : ℚ) =
      σ * ((2 ^ (m + 10) - 1000 * r) / 1000) := by
    push_cast
    ring
  rw [near_eq_div (p := p) (j := m + 10) (c := s * 2 ^ (m + 10) + σ * r) (by omega) (by linarith)
    (by linarith)]
  · push_cast
    field_simp
  · rw [miss, abs_mul, abs_div]
    rcases unit with rfl | rfl <;> norm_num <;> linarith

/-- What the rounded seconds miss, a thousand times, is less than a millisecond. -/
theorem rest_lt_one (m : Nat) (few : |t| < 500) : |(t : ℚ) / 2 ^ (m + 10)| < 1 := by
  have one : (1 : ℚ) ≤ 2 ^ m := one_le_pow₀ (by norm_num)
  have few : |(t : ℚ)| < 500 := by exact_mod_cast few
  rw [abs_div, abs_of_pos (by positivity : (0 : ℚ) < 2 ^ (m + 10)), div_lt_one (by positivity),
    pow_add]
  linarith

/-- Milliseconds with ten places less than the seconds behind the point are rounded to whole ones. -/
theorem near_coarse (places : p + m = 42) (low : 2 ^ (p + 10) < v) (high : v < 2 ^ (p + 11))
    (few : |t| < 500) : near ((v : ℚ) - t / 2 ^ (m + 10)) = v := by
  have least : (2 : ℚ) ^ (p + 10) + 1 ≤ v := by exact_mod_cast low
  have most : (v : ℚ) + 1 ≤ 2 ^ (p + 11) := by exact_mod_cast high
  have small := abs_lt.1 (rest_lt_one m few)
  have few : |(t : ℚ)| < 500 := by exact_mod_cast few
  have miss : ((v : ℚ) - t / 2 ^ (m + 10)) * 2 ^ m - ((v * 2 ^ m : Int) : ℚ) = -t / 1024 := by
    push_cast
    field_simp
    ring
  rw [near_eq_div (p := p + 10) (j := m) (c := v * 2 ^ m) (by omega) (by linarith) (by linarith)]
  · push_cast
    field_simp
  · rw [miss, abs_div, abs_neg]
    norm_num
    linarith

/-- Milliseconds with nine places less than the seconds behind the point are rounded to the multiple of
the last place that is next to what the seconds miss. -/
theorem near_fine (places : p + m = 42) (low : 2 ^ (p + 9) < v) (high : v < 2 ^ (p + 10))
    (few : |t| < 500) {w : Int} (close : |512 * w - t| < 256) :
    near ((v : ℚ) - t / 2 ^ (m + 10)) = v - w / 2 ^ (m + 1) := by
  have least : (2 : ℚ) ^ (p + 9) + 1 ≤ v := by exact_mod_cast low
  have most : (v : ℚ) + 1 ≤ 2 ^ (p + 10) := by exact_mod_cast high
  have small := abs_lt.1 (rest_lt_one m few)
  have close : |512 * (w : ℚ) - t| < 256 := by exact_mod_cast close
  have miss : ((v : ℚ) - t / 2 ^ (m + 10)) * 2 ^ (m + 1) - ((v * 2 ^ (m + 1) - w : Int) : ℚ) =
      (512 * w - t) / 512 := by
    push_cast
    field_simp
    ring
  rw [near_eq_div (p := p + 9) (j := m + 1) (c := v * 2 ^ (m + 1) - w) (by omega) (by linarith)
    (by linarith)]
  · push_cast
    field_simp
  · rw [miss, abs_div]
    norm_num
    linarith

/-- A place beside a whole number leads to the number or to the one below it. -/
theorem floor_sub_place (v : Int) (m : Nat) {w : Int} (place : w = 1 ∨ w = 0 ∨ w = -1) :
    ⌊(v : ℚ) - w / 2 ^ (m + 1)⌋ = v - if w = 1 then 1 else 0 := by
  have half : (2 : ℚ) ≤ 2 ^ (m + 1) := by
    have : (1 : ℚ) ≤ 2 ^ m := one_le_pow₀ (by norm_num)
    rw [pow_succ]
    linarith
  have part : 0 < 1 / (2 : ℚ) ^ (m + 1) ∧ 1 / (2 : ℚ) ^ (m + 1) < 1 := by
    refine ⟨by positivity, ?_⟩
    rw [div_lt_one (by positivity)]
    linarith
  rw [Int.floor_eq_iff]
  rcases place with rfl | rfl | rfl
  · simp only [if_pos]
    push_cast
    constructor <;> linarith
  · simp
  · simp only [reduceCtorEq, if_false]
    push_cast
    rw [neg_div]
    constructor <;> linarith

/-- The milliseconds are cut to the number that is sought, or to the one below where they have nine
places less than the seconds and more than half of a place is missing. -/
theorem floor_near (places : p + m = 42) (low : 2 ^ (p + 9) < v) (high : v < 2 ^ (p + 11))
    (odd : v ≠ 2 ^ (p + 10)) (few : |t| < 500) (apart : |t| ≠ 256) :
    ⌊near ((v : ℚ) - t / 2 ^ (m + 10))⌋ = v - if v < 2 ^ (p + 10) ∧ 256 < t then 1 else 0 := by
  rcases lt_or_gt_of_ne odd with fine | coarse
  · obtain ⟨w, place, close, lost⟩ : ∃ w : Int, (w = 1 ∨ w = 0 ∨ w = -1) ∧ |512 * w - t| < 256 ∧
        (w = 1 ↔ 256 < t) := by
      rw [abs_lt] at few
      rcases lt_trichotomy t (-256) with below | same | above
      · exact ⟨-1, by omega, by rw [abs_lt]; omega, by omega⟩
      · exact absurd (by rw [same]; rfl) apart
      · rcases lt_trichotomy t 256 with below | same | above
        · exact ⟨0, by omega, by rw [abs_lt]; omega, by omega⟩
        · exact absurd (by rw [same]; rfl) apart
        · exact ⟨1, by omega, by rw [abs_lt]; omega, by omega⟩
    rw [near_fine places low fine few close, floor_sub_place v m place]
    simp only [lost, fine, true_and]
  · rw [near_coarse places coarse high few, Int.floor_intCast, if_neg (by omega), Int.sub_zero]

/-- The milliseconds of a thousandth of a second beside a whole one. -/
theorem millis_beside (places : p + m = 42) (low : 2 ^ p < s) (high : s < 2 ^ (p + 1))
    (unit : σ = 1 ∨ σ = -1) (close : |2 ^ (m + 10) - 1000 * r| < 500)
    (apart : |2 ^ (m + 10) - 1000 * r| ≠ 256) {n : Nat} (beside : (n : Int) = s * 1000000 + σ * 1000) :
    millis n = s * 1000 + σ -
      if s * 1000 + σ < 2 ^ (p + 10) ∧ 256 < σ * (2 ^ (m + 10) - 1000 * r) then 1 else 0 := by
  have seconds : (n : ℚ) / 1000000 = s + σ / 1000 := by
    have : (n : ℚ) = s * 1000000 + σ * 1000 := by exact_mod_cast beside
    rw [this]
    ring
  have product : ((s : ℚ) + σ * r / 2 ^ (m + 10)) * 1000 =
      ((s * 1000 + σ : Int) : ℚ) - ((σ * (2 ^ (m + 10) - 1000 * r) : Int) : ℚ) / 2 ^ (m + 10) := by
    push_cast
    field_simp
    ring
  have size : |σ * (2 ^ (m + 10) - 1000 * r)| = |2 ^ (m + 10) - 1000 * r| := by
    rw [abs_mul]
    rcases unit with rfl | rfl <;> simp
  have powers : (2 : Int) ^ (p + 1) = 2 * 2 ^ p ∧ (2 : Int) ^ (p + 9) = 512 * 2 ^ p ∧
      (2 : Int) ^ (p + 10) = 1024 * 2 ^ p ∧ (2 : Int) ^ (p + 11) = 2048 * 2 ^ p := by
    refine ⟨?_, ?_, ?_, ?_⟩ <;> rw [pow_add] <;> ring
  obtain ⟨two, nine, ten, eleven⟩ := powers
  rw [millis, seconds, near_seconds places low high unit close, product,
    floor_near places ?_ ?_ ?_ (by rw [size]; exact close) (by rw [size]; exact apart)]
  all_goals omega

/-- The powers of two next above which a thousandth of a second is lost beside whole ones: those before
1970, where it is added to them, and those after it, where it is taken off. -/
def losing (σ : Int) : List Nat :=
  if σ = 1 then [17, 20, 24, 27, 30, 33] else [16, 19, 21, 25, 29, 32, 36]

/-- How a thousandth of a second is rounded that stands beside seconds of `p + 1` bits. -/
theorem thousandth_spec (low : 16 ≤ p) (high : p < 38) (unit : σ = 1 ∨ σ = -1) :
    ∃ r : Int, |2 ^ (42 - p + 10) - 1000 * r| < 500 ∧ |2 ^ (42 - p + 10) - 1000 * r| ≠ 256 ∧
      (256 < σ * (2 ^ (42 - p + 10) - 1000 * r) ↔ p ∈ losing σ) := by
  have table : ∀ p < 38, 16 ≤ p → ∀ σ ∈ [1, -1],
      |2 ^ (42 - p + 10) - 1000 * (roundQuotient (2 ^ (42 - p + 10)) 1000 : Int)| < 500 ∧
      |2 ^ (42 - p + 10) - 1000 * (roundQuotient (2 ^ (42 - p + 10)) 1000 : Int)| ≠ 256 ∧
      (256 < σ * (2 ^ (42 - p + 10) - 1000 * (roundQuotient (2 ^ (42 - p + 10)) 1000 : Int)) ↔
        p ∈ losing σ) := by
    decide +kernel
  exact ⟨_, table p high low σ (by simpa using unit)⟩

/-- The milliseconds of a thousandth of a second beside a whole number of days. -/
theorem millis_besideDay {j n : Nat} (first : 1 ≤ j) (last : j ≤ 2932897) (unit : σ = 1 ∨ σ = -1)
    (beside : (n : Int) = 86400 * j * 1000000 + σ * 1000) :
    ∃ p, (16 ≤ p ∧ p < 38) ∧ (2 ^ p < 86400 * j ∧ 86400 * j < 2 ^ (p + 1)) ∧
      millis n = 86400 * j * 1000 + σ -
        if 86400 * (j : Int) * 1000 + σ < 2 ^ (p + 10) ∧ p ∈ losing σ then 1 else 0 := by
  have low := Nat.log2_self_le (show 86400 * j ≠ 0 by omega)
  have high := Nat.lt_log2_self (n := 86400 * j)
  have least : 16 ≤ (86400 * j).log2 := (Nat.le_log2 (by omega)).2 (by omega)
  have most : (86400 * j).log2 < 38 := (Nat.log2_lt (by omega)).2 (by omega)
  generalize (86400 * j).log2 = p at low high least most
  -- no number of days is a power of two, in seconds
  have strict : 2 ^ p < 86400 * j := by
    interval_cases p <;> omega
  obtain ⟨r, close, apart, loses⟩ := thousandth_spec least most unit
  refine ⟨p, ⟨least, most⟩, ⟨strict, high⟩, ?_⟩
  rw [millis_beside (p := p) (m := 42 - p) (s := 86400 * j) (by omega) (by exact_mod_cast strict)
    (by exact_mod_cast high) unit close apart beside]
  simp only [loses]

/-- The last millisecond before a midnight after 1970. It is lost on these days, counted from one. -/
theorem millis_beforeMidnight {j n : Nat} (first : 1 ≤ j) (last : j ≤ 2932897)
    (beside : (n : Int) = 86400 * j * 1000000 - 1000) :
    millis n = 86400000 * j - 1 - if 389 ≤ j ∧ j ≤ 397 ∨ 6214 ≤ j ∧ j ≤ 6362 ∨
      49711 ≤ j ∧ j ≤ 50903 ∨ 795365 ≤ j ∧ j ≤ 814453 then 1 else 0 := by
  obtain ⟨p, ⟨low, high⟩, ⟨strict, below⟩, ms⟩ :=
    millis_besideDay first last (.inr rfl) (by rw [beside]; omega)
  rw [ms]
  simp only [losing, reduceCtorEq, if_false, List.mem_cons, List.not_mem_nil, or_false]
  interval_cases p <;> omega

/-- The millisecond before a midnight before 1970, which is one more from there. It is lost on these
days, counted backwards. -/
theorem millis_afterMidnight {j n : Nat} (first : 1 ≤ j) (last : j ≤ 2932897)
    (beside : (n : Int) = 86400 * j * 1000000 + 1000) :
    millis n = 86400000 * j + 1 - if 195 ≤ j ∧ j ≤ 198 ∨ 1554 ≤ j ∧ j ≤ 1590 ∨
      12428 ≤ j ∧ j ≤ 12725 ∨ 99421 ≤ j ∧ j ≤ 101806 then 1 else 0 := by
  obtain ⟨p, ⟨low, high⟩, ⟨strict, below⟩, ms⟩ :=
    millis_besideDay first last (.inl rfl) (by rw [beside]; omega)
  rw [ms]
  simp only [losing, if_true, List.mem_cons, List.not_mem_nil, or_false]
  interval_cases p <;> omega

end DayEnds

section Runs

/-- The runs of days, each given by its first and last one, whose last millisecond comes out as the one
before it. -/
def shortEnds : List (Date × Date) := [
  (⟨1971, 1, 24⟩, ⟨1971, 2, 1⟩), (⟨1987, 1, 5⟩, ⟨1987, 6, 2⟩),
  (⟨2106, 2, 7⟩, ⟨2109, 5, 14⟩), (⟨4147, 8, 20⟩, ⟨4199, 11, 23⟩)]

/-- The runs of days whose last millisecond comes out as the first one of the next day. -/
def longEnds : List (Date × Date) := [
  (⟨1691, 4, 6⟩, ⟨1697, 10, 16⟩), (⟨1935, 2, 28⟩, ⟨1935, 12, 22⟩),
  (⟨1965, 8, 24⟩, ⟨1965, 9, 29⟩), (⟨1969, 6, 16⟩, ⟨1969, 6, 19⟩)]

/-- A date falls into one of some runs of days. -/
def Date.FallsIn (d : Date) (runs : List (Date × Date)) : Prop :=
  ∃ run ∈ runs, run.1.days ≤ d.days ∧ d.days ≤ run.2.days

instance (d : Date) (runs : List (Date × Date)) : Decidable (d.FallsIn runs) := by
  unfold Date.FallsIn
  infer_instance

/-- How far the last millisecond of a day comes out from where it is. -/
def Date.endSlip (d : Date) : Int :=
  if d.FallsIn shortEnds then -1 else if d.FallsIn longEnds then 1 else 0

theorem fallsIn_iff (d : Date) {runs : List (Date × Date)} {numbers : List (Int × Int)}
    (same : runs.map (fun run => (run.1.days, run.2.days)) = numbers) :
    d.FallsIn runs ↔ ∃ n ∈ numbers, n.1 ≤ d.days ∧ d.days ≤ n.2 := by
  simp [← same, Date.FallsIn]

/-- The end of a day less a millisecond, through doubles. -/
theorem epochMs_dayEnd {d : Date} (valid : d.Valid) :
    epochMs ((d.days + 1) * microsPerDay - 1000) = d.days * 86400000 + 86399999 + d.endSlip := by
  obtain ⟨least, most⟩ := valid.days_between
  rw [epochDay] at least
  have reach : InReach ((d.days + 1) * microsPerDay - 1000) := by
    unfold InReach microsPerDay
    omega
  have short := fallsIn_iff d (show shortEnds.map _ =
    [(388, 396), (6213, 6361), (49710, 50902), (795364, 814452)] by decide +kernel)
  have long := fallsIn_iff d (show longEnds.map _ =
    [(-101807, -99422), (-12726, -12429), (-1591, -1555), (-199, -196)] by decide +kernel)
  simp only [List.mem_cons, List.not_mem_nil, or_false, exists_eq_or_imp, exists_eq_left] at short long
  rw [epochMs_eq reach, Date.endSlip]
  simp only [short, long]
  rw [microsPerDay] at *
  rcases lt_trichotomy d.days (-1) with before | eve | after
  · obtain ⟨j, count⟩ : ∃ j : Nat, (j : Int) = -(d.days + 1) := ⟨_, Int.toNat_of_nonneg (by omega)⟩
    rw [if_pos (by omega), millis_afterMidnight (j := j) (by omega) (by omega) (by omega)]
    split_ifs <;> omega
  · -- the last millisecond before 1970 has no whole seconds beside it
    have last : millis 1000 = 1 := by
      have reach : InReach (-1000) := ⟨by decide, by decide⟩
      have ms := epochMs_eq reach
      rw [show epochMs (-1000) = -1 by decide +kernel, if_pos (by decide)] at ms
      exact (Int.neg_inj.1 ms).symm
    rw [eve]
    exact congrArg Neg.neg last
  · obtain ⟨j, count⟩ : ∃ j : Nat, (j : Int) = d.days + 1 := ⟨_, Int.toNat_of_nonneg (by omega)⟩
    rw [if_neg (by omega), millis_beforeMidnight (j := j) (by omega) (by omega) (by omega)]
    split_ifs <;> omega

end Runs

end Logbook
