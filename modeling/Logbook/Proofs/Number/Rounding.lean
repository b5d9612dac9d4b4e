import Logbook.Number.Double
import Mathlib.Algebra.Order.Field.Power
import Mathlib.Data.Rat.Floor
import Mathlib.Tactic.FieldSimp
import Mathlib.Tactic.Linarith
import Mathlib.Tactic.NormNum
import Mathlib.Tactic.Positivity
import Mathlib.Tactic.Ring

/-!
# Rounding never crosses a double

The double nearest to a quotient lies on the same side of every number that is itself a double as
the quotient does. It is enough to know this for numbers `k / 2 ^ j` with `k` below `2 ^ 53`, which
bound the seconds and fractions of seconds that are rounded here (`Double.size_le_of_ratio_le`,
`Double.le_size_of_le_ratio`). Rounding misses the quotient by no more than half a last place, so it
never comes down to a natural number that the quotient of two numbers below `2 ^ 53` exceeds, and the
double has the ceiling of the quotient (`Double.ceil?_ofRatio`).
-/

namespace Logbook

/-- Rounding stays at or below a natural number that the quotient does not exceed. -/
theorem roundQuotient_le {n d k : Nat} (pos : 0 < d) (h : n ≤ k * d) : roundQuotient n d ≤ k := by
  have whole := Nat.div_add_mod' n d
  have rest := Nat.mod_lt n pos
  have quotient : n / d ≤ k := Nat.div_le_of_le_mul (by rwa [Nat.mul_comm] at h)
  rcases Nat.lt_or_eq_of_le quotient with below | equal
  · unfold roundQuotient
    dsimp only
    split
    · omega
    · split <;> omega
  · have zero : n % d = 0 := by
      rw [← equal] at h
      omega
    unfold roundQuotient
    simp only [zero, equal, Nat.mul_zero, if_pos pos]
    exact Nat.le_refl k

/-- Rounding stays at or above a natural number that does not exceed the quotient. -/
theorem le_roundQuotient {n d k : Nat} (pos : 0 < d) (h : k * d ≤ n) : k ≤ roundQuotient n d := by
  have quotient : k ≤ n / d := (Nat.le_div_iff_mul_le pos).2 h
  unfold roundQuotient
  dsimp only
  split
  · exact quotient
  · split <;> omega

/-- Rounding misses a quotient by no more than a half. -/
theorem two_mul_le_roundQuotient {n d : Nat} (pos : 0 < d) :
    2 * n ≤ (2 * roundQuotient n d + 1) * d := by
  have whole := Nat.div_add_mod' n d
  have rest := Nat.mod_lt n pos
  have cut (q : Nat) : (2 * q + 1) * d = 2 * (q * d) + d := by ring
  have next : (n / d + 1) * d = n / d * d + d := by ring
  unfold roundQuotient
  dsimp only
  split
  · rw [cut]
    omega
  · split
    · rw [cut, next]
      omega
    · have same : n / d * d ≤ (n / d + n / d % 2) * d := Nat.mul_le_mul_right d (by omega)
      rw [cut]
      omega

namespace Double

/-- A power of two with its exponent split into the parts above and below zero. -/
theorem pow_toNat_div (e : Int) :
    ((Nat.pow 2 e.toNat : Nat) : ℚ) / (Nat.pow 2 (-e).toNat : Nat) = 2 ^ e := by
  rcases Int.le_total 0 e with above | below
  · have zero : (-e).toNat = 0 := by omega
    rw [Nat.pow_eq, Nat.pow_eq, zero]
    push_cast
    rw [div_one, ← zpow_natCast, Int.toNat_of_nonneg above]
  · have zero : e.toNat = 0 := by omega
    rw [Nat.pow_eq, Nat.pow_eq, zero]
    push_cast
    rw [one_div, ← zpow_natCast, Int.toNat_of_nonneg (by omega), zpow_neg, inv_inv]

section Place

variable {n d : Nat}

/-- The test that corrects the guess at a logarithm compares the quotient with a power of two. -/
theorem guess_iff (pos : 0 < d) (k : Int) :
    n * Nat.pow 2 (-k).toNat < d * Nat.pow 2 k.toNat ↔ (n : ℚ) / d < 2 ^ k := by
  have below : (0 : ℚ) < (Nat.pow 2 (-k).toNat : Nat) := by
    rw [Nat.pow_eq]
    positivity
  have denominator : (0 : ℚ) < d := by exact_mod_cast pos
  rw [← pow_toNat_div, div_lt_div_iff₀ denominator below, ← Nat.cast_mul, ← Nat.cast_mul,
    Nat.cast_lt, Nat.mul_comm (Nat.pow 2 k.toNat)]

/-- The quotient lies between the powers of two next to the difference of the logarithms. -/
theorem ratio_between (given : 0 < n) (pos : 0 < d) :
    (2 : ℚ) ^ ((n.log2 : Int) - d.log2 - 1) ≤ (n : ℚ) / d ∧
      (n : ℚ) / d < 2 ^ ((n.log2 : Int) - d.log2 + 1) := by
  have denominator : (0 : ℚ) < d := by exact_mod_cast pos
  have n₁ : (2 : ℚ) ^ (n.log2 : Int) ≤ n := by
    rw [zpow_natCast]
    exact_mod_cast Nat.log2_self_le given.ne'
  have n₂ : (n : ℚ) < 2 ^ ((n.log2 : Int) + 1) := by
    exact_mod_cast Nat.lt_log2_self (n := n)
  have d₁ : (2 : ℚ) ^ (d.log2 : Int) ≤ d := by
    rw [zpow_natCast]
    exact_mod_cast Nat.log2_self_le pos.ne'
  have d₂ : (d : ℚ) < 2 ^ ((d.log2 : Int) + 1) := by
    exact_mod_cast Nat.lt_log2_self (n := d)
  constructor
  · rw [le_div_iff₀ denominator]
    calc (2 : ℚ) ^ ((n.log2 : Int) - d.log2 - 1) * d
        ≤ 2 ^ ((n.log2 : Int) - d.log2 - 1) * 2 ^ ((d.log2 : Int) + 1) := by gcongr
      _ = 2 ^ (n.log2 : Int) := by rw [← zpow_add₀ two_ne_zero]; congr 1; ring
      _ ≤ n := n₁
  · rw [div_lt_iff₀ denominator]
    calc (n : ℚ) < 2 ^ ((n.log2 : Int) + 1) := n₂
      _ = 2 ^ ((n.log2 : Int) - d.log2 + 1) * 2 ^ (d.log2 : Int) := by
        rw [← zpow_add₀ two_ne_zero]; congr 1; ring
      _ ≤ 2 ^ ((n.log2 : Int) - d.log2 + 1) * d := by gcongr

/-- In units of the last place the quotient has 53 bits, or fewer at the last place of all. -/
theorem placeOf_spec (given : 0 < n) (pos : 0 < d) :
    -1074 ≤ placeOf n d ∧ (n : ℚ) / d < 2 ^ (placeOf n d + 53) ∧
      (placeOf n d = -1074 ∨ (2 : ℚ) ^ (placeOf n d + 52) ≤ (n : ℚ) / d) := by
  obtain ⟨low, high⟩ := ratio_between given pos
  -- the logarithm itself, after the correction
  obtain ⟨l, place, least, greatest⟩ : ∃ l : Int, placeOf n d = max (l - 52) (-1074) ∧
      (2 : ℚ) ^ l ≤ (n : ℚ) / d ∧ (n : ℚ) / d < 2 ^ (l + 1) := by
    unfold placeOf
    dsimp only
    split
    · next below =>
      refine ⟨_, rfl, low, ?_⟩
      rw [Int.sub_add_cancel]
      exact (guess_iff pos _).1 below
    · next above => exact ⟨_, rfl, not_lt.1 (mt (guess_iff pos _).2 above), high⟩
  rw [place]
  refine ⟨le_max_right _ _, lt_of_lt_of_le greatest ?_, ?_⟩
  · exact zpow_le_zpow_right₀ (by norm_num) (by omega)
  · rcases le_total (l - 52) (-1074) with last | normal
    · exact .inl (max_eq_right last)
    · right
      rw [max_eq_left normal, Int.sub_add_cancel]
      exact least

/-- The mantissa to which a quotient is rounded, before a carry. -/
def rounded (n d : Nat) : Nat :=
  roundQuotient (n * Nat.pow 2 (-placeOf n d).toNat) (d * Nat.pow 2 (placeOf n d).toNat)

theorem scale_pos (pos : 0 < d) (e : Int) : 0 < d * Nat.pow 2 e.toNat := by
  rw [Nat.pow_eq]
  positivity

/-- What is rounded is the quotient in units of the last place. -/
theorem scaled_ratio (n d : Nat) (e : Int) :
    ((n * Nat.pow 2 (-e).toNat : Nat) : ℚ) / (d * Nat.pow 2 e.toNat : Nat) =
      (n : ℚ) / d * 2 ^ (-e) := by
  have unit := pow_toNat_div (-e)
  rw [Int.neg_neg] at unit
  rw [← unit, Nat.cast_mul, Nat.cast_mul, mul_div_mul_comm]

theorem scaled_le_iff (pos : 0 < d) (e : Int) (c : Nat) :
    n * Nat.pow 2 (-e).toNat ≤ c * (d * Nat.pow 2 e.toNat) ↔ (n : ℚ) / d * 2 ^ (-e) ≤ c := by
  have denominator : (0 : ℚ) < (d * Nat.pow 2 e.toNat : Nat) := by exact_mod_cast scale_pos pos e
  rw [← scaled_ratio, div_le_iff₀ denominator, ← Nat.cast_mul, Nat.cast_le]

theorem le_scaled_iff (pos : 0 < d) (e : Int) (c : Nat) :
    c * (d * Nat.pow 2 e.toNat) ≤ n * Nat.pow 2 (-e).toNat ↔ (c : ℚ) ≤ (n : ℚ) / d * 2 ^ (-e) := by
  have denominator : (0 : ℚ) < (d * Nat.pow 2 e.toNat : Nat) := by exact_mod_cast scale_pos pos e
  rw [← scaled_ratio, le_div_iff₀ denominator, ← Nat.cast_mul, Nat.cast_le]

/-- A number `k / 2 ^ j` in units of a last place that is no larger than its own. -/
theorem exists_units (k j : Nat) {e : Int} (fine : e ≤ -j) :
    ∃ c : Nat, (c : ℚ) = (k : ℚ) / 2 ^ j * 2 ^ (-e) := by
  refine ⟨k * 2 ^ (-e - j).toNat, ?_⟩
  push_cast
  rw [← zpow_natCast, Int.toNat_of_nonneg (by omega), zpow_sub₀ two_ne_zero, zpow_natCast]
  ring

/-- Where the last place is larger than that of `k / 2 ^ j`, the quotient has its 53 bits. -/
theorem normal_of_coarse {j : Nat} (given : 0 < n) (pos : 0 < d) (least : j ≤ 1074)
    (coarse : ¬placeOf n d ≤ -j) :
    (2 : ℚ) ^ (53 : Nat) / 2 ^ j ≤ 2 ^ (placeOf n d + 52) ∧
      (2 : ℚ) ^ (placeOf n d + 52) ≤ (n : ℚ) / d := by
  obtain ⟨-, -, last | normal⟩ := placeOf_spec given pos
  · omega
  · refine ⟨?_, normal⟩
    rw [← zpow_natCast, ← zpow_natCast, ← zpow_sub₀ two_ne_zero]
    exact zpow_le_zpow_right₀ (by norm_num) (by omega)

/-- Rounding does not go up past a double. -/
theorem rounded_le {k j : Nat} (given : 0 < n) (pos : 0 < d) (small : k < 2 ^ 53)
    (least : j ≤ 1074) (h : (n : ℚ) / d ≤ (k : ℚ) / 2 ^ j) :
    (rounded n d : ℚ) * 2 ^ placeOf n d ≤ (k : ℚ) / 2 ^ j := by
  by_cases fine : placeOf n d ≤ -j
  · obtain ⟨c, units⟩ := exists_units k j fine
    have below := (scaled_le_iff (n := n) pos (placeOf n d) c).2 (by rw [units]; gcongr)
    have mantissa : (rounded n d : ℚ) ≤ c := by
      exact_mod_cast roundQuotient_le (scale_pos pos _) below
    rw [units, zpow_neg, ← div_eq_mul_inv, le_div_iff₀ (by positivity)] at mantissa
    exact mantissa
  · obtain ⟨coarse, normal⟩ := normal_of_coarse given pos least fine
    have strict : (k : ℚ) / 2 ^ j < (2 : ℚ) ^ (53 : Nat) / 2 ^ j := by
      gcongr
      exact_mod_cast small
    linarith

/-- Rounding does not go down past a double. -/
theorem le_rounded {k j : Nat} (given : 0 < n) (pos : 0 < d) (small : k ≤ 2 ^ 53)
    (least : j ≤ 1074) (h : (k : ℚ) / 2 ^ j ≤ (n : ℚ) / d) :
    (k : ℚ) / 2 ^ j ≤ (rounded n d : ℚ) * 2 ^ placeOf n d := by
  by_cases fine : placeOf n d ≤ -j
  · obtain ⟨c, units⟩ := exists_units k j fine
    have above := (le_scaled_iff (n := n) pos (placeOf n d) c).2 (by rw [units]; gcongr)
    have mantissa : (c : ℚ) ≤ rounded n d := by
      exact_mod_cast le_roundQuotient (scale_pos pos _) above
    rw [units, zpow_neg, ← div_eq_mul_inv, div_le_iff₀ (by positivity)] at mantissa
    exact mantissa
  · obtain ⟨coarse, normal⟩ := normal_of_coarse given pos least fine
    have top : ((2 ^ 52 : Nat) : ℚ) * 2 ^ placeOf n d = 2 ^ (placeOf n d + 52) := by
      rw [zpow_add₀ two_ne_zero]
      push_cast
      ring
    have bits : ((2 ^ 52 : Nat) : ℚ) ≤ (n : ℚ) / d * 2 ^ (-placeOf n d) := by
      rw [zpow_neg, ← div_eq_mul_inv, le_div_iff₀ (by positivity), top]
      exact normal
    have mantissa : ((2 ^ 52 : Nat) : ℚ) ≤ rounded n d := by
      exact_mod_cast le_roundQuotient (scale_pos pos _) ((le_scaled_iff pos _ _).2 bits)
    calc (k : ℚ) / 2 ^ j ≤ (2 : ℚ) ^ (53 : Nat) / 2 ^ j := by
          gcongr
          exact_mod_cast small
      _ ≤ 2 ^ (placeOf n d + 52) := coarse
      _ = ((2 ^ 52 : Nat) : ℚ) * 2 ^ placeOf n d := top.symm
      _ ≤ rounded n d * 2 ^ placeOf n d := by gcongr

/-- The double nearest to a quotient is at most half a last place below it. -/
theorem ratio_le_rounded (pos : 0 < d) :
    (n : ℚ) / d ≤ (rounded n d + 1 / 2) * 2 ^ placeOf n d := by
  have half := two_mul_le_roundQuotient (n := n * Nat.pow 2 (-placeOf n d).toNat)
    (scale_pos pos (placeOf n d))
  have denominator : (0 : ℚ) < (d * Nat.pow 2 (placeOf n d).toNat : Nat) := by
    exact_mod_cast scale_pos pos (placeOf n d)
  have near : (n : ℚ) / d * 2 ^ (-placeOf n d) ≤ rounded n d + 1 / 2 := by
    rw [← scaled_ratio, div_le_iff₀ denominator]
    have doubled : (2 : ℚ) * (n * Nat.pow 2 (-placeOf n d).toNat : Nat) ≤
        (2 * rounded n d + 1) * (d * Nat.pow 2 (placeOf n d).toNat : Nat) := by
      exact_mod_cast half
    linarith
  rwa [zpow_neg, ← div_eq_mul_inv, div_le_iff₀ (by positivity)] at near

/-- The double nearest to a quotient of numbers below `2 ^ 53` lies above every natural number that
the quotient exceeds: it does so by more than half a last place. -/
theorem lt_rounded {k : Nat} (pos : 0 < d) (small : n < 2 ^ 53) (few : d < 2 ^ 53)
    (h : k * d < n) : (k : ℚ) < rounded n d * 2 ^ placeOf n d := by
  have given : 0 < n := by omega
  have denominator : (0 : ℚ) < d := by exact_mod_cast pos
  have excess : (k : ℚ) + 1 / d ≤ (n : ℚ) / d := by
    have step : (k : ℚ) * d + 1 ≤ n := by exact_mod_cast h
    rw [le_div_iff₀ denominator, add_mul, one_div, inv_mul_cancel₀ denominator.ne']
    exact step
  by_contra! low
  have near := ratio_le_rounded (n := n) pos
  have wide : 1 / (d : ℚ) ≤ 1 / 2 * 2 ^ placeOf n d := by linarith
  have reach : 2 ≤ (2 : ℚ) ^ placeOf n d * d := by
    rw [div_le_iff₀ denominator] at wide
    linarith
  obtain ⟨-, -, last | normal⟩ := placeOf_spec given pos
  · -- the last place of all is too small for that
    have short : (2 : ℚ) ^ placeOf n d * d < 2 ^ (-1074 : Int) * 2 ^ (53 : Int) := by
      rw [last]
      gcongr
      exact_mod_cast few
    have tiny : (2 : ℚ) ^ (-1074 : Int) * 2 ^ (53 : Int) ≤ 1 := by
      rw [← zpow_add₀ two_ne_zero]
      exact zpow_le_one_of_nonpos₀ (by norm_num) (by norm_num)
    linarith
  · -- the numerator would have more than 53 bits
    have long : (2 : ℚ) ^ (52 : Int) * 2 ≤ n := by
      calc (2 : ℚ) ^ (52 : Int) * 2 ≤ 2 ^ (52 : Int) * (2 ^ placeOf n d * d) := by gcongr
        _ = 2 ^ (placeOf n d + 52) * d := by rw [zpow_add₀ two_ne_zero]; ring
        _ ≤ n := (le_div_iff₀ denominator).1 normal
    have short : (n : ℚ) < 2 ^ 53 := by exact_mod_cast small
    norm_num at long short
    linarith

end Place

section Nearest

variable {n d k j m : Nat} {negative s : Bool} {e : Int}

/-- The distance of a double from zero in terms of its mantissa, after a carry as before. -/
theorem ofRatio_eq_pack (negative : Bool) (given : 0 < n) (d : Nat) :
    ∃ m e, ofRatio negative n d = pack negative m e ∧ e ≤ placeOf n d + 1 ∧
      (m : ℚ) * 2 ^ e = rounded n d * 2 ^ placeOf n d := by
  unfold ofRatio
  rw [if_neg given.ne']
  dsimp only
  split
  · next carry =>
    refine ⟨_, _, rfl, Int.le_refl _, ?_⟩
    rw [show rounded n d = Nat.pow 2 53 from carry, Nat.pow_eq, Nat.pow_eq,
      zpow_add₀ two_ne_zero]
    push_cast
    ring
  · exact ⟨_, _, rfl, by omega, rfl⟩

/-- What a finite double that is nearest to a quotient consists of. -/
theorem ofRatio_finite (got : ofRatio negative n d = .finite s m e) :
    s = negative ∧ (n = 0 ∧ m = 0 ∨ 0 < n ∧ (m : ℚ) * 2 ^ e = rounded n d * 2 ^ placeOf n d) := by
  by_cases zero : n = 0
  · rw [ofRatio, if_pos zero] at got
    cases got
    exact ⟨rfl, .inl ⟨zero, rfl⟩⟩
  · have given : 0 < n := by omega
    obtain ⟨m', e', packed, -, same⟩ := ofRatio_eq_pack negative given d
    rw [packed, pack] at got
    split at got
    · cases got
    · cases got
      exact ⟨rfl, .inr ⟨given, same⟩⟩

/-- The double nearest to a quotient that does not exceed a double does not exceed it either. -/
theorem size_le_of_ratio_le (pos : 0 < d) (small : k < 2 ^ 53) (least : j ≤ 1074)
    (h : (n : ℚ) / d ≤ (k : ℚ) / 2 ^ j) (got : ofRatio negative n d = .finite s m e) :
    (m : ℚ) * 2 ^ e ≤ (k : ℚ) / 2 ^ j := by
  obtain ⟨-, ⟨-, rfl⟩ | ⟨given, same⟩⟩ := ofRatio_finite got
  · rw [Nat.cast_zero, zero_mul]
    positivity
  · rw [same]
    exact rounded_le given pos small least h

/-- The double nearest to a quotient that no double exceeds is not exceeded by it either. -/
theorem le_size_of_le_ratio (pos : 0 < d) (small : k ≤ 2 ^ 53) (least : j ≤ 1074)
    (h : (k : ℚ) / 2 ^ j ≤ (n : ℚ) / d) (got : ofRatio negative n d = .finite s m e) :
    (k : ℚ) / 2 ^ j ≤ (m : ℚ) * 2 ^ e := by
  obtain ⟨-, ⟨rfl, rfl⟩ | ⟨given, same⟩⟩ := ofRatio_finite got
  · simpa using h
  · rw [same]
    exact le_rounded given pos small least h

/-- The double nearest to a quotient below `2 ^ 200` is finite. -/
theorem exists_finite (negative : Bool) (pos : 0 < d) (bounded : (n : ℚ) / d < 2 ^ (200 : Int)) :
    ∃ m e, ofRatio negative n d = .finite negative m e := by
  by_cases zero : n = 0
  · exact ⟨0, -1074, by rw [ofRatio, if_pos zero]⟩
  · have given : 0 < n := by omega
    obtain ⟨m, e, packed, near, -⟩ := ofRatio_eq_pack negative given d
    have place : placeOf n d < 148 := by
      obtain ⟨-, -, last | normal⟩ := placeOf_spec given pos
      · omega
      · have below := (zpow_lt_zpow_iff_right₀ (by norm_num)).1 (normal.trans_lt bounded)
        omega
    exact ⟨m, e, by rw [packed, pack, if_neg (by omega)]⟩

/-- A double as the quotient of two natural numbers. -/
theorem magnitude_ratio (m : Nat) (e : Int) :
    0 < (magnitude m e).2 ∧ ((magnitude m e).1 : ℚ) / (magnitude m e).2 = m * 2 ^ e := by
  constructor
  · simp only [magnitude, Nat.pow_eq]
    positivity
  · rw [← pow_toNat_div e]
    simp only [magnitude, Nat.cast_mul]
    rw [mul_div_assoc]

end Nearest

section Ceiling

variable {n d m : Nat} {e : Int}

/-- The ceiling of a double that is not negative. -/
theorem ceil?_finite (m : Nat) (e : Int) : ceil? (.finite false m e) = some ⌈(m : ℚ) * 2 ^ e⌉ := by
  obtain ⟨pos, ratio⟩ := magnitude_ratio m e
  have quotient : ⌈(m : ℚ) * 2 ^ e⌉ = -((-((magnitude m e).1 : Int)) / (magnitude m e).2) := by
    rw [← ratio]
    have floor := Rat.floor_intCast_div_natCast (-((magnitude m e).1 : Int)) (magnitude m e).2
    push_cast at floor
    rw [← floor, ← Int.ceil_neg, neg_div, neg_neg]
  rw [quotient]
  simp [ceil?, ratio?, Int.fdiv_eq_ediv_of_nonneg]

/-- The double nearest to a quotient of numbers below `2 ^ 53` has the ceiling of the quotient. -/
theorem ceil?_ofRatio (pos : 0 < d) (small : n < 2 ^ 53) (few : d < 2 ^ 53) :
    (ofRatio false n d).ceil? = some ⌈(n : ℚ) / d⌉ := by
  have denominator : (0 : ℚ) < d := by exact_mod_cast pos
  have within : (n : ℚ) / d ≤ n := div_le_self (by positivity) (by exact_mod_cast pos)
  have bits : (n : ℚ) < 2 ^ (53 : Int) := by exact_mod_cast small
  have room : (2 : ℚ) ^ (53 : Int) ≤ 2 ^ (200 : Int) :=
    zpow_le_zpow_right₀ (by norm_num) (by norm_num)
  obtain ⟨m, e, got⟩ := exists_finite false pos ((within.trans_lt bits).trans_le room)
  -- the ceiling is itself a number that the double does not pass
  obtain ⟨c, ceil⟩ : ∃ c, c = ⌈(n : ℚ) / d⌉₊ := ⟨_, rfl⟩
  have fits : c ≤ n := by
    rw [ceil]
    exact Nat.ceil_le.2 within
  have above : (n : ℚ) / d ≤ c := by
    rw [ceil]
    exact Nat.le_ceil _
  have exact : ⌈(n : ℚ) / d⌉ = c := by
    rw [ceil, Int.natCast_ceil_eq_ceil (by positivity)]
  rw [got, ceil?_finite, exact, Option.some_inj, Int.ceil_eq_iff]
  constructor
  · rcases Nat.eq_zero_or_pos c with zero | positive
    · rw [zero]
      have : (0 : ℚ) ≤ m * 2 ^ e := by positivity
      push_cast
      linarith
    · have below : ((c - 1 : Nat) : ℚ) < (n : ℚ) / d := Nat.lt_ceil.1 (by omega)
      rw [lt_div_iff₀ denominator] at below
      have exceeded : (c - 1) * d < n := by exact_mod_cast below
      obtain ⟨-, ⟨none, -⟩ | ⟨-, same⟩⟩ := ofRatio_finite got
      · omega
      · have strict := lt_rounded pos small few exceeded
        rw [← same, Nat.cast_sub positive] at strict
        exact_mod_cast strict
  · have upper := size_le_of_ratio_le (k := c) (j := 0) pos (by omega) (by omega)
      (by simpa using above) got
    simpa using upper

end Ceiling

end Double

end Logbook
