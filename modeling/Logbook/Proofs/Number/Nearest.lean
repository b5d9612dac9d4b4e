import Logbook.Proofs.Number.Rounding

/-!
# The nearest double as a function of a number

The size of the double nearest to a quotient depends on the value of the quotient alone, so that it is
a function of that value, `Double.near`. This function is monotone (`Double.near_mono`), it keeps the
numbers that are doubles (`Double.near_dyadic`), it misses a number by no more than half a last place
(`Double.abs_near_sub_le`), and within one power of two it goes to the closest multiple of the last
place (`Double.near_eq`).
-/

namespace Logbook

/-- A larger quotient is not rounded to a smaller number. -/
theorem roundQuotient_mono {n d n' d' : Nat} (pos : 0 < d) (pos' : 0 < d') (h : n * d' ≤ n' * d) :
    roundQuotient n d ≤ roundQuotient n' d' := by
  have whole := Nat.div_add_mod' n d
  have whole' := Nat.div_add_mod' n' d'
  have rest := Nat.mod_lt n pos
  have order : n / d ≤ n' / d' := by
    rw [Nat.le_div_iff_mul_le pos']
    refine Nat.le_of_mul_le_mul_right ?_ pos
    calc n / d * d' * d = n / d * d * d' := Nat.mul_right_comm _ _ _
      _ ≤ n * d' := Nat.mul_le_mul_right d' (Nat.div_mul_le_self n d)
      _ ≤ n' * d := h
  rcases Nat.lt_or_eq_of_le order with below | same
  · calc roundQuotient n d ≤ n / d + 1 := roundQuotient_le pos (by rw [Nat.succ_mul]; omega)
      _ ≤ n' / d' := below
      _ ≤ roundQuotient n' d' := le_roundQuotient pos' (Nat.div_mul_le_self n' d')
  · -- the rests are in the same order as the quotients, and so are their comparisons with a half
    have rests : n % d * d' ≤ n' % d' * d := by
      have : n / d * d * d' + n % d * d' ≤ n' / d' * d' * d + n' % d' * d := by
        rw [← Nat.add_mul, ← Nat.add_mul, whole, whole']
        exact h
      rw [same, Nat.mul_right_comm] at this
      omega
    have half : d ≤ 2 * (n % d) → d' ≤ 2 * (n' % d') := by
      intro most
      refine Nat.le_of_mul_le_mul_left ?_ pos
      calc d * d' ≤ 2 * (n % d) * d' := Nat.mul_le_mul_right d' most
        _ = 2 * (n % d * d') := Nat.mul_assoc _ _ _
        _ ≤ 2 * (n' % d' * d) := Nat.mul_le_mul_left 2 rests
        _ = d * (2 * (n' % d')) := by ring
    have more : d < 2 * (n % d) → d' < 2 * (n' % d') := by
      intro most
      refine Nat.lt_of_mul_lt_mul_left (a := d) ?_
      calc d * d' < 2 * (n % d) * d' := Nat.mul_lt_mul_of_pos_right most pos'
        _ = 2 * (n % d * d') := Nat.mul_assoc _ _ _
        _ ≤ 2 * (n' % d' * d) := Nat.mul_le_mul_left 2 rests
        _ = d * (2 * (n' % d')) := by ring
    unfold roundQuotient
    dsimp only
    rw [same]
    split_ifs <;> omega

/-- Rounding goes up by no more than a half. -/
theorem roundQuotient_two_mul_le {n d : Nat} (pos : 0 < d) : 2 * roundQuotient n d * d ≤ 2 * n + d := by
  have whole := Nat.div_add_mod' n d
  have rest := Nat.mod_lt n pos
  have next : 2 * (n / d + 1) * d = 2 * (n / d * d) + 2 * d := by ring
  have this : 2 * (n / d) * d = 2 * (n / d * d) := Nat.mul_assoc _ _ _
  unfold roundQuotient
  dsimp only
  split
  · rw [this]
    omega
  · split
    · rw [next]
      omega
    · have most : 2 * (n / d + n / d % 2) * d ≤ 2 * (n / d + 1) * d :=
        Nat.mul_le_mul_right d (by omega)
      rw [next] at most
      omega

/-- Rounding misses a quotient by no more than a half, upward or downward. -/
theorem abs_roundQuotient_sub_le {n d : Nat} (pos : 0 < d) :
    |(roundQuotient n d : ℚ) - n / d| ≤ 1 / 2 := by
  have denominator : (0 : ℚ) < d := by exact_mod_cast pos
  have up : (roundQuotient n d : ℚ) - 1 / 2 ≤ n / d := by
    rw [le_div_iff₀ denominator]
    have doubled : (2 : ℚ) * roundQuotient n d * d ≤ 2 * n + d := by
      exact_mod_cast roundQuotient_two_mul_le pos
    linarith
  have down : (n : ℚ) / d ≤ roundQuotient n d + 1 / 2 := by
    rw [div_le_iff₀ denominator]
    have doubled : (2 : ℚ) * n ≤ (2 * roundQuotient n d + 1) * d := by
      exact_mod_cast two_mul_le_roundQuotient pos
    linarith
  rw [abs_sub_le_iff]
  constructor <;> linarith

/-- A quotient is rounded to the number that it misses by less than a half. -/
theorem roundQuotient_eq {n d : Nat} {c : Int} (pos : 0 < d) (close : |(n : ℚ) / d - c| < 1 / 2) :
    roundQuotient n d = c := by
  obtain ⟨up, down⟩ := abs_sub_le_iff.1 (abs_roundQuotient_sub_le (n := n) pos)
  rw [abs_sub_lt_iff] at close
  have least : (c : ℚ) < roundQuotient n d + 1 := by linarith
  have greatest : (roundQuotient n d : ℚ) < c + 1 := by linarith
  have : c < (roundQuotient n d : Int) + 1 := by exact_mod_cast least
  have : (roundQuotient n d : Int) < c + 1 := by exact_mod_cast greatest
  omega

namespace Double

section Size

variable {n d n' d' : Nat}

theorem rounded_zero (pos : 0 < d) : rounded 0 d = 0 := by
  have most : rounded 0 d ≤ 0 := roundQuotient_le (scale_pos pos _) (by simp)
  omega

/-- The mantissa of a double has no more than 53 bits, or it is about to be carried. -/
theorem rounded_le_carry (given : 0 < n) (pos : 0 < d) : rounded n d ≤ 2 ^ 53 := by
  obtain ⟨-, most, -⟩ := placeOf_spec given pos
  refine roundQuotient_le (scale_pos pos _) ((scaled_le_iff pos _ _).2 ?_)
  rw [zpow_neg, ← div_eq_mul_inv, div_le_iff₀ (by positivity)]
  calc (n : ℚ) / d ≤ 2 ^ (placeOf n d + 53) := most.le
    _ = ((2 ^ 53 : Nat) : ℚ) * 2 ^ placeOf n d := by
      rw [zpow_add₀ two_ne_zero]
      push_cast
      ring

/-- The mantissa of a double that is not next to zero has all of its bits. -/
theorem le_rounded_of_normal (pos : 0 < d) (normal : (2 : ℚ) ^ (placeOf n d + 52) ≤ (n : ℚ) / d) :
    2 ^ 52 ≤ rounded n d := by
  refine le_roundQuotient (scale_pos pos _) ((le_scaled_iff pos _ _).2 ?_)
  rw [zpow_neg, ← div_eq_mul_inv, le_div_iff₀ (by positivity)]
  calc ((2 ^ 52 : Nat) : ℚ) * 2 ^ placeOf n d = 2 ^ (placeOf n d + 52) := by
        rw [zpow_add₀ two_ne_zero]
        push_cast
        ring
    _ ≤ n / d := normal

/-- The double nearest to a larger quotient is not smaller. -/
theorem size_mono (pos : 0 < d) (pos' : 0 < d') (h : (n : ℚ) / d ≤ (n' : ℚ) / d') :
    (rounded n d : ℚ) * 2 ^ placeOf n d ≤ rounded n' d' * 2 ^ placeOf n' d' := by
  rcases Nat.eq_zero_or_pos n with rfl | given
  · rw [rounded_zero pos, Nat.cast_zero, zero_mul]
    positivity
  have cross : n * d' ≤ n' * d := by
    rw [div_le_div_iff₀ (by exact_mod_cast pos) (by exact_mod_cast pos')] at h
    exact_mod_cast h
  have given' : 0 < n' := by
    refine Nat.pos_of_ne_zero ?_
    rintro rfl
    rw [Nat.zero_mul] at cross
    exact absurd cross (Nat.not_le.2 (Nat.mul_pos given pos'))
  obtain ⟨last, -, normal⟩ := placeOf_spec given pos
  obtain ⟨last', most', normal'⟩ := placeOf_spec given' pos'
  rcases lt_trichotomy (placeOf n d) (placeOf n' d') with below | same | above
  · -- a power of two lies between them
    have normal' := normal'.resolve_left (by omega)
    calc (rounded n d : ℚ) * 2 ^ placeOf n d ≤ ((2 ^ 53 : Nat) : ℚ) * 2 ^ placeOf n d := by
          gcongr
          exact rounded_le_carry given pos
      _ = 2 ^ (placeOf n d + 53) := by
          rw [zpow_add₀ two_ne_zero]
          push_cast
          ring
      _ ≤ 2 ^ (placeOf n' d' + 52) := zpow_le_zpow_right₀ (by norm_num) (by omega)
      _ = ((2 ^ 52 : Nat) : ℚ) * 2 ^ placeOf n' d' := by
          rw [zpow_add₀ two_ne_zero]
          push_cast
          ring
      _ ≤ rounded n' d' * 2 ^ placeOf n' d' := by
          gcongr
          exact le_rounded_of_normal pos' normal'
  · unfold rounded
    rw [same]
    gcongr
    refine roundQuotient_mono (scale_pos pos _) (scale_pos pos' _) ?_
    calc n * Nat.pow 2 (-placeOf n' d').toNat * (d' * Nat.pow 2 (placeOf n' d').toNat)
        = n * d' * (Nat.pow 2 (-placeOf n' d').toNat * Nat.pow 2 (placeOf n' d').toNat) := by ring
      _ ≤ n' * d * (Nat.pow 2 (-placeOf n' d').toNat * Nat.pow 2 (placeOf n' d').toNat) :=
        Nat.mul_le_mul_right _ cross
      _ = n' * Nat.pow 2 (-placeOf n' d').toNat * (d * Nat.pow 2 (placeOf n' d').toNat) := by ring
  · have normal := normal.resolve_left (by omega)
    have beyond : (2 : ℚ) ^ (placeOf n' d' + 53) ≤ 2 ^ (placeOf n d + 52) :=
      zpow_le_zpow_right₀ (by norm_num) (by omega)
    linarith

end Size

/-- The double nearest to a number that is not negative. -/
def near (q : ℚ) : ℚ :=
  rounded q.num.natAbs q.den * 2 ^ placeOf q.num.natAbs q.den

theorem parts_div {q : ℚ} (natural : 0 ≤ q) : (q.num.natAbs : ℚ) / q.den = q := by
  have whole : ((q.num.natAbs : Int) : ℚ) = q.num := by
    rw [Int.natAbs_of_nonneg (Rat.num_nonneg.2 natural)]
  rw [← Int.cast_natCast, whole, Rat.num_div_den]

theorem near_div {n d : Nat} (pos : 0 < d) :
    near ((n : ℚ) / d) = rounded n d * 2 ^ placeOf n d := by
  have same := parts_div (q := (n : ℚ) / d) (by positivity)
  exact le_antisymm (size_mono (Rat.den_pos _) pos same.le) (size_mono pos (Rat.den_pos _) same.ge)

theorem near_nonneg (q : ℚ) : 0 ≤ near q := by
  unfold near
  positivity

/-- Rounding is monotone. -/
theorem near_mono {p q : ℚ} (natural : 0 ≤ p) (order : p ≤ q) : near p ≤ near q := by
  refine size_mono (Rat.den_pos _) (Rat.den_pos _) ?_
  rw [parts_div natural, parts_div (natural.trans order)]
  exact order

/-- The size of a double that is nearest to a quotient. -/
theorem size_eq_near {negative s : Bool} {n d m : Nat} {e : Int} (pos : 0 < d)
    (got : ofRatio negative n d = .finite s m e) : (m : ℚ) * 2 ^ e = near ((n : ℚ) / d) := by
  rw [near_div pos]
  obtain ⟨-, ⟨rfl, rfl⟩ | ⟨-, same⟩⟩ := ofRatio_finite got
  · rw [rounded_zero pos, Nat.cast_zero, zero_mul, zero_mul]
  · exact same

/-- A number that is a double stays what it is. -/
theorem near_dyadic {k j : Nat} (small : k < 2 ^ 53) (least : j ≤ 1074) :
    near ((k : ℚ) / 2 ^ j) = (k : ℚ) / 2 ^ j := by
  have power : ((2 ^ j : Nat) : ℚ) = 2 ^ j := by push_cast; rfl
  have pos : 0 < 2 ^ j := by positivity
  rw [← power, near_div pos]
  rcases Nat.eq_zero_or_pos k with rfl | given
  · rw [rounded_zero pos, Nat.cast_zero, zero_mul, zero_div]
  · exact le_antisymm ((rounded_le given pos small least (by rw [power])).trans_eq (by rw [power]))
      ((le_rounded given pos small.le least (by rw [power])).trans_eq' (by rw [power]))

theorem near_natCast {k : Nat} (small : k < 2 ^ 53) : near k = k := by
  simpa using near_dyadic (j := 0) small (by omega)

/-- Below the power of two at which a last place would have to double, rounding misses a number by no
more than half of that place. -/
theorem abs_near_sub_le {q : ℚ} {e : Int} (natural : 0 ≤ q) (least : -1074 ≤ e)
    (high : q < 2 ^ (e + 53)) : |near q - q| ≤ 2 ^ e / 2 := by
  rcases natural.eq_or_lt with rfl | positive
  · have zero : near 0 = 0 := by simpa using near_natCast (k := 0) (by norm_num)
    rw [zero, sub_zero, abs_zero]
    positivity
  have ratio := parts_div natural
  have pos : 0 < q.den := Rat.den_pos q
  have given : 0 < q.num.natAbs := Int.natAbs_pos.2 (Rat.num_pos.2 positive).ne'
  obtain ⟨p, place⟩ : ∃ p, p = placeOf q.num.natAbs q.den := ⟨_, rfl⟩
  have within : p ≤ e := by
    obtain ⟨last, -, normal⟩ := placeOf_spec given pos
    rw [ratio, ← place] at normal
    rcases normal with all | normal
    · omega
    · have below := (zpow_lt_zpow_iff_right₀ (by norm_num : (1 : ℚ) < 2)).1 (normal.trans_lt high)
      omega
  -- the mantissa misses the number, in units of the last place, by no more than a half
  have close : |(rounded q.num.natAbs q.den : ℚ) - q * 2 ^ (-p)| ≤ 1 / 2 := by
    have scaled := scaled_ratio q.num.natAbs q.den p
    rw [ratio] at scaled
    rw [← scaled, place]
    exact abs_roundQuotient_sub_le (scale_pos pos _)
  have units : near q - q = (rounded q.num.natAbs q.den - q * 2 ^ (-p)) * 2 ^ p := by
    rw [sub_mul, mul_assoc, ← zpow_add₀ two_ne_zero, Int.add_left_neg, zpow_zero, mul_one, near,
      place]
  calc |near q - q| = |(rounded q.num.natAbs q.den : ℚ) - q * 2 ^ (-p)| * 2 ^ p := by
        rw [units, abs_mul, abs_of_pos (by positivity : (0 : ℚ) < 2 ^ p)]
    _ ≤ 1 / 2 * 2 ^ e := by
        gcongr
        norm_num
    _ = 2 ^ e / 2 := by ring

/-- Within one power of two a number goes to the multiple of the last place that it misses by less
than half a place. -/
theorem near_eq {q : ℚ} {e c : Int} (least : -1074 ≤ e) (low : (2 : ℚ) ^ (e + 52) ≤ q)
    (high : q < 2 ^ (e + 53)) (close : |q * 2 ^ (-e) - c| < 1 / 2) : near q = c * 2 ^ e := by
  have positive : 0 < q := lt_of_lt_of_le (by positivity) low
  have ratio := parts_div positive.le
  have pos : 0 < q.den := Rat.den_pos q
  have given : 0 < q.num.natAbs := Int.natAbs_pos.2 (Rat.num_pos.2 positive).ne'
  have place : placeOf q.num.natAbs q.den = e := by
    obtain ⟨last, most, normal⟩ := placeOf_spec given pos
    rw [ratio] at most normal
    have above := (zpow_lt_zpow_iff_right₀ (by norm_num : (1 : ℚ) < 2)).1 (low.trans_lt most)
    rcases normal with all | normal
    · omega
    · have below := (zpow_lt_zpow_iff_right₀ (by norm_num : (1 : ℚ) < 2)).1 (normal.trans_lt high)
      omega
  have mantissa : (rounded q.num.natAbs q.den : Int) = c := by
    refine roundQuotient_eq (scale_pos pos _) ?_
    rw [scaled_ratio, ratio, place]
    exact close
  rw [near, place, ← mantissa, Int.cast_natCast]

/-- The same for numbers from one on, which have `j` places of their 53 bits behind the point. -/
theorem near_eq_div {q : ℚ} {p j : Nat} {c : Int} (places : p + j = 52) (low : (2 : ℚ) ^ p ≤ q)
    (high : q < 2 ^ (p + 1)) (close : |q * 2 ^ j - c| < 1 / 2) : near q = c / 2 ^ j := by
  have exponent : -(j : Int) + 52 = p := by omega
  have exponent' : -(j : Int) + 53 = (p + 1 : Nat) := by omega
  rw [div_eq_mul_inv, ← zpow_natCast, ← zpow_neg]
  refine near_eq (by omega) ?_ ?_ ?_
  · rwa [exponent, zpow_natCast]
  · rwa [exponent', zpow_natCast]
  · rwa [Int.neg_neg, zpow_natCast]

end Double

end Logbook
