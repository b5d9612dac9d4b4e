import Logbook.Proofs.Number.Rounding
import Logbook.Time.Stamp

/-!
# Which time stamps can be shown

A number of milliseconds is shown as a date through two roundings, one of the seconds and one of
their fraction. Neither crosses the ends of the calendar: whole seconds are doubles, and next to an
end there is a double between it and the nearest millisecond. So exactly the milliseconds of the
years 1 to 9999 can be shown (`stampText_int_iff`).
-/

namespace Logbook

/-- A number of milliseconds lies in the years 1 to 9999. -/
def InCalendar (ms : Int) : Prop :=
  secondsBeforeYear 1 * 1000 ≤ ms ∧ ms < secondsBeforeYear 10000 * 1000

instance (ms : Int) : Decidable (InCalendar ms) := by
  unfold InCalendar
  infer_instance

/-- There is a moment at a number of microseconds if the calendar has its day. -/
theorem Moment.isSome_ofMicros?_iff (n : Int) : (Moment.ofMicros? n).isSome ↔
    secondsBeforeYear 1 * 1000000 ≤ n ∧ n < secondsBeforeYear 10000 * 1000000 := by
  have first : secondsBeforeYear 1 = -62135596800 := by decide
  have last : secondsBeforeYear 10000 = 253402300800 := by decide
  have days : daysBeforeYear 10000 = 3652059 := by decide
  have day : n.fdiv microsPerDay = n / 86400000000 := Int.fdiv_eq_ediv_of_nonneg n (by decide)
  rw [Moment.ofMicros?, Option.isSome_map, day, first, last]
  unfold Date.ofDays?
  simp only [days, epochDay]
  split
  · simp only [Option.isSome_none, Bool.false_eq_true, false_iff]
    omega
  · simp only [Option.isSome_some, true_iff]
    omega

namespace Double

/-- The microseconds that are read off a double number of them. -/
def wholeMicros (x : Double) : Int :=
  match x.ratio? with
  | some (p, q) => p.sign * roundQuotient p.natAbs q
  | none => 0

/-- Microseconds read off a finite double: rounded to a whole number, with the sign of the double. -/
theorem wholeMicros_finite (negative : Bool) (m : Nat) (e : Int) :
    ∃ u : Nat, wholeMicros (.finite negative m e) = (if negative then -(u : Int) else u) ∧
      (∀ k : Nat, (m : ℚ) * 2 ^ e ≤ k → u ≤ k) ∧ ∀ k : Nat, (k : ℚ) ≤ m * 2 ^ e → k ≤ u := by
  obtain ⟨pos, same⟩ := magnitude_ratio m e
  have denominator : (0 : ℚ) < (magnitude m e).2 := by exact_mod_cast pos
  refine ⟨roundQuotient (magnitude m e).1 (magnitude m e).2, ?_, ?_, ?_⟩
  · have least : roundQuotient 0 (magnitude m e).2 = 0 := by
      have most := roundQuotient_le pos (Nat.zero_le (0 * (magnitude m e).2))
      omega
    unfold wholeMicros ratio?
    rcases Nat.eq_zero_or_pos (magnitude m e).1 with zero | more
    · cases negative <;> simp [zero, least]
    · have sign : ((magnitude m e).1 : Int).sign = 1 := Int.sign_eq_one_of_pos (by omega)
      cases negative <;> simp [Int.sign_neg, sign]
  · intro k h
    rw [← same, div_le_iff₀ denominator] at h
    exact roundQuotient_le pos (by exact_mod_cast h)
  · intro k h
    rw [← same, le_div_iff₀ denominator] at h
    exact le_roundQuotient pos (by exact_mod_cast h)

/-- A million times a double that is at most one. The product is rounded, and whole numbers on
either side of it stay there. -/
theorem exists_times (negative : Bool) {m : Nat} {e : Int} (least : (m : ℚ) * 2 ^ e ≤ 1) :
    ∃ m' e', (finite negative m e).times 1000000 = finite negative m' e' ∧
      (∀ k : Nat, k < 2 ^ 53 → (m : ℚ) * 2 ^ e * 1000000 ≤ k → (m' : ℚ) * 2 ^ e' ≤ k) ∧
      ∀ k : Nat, k < 2 ^ 53 → (k : ℚ) ≤ m * 2 ^ e * 1000000 → (k : ℚ) ≤ m' * 2 ^ e' := by
  have huge : (1000000 : ℚ) < 2 ^ (200 : Int) := by norm_num
  obtain ⟨positive, same⟩ := magnitude_ratio m e
  have product : ((magnitude m e).1 * 1000000 : Nat) / ((magnitude m e).2 : ℚ) =
      m * 2 ^ e * 1000000 := by
    rw [← same]
    push_cast
    ring
  obtain ⟨m', e', micros⟩ := exists_finite negative positive (by rw [product]; linarith)
  refine ⟨m', e', micros, ?_, ?_⟩
  · intro k small h
    have bound := size_le_of_ratio_le (k := k) (j := 0) positive small (by norm_num)
      (by rw [product]; simpa using h) micros
    simpa using bound
  · intro k small h
    have bound := le_size_of_le_ratio (k := k) (j := 0) positive small.le (by norm_num)
      (by rw [product]; simpa using h) micros
    simpa using bound

/-- The microseconds of a part of a second, which is rounded to a double before it is multiplied,
and after that once more. Bounds that are doubles are kept by both roundings. -/
theorem exists_micros (negative : Bool) {r b : Nat} (part : r < b) :
    ∃ u : Nat, wholeMicros ((ofRatio negative r b).times 1000000) =
        (if negative then -(u : Int) else u) ∧
      (∀ k j U : Nat, k < 2 ^ 53 → j ≤ 1074 → U < 2 ^ 53 → k * 1000000 ≤ U * 2 ^ j →
        (r : ℚ) / b ≤ (k : ℚ) / 2 ^ j → u ≤ U) ∧
      ∀ k j U : Nat, k < 2 ^ 53 → j ≤ 1074 → U < 2 ^ 53 → U * 2 ^ j ≤ k * 1000000 →
        (k : ℚ) / 2 ^ j ≤ (r : ℚ) / b → U ≤ u := by
  have pos : 0 < b := by omega
  have denominator : (0 : ℚ) < b := by exact_mod_cast pos
  have proper : (r : ℚ) / b ≤ 1 := by
    rw [div_le_one denominator]
    exact_mod_cast part.le
  have huge : (1 : ℚ) < 2 ^ (200 : Int) := by norm_num
  obtain ⟨m, e, seconds⟩ := exists_finite negative pos (proper.trans_lt huge)
  have least : (m : ℚ) * 2 ^ e ≤ 1 := by
    simpa using size_le_of_ratio_le (k := 1) (j := 0) pos (by norm_num) (by norm_num)
      (by simpa using proper) seconds
  obtain ⟨m', e', micros, atMost, atLeast⟩ := exists_times negative least
  obtain ⟨u, whole, above, below⟩ := wholeMicros_finite negative m' e'
  rw [seconds, micros]
  refine ⟨u, whole, ?_, ?_⟩
  · intro k j U small last smallU scaled h
    have first := size_le_of_ratio_le pos small last h seconds
    refine above U (atMost U smallU ((mul_le_mul_of_nonneg_right first (by norm_num)).trans ?_))
    rw [div_mul_eq_mul_div, div_le_iff₀ (by positivity)]
    exact_mod_cast scaled
  · intro k j U small last smallU scaled h
    have first := le_size_of_le_ratio pos small.le last h seconds
    refine below U (atLeast U smallU (le_trans ?_ (mul_le_mul_of_nonneg_right first (by norm_num))))
    rw [div_mul_eq_mul_div, le_div_iff₀ (by positivity)]
    exact_mod_cast scaled

/-- The microseconds of a double: the whole seconds, and the part of a second that is left, which
has the sign of the double if it is not zero. -/
theorem toMicros?_finite (negative : Bool) {m a b : Nat} {e : Int}
    (parts : magnitude m e = (a, b)) :
    ∃ sign : Bool, (a % b = 0 ∨ sign = negative) ∧ (finite negative m e).toMicros? =
      some ((if negative then -((a / b : Nat) : Int) else (a / b : Nat)) * 1000000 +
        wholeMicros ((ofRatio sign (a % b) b).times 1000000)) := by
  cases negative with
  | false =>
    refine ⟨false, .inr rfl, ?_⟩
    have natural : ¬((a % b : Nat) : Int) < 0 := by omega
    simp only [toMicros?, ratio?, parts, Option.map_some, Bool.false_eq_true, if_false, ofQuotient,
      ← Int.ofNat_tmod, ← Int.ofNat_tdiv, natural, decide_false, Int.natAbs_natCast]
    rfl
  | true =>
    refine ⟨decide (-((a % b : Nat) : Int) < 0), ?_, ?_⟩
    · by_cases whole : a % b = 0
      · exact .inl whole
      · right
        rw [decide_eq_true_eq]
        omega
    · simp only [toMicros?, ratio?, parts, Option.map_some, if_true, ofQuotient, Int.neg_tmod,
        Int.neg_tdiv, ← Int.ofNat_tmod, ← Int.ofNat_tdiv, Int.natAbs_neg, Int.natAbs_natCast]
      rfl

/-- The microseconds `u` of the part of a second that a quotient of `a` by `b` leaves: they are none
or keep a distance from a second where the part does. -/
structure PartMicros (a b u : Nat) : Prop where
  most : u ≤ 1000000
  without : a % b = 0 → u = 0
  near : 1024 * (a % b) ≤ 1023 * b → u ≤ 999024
  far : b ≤ 1024 * (a % b) → 976 ≤ u

namespace PartMicros

variable {a b u : Nat}

/-- Whole seconds that the quotient reaches are reached by the microseconds. -/
theorem le_of_le (pos : 0 < b) {k : Nat} (h : k * b ≤ a) : k * 1000000 ≤ a / b * 1000000 + u := by
  have least : k ≤ a / b := (Nat.le_div_iff_mul_le pos).2 h
  omega

/-- Whole seconds that the quotient does not exceed are not exceeded by the microseconds. -/
theorem le_of_ge (p : PartMicros a b u) {k : Nat} (h : a ≤ k * b) :
    a / b * 1000000 + u ≤ k * 1000000 := by
  have most := p.most
  have whole := Nat.div_add_mod' a b
  have greatest : a / b ≤ k := Nat.div_le_of_le_mul (by rwa [Nat.mul_comm] at h)
  rcases Nat.lt_or_eq_of_le greatest with below | rfl
  · omega
  · have nothing := p.without (by omega)
    omega

/-- Whole seconds that are well after the quotient are after the microseconds. -/
theorem lt_of_well_after (p : PartMicros a b u) (pos : 0 < b) {k : Nat}
    (h : a * 1024 + b ≤ k * b * 1024) : a / b * 1000000 + u < k * 1000000 := by
  have most := p.most
  have whole := Nat.div_add_mod' a b
  have greatest : a / b < k := by
    rw [Nat.div_lt_iff_lt_mul pos]
    omega
  rcases Nat.lt_or_eq_of_le (Nat.succ_le_of_lt greatest) with below | rfl
  · omega
  · have distance := p.near (by rw [Nat.succ_mul] at h; omega)
    omega

/-- Whole seconds that are well before the quotient are before the microseconds. -/
theorem lt_of_well_before (p : PartMicros a b u) (pos : 0 < b) {k : Nat}
    (h : k * b * 1024 + b ≤ a * 1024) : k * 1000000 < a / b * 1000000 + u := by
  have whole := Nat.div_add_mod' a b
  have least : k ≤ a / b := by
    rw [Nat.le_div_iff_mul_le pos]
    omega
  rcases Nat.lt_or_eq_of_le least with above | rfl
  · omega
  · have distance := p.far (by omega)
    omega

end PartMicros

/-- The microseconds of a double are those of its whole seconds and those of the part of a second
that is left. -/
theorem exists_toMicros (negative : Bool) {m a b : Nat} {e : Int}
    (parts : magnitude m e = (a, b)) :
    ∃ u : Nat, PartMicros a b u ∧ (finite negative m e).toMicros? =
      some (if negative then -((a / b * 1000000 + u : Nat) : Int)
        else (a / b * 1000000 + u : Nat)) := by
  have pos : 0 < b := by
    have positive := (magnitude_ratio m e).1
    rwa [parts] at positive
  have denominator : (0 : ℚ) < b := by exact_mod_cast pos
  obtain ⟨sign, same, split⟩ := toMicros?_finite negative parts
  obtain ⟨u, micros, above, below⟩ := exists_micros sign (Nat.mod_lt a pos)
  have without : a % b = 0 → u = 0 := by
    intro zero
    have := above 0 0 0 (by norm_num) (by norm_num) (by norm_num) (by norm_num) (by simp [zero])
    omega
  refine ⟨u, ⟨?_, without, ?_, ?_⟩, ?_⟩
  · refine above 1 0 1000000 (by norm_num) (by norm_num) (by norm_num) (by norm_num) ?_
    rw [div_le_iff₀ denominator]
    have part := (Nat.mod_lt a pos).le
    norm_num
    exact_mod_cast part
  · intro h
    refine above 1023 10 999024 (by norm_num) (by norm_num) (by norm_num) (by norm_num) ?_
    rw [div_le_div_iff₀ denominator (by norm_num)]
    norm_num
    exact_mod_cast (by omega : a % b * 1024 ≤ 1023 * b)
  · intro h
    refine below 1 10 976 (by norm_num) (by norm_num) (by norm_num) (by norm_num) ?_
    rw [div_le_div_iff₀ (by norm_num) denominator]
    norm_num
    exact_mod_cast (by omega : b ≤ a % b * 1024)
  · rw [split, micros]
    rcases same with zero | rfl
    · rw [without zero]
      cases negative <;> simp
    · cases sign <;> simp
      ring

/-- The microseconds of a double lie on the same side of a whole second as the double does, and
properly so if the double keeps a distance from it. -/
theorem toMicros?_sides (negative : Bool) (m : Nat) (e : Int) :
    ∃ w : Nat, (finite negative m e).toMicros? = some (if negative then -(w : Int) else w) ∧
      ∀ k : Nat, ((k : ℚ) ≤ m * 2 ^ e → k * 1000000 ≤ w) ∧
        ((m : ℚ) * 2 ^ e ≤ k → w ≤ k * 1000000) ∧
        ((m : ℚ) * 2 ^ e + 1 / 1024 ≤ k → w < k * 1000000) ∧
        ((k : ℚ) + 1 / 1024 ≤ m * 2 ^ e → k * 1000000 < w) := by
  obtain ⟨a, b, parts⟩ : ∃ a b, magnitude m e = (a, b) := ⟨_, _, rfl⟩
  obtain ⟨u, part, micros⟩ := exists_toMicros negative parts
  obtain ⟨pos, same⟩ : 0 < b ∧ (a : ℚ) / b = m * 2 ^ e := by
    simpa only [parts] using magnitude_ratio m e
  have denominator : (0 : ℚ) < b := by exact_mod_cast pos
  rw [← same]
  refine ⟨_, micros, fun k => ⟨?_, ?_, ?_, ?_⟩⟩
  · intro h
    rw [le_div_iff₀ denominator] at h
    exact PartMicros.le_of_le pos (by exact_mod_cast h)
  · intro h
    rw [div_le_iff₀ denominator] at h
    exact part.le_of_ge (by exact_mod_cast h)
  · intro h
    rw [div_add_div _ _ denominator.ne' (by norm_num), div_le_iff₀ (by positivity)] at h
    refine part.lt_of_well_after pos ?_
    rw [Nat.mul_assoc]
    exact_mod_cast (by linarith : (a : ℚ) * 1024 + b ≤ k * (b * 1024))
  · intro h
    rw [add_div' _ _ _ (by norm_num : (1024 : ℚ) ≠ 0),
      div_le_div_iff₀ (by norm_num) denominator] at h
    refine part.lt_of_well_before pos ?_
    exact_mod_cast (by linarith : (k : ℚ) * b * 1024 + b ≤ a * 1024)

section Millis

variable {ms : Int} {negative : Bool} {m k j : Nat} {e : Int}

/-- The double of the seconds of some milliseconds does not exceed a double that they do not. -/
theorem size_le_of_millis (seconds : ofQuotient ms 1000 = finite negative m e) (small : k < 2 ^ 53)
    (last : j ≤ 1074) (h : ms.natAbs * 2 ^ j ≤ k * 1000) : (m : ℚ) * 2 ^ e ≤ (k : ℚ) / 2 ^ j := by
  refine size_le_of_ratio_le (by norm_num) small last ?_ seconds
  rw [div_le_div_iff₀ (by norm_num) (by positivity)]
  exact_mod_cast h

/-- The double of the seconds of some milliseconds reaches a double that they reach. -/
theorem le_size_of_millis (seconds : ofQuotient ms 1000 = finite negative m e) (small : k < 2 ^ 53)
    (last : j ≤ 1074) (h : k * 1000 ≤ ms.natAbs * 2 ^ j) : (k : ℚ) / 2 ^ j ≤ (m : ℚ) * 2 ^ e := by
  refine le_size_of_le_ratio (by norm_num) small.le last ?_ seconds
  rw [div_le_div_iff₀ (by positivity) (by norm_num)]
  exact_mod_cast h

/-- The microseconds of a number of milliseconds, through the double of its seconds, lie in the
calendar exactly if the milliseconds do. -/
theorem toMicros?_inCalendar (seconds : ofQuotient ms 1000 = finite negative m e) :
    ∃ n, (finite negative m e).toMicros? = some n ∧
      (secondsBeforeYear 1 * 1000000 ≤ n ∧ n < secondsBeforeYear 10000 * 1000000 ↔
        InCalendar ms) := by
  have first : secondsBeforeYear 1 = -62135596800 := by decide
  have last : secondsBeforeYear 10000 = 253402300800 := by decide
  obtain ⟨sign, -⟩ := ofRatio_finite seconds
  obtain ⟨w, micros, sides⟩ := toMicros?_sides negative m e
  refine ⟨_, micros, ?_⟩
  rw [InCalendar, first, last, sign]
  -- whole seconds are doubles, and so are those a 1024th part of a second away
  rcases Int.lt_or_le ms 0 with before | after
  · simp only [before, decide_true, if_true]
    obtain ⟨-, most, -, beyond⟩ := sides 62135596800
    by_cases inside : ms.natAbs ≤ 62135596800000
    · have size := size_le_of_millis (k := 62135596800) (j := 0) seconds (by norm_num) (by norm_num)
        (by omega)
      have micros := most (by norm_num at size ⊢; exact size)
      omega
    · have size := le_size_of_millis (k := 63626851123201) (j := 10) seconds (by norm_num)
        (by norm_num) (by omega)
      have micros := beyond (by norm_num at size ⊢; linarith)
      omega
  · simp only [Int.not_lt.2 after, decide_false, Bool.false_eq_true, if_false]
    obtain ⟨least, -, short, -⟩ := sides 253402300800
    by_cases inside : ms.natAbs < 253402300800000
    · have size := size_le_of_millis (k := 259483956019199) (j := 10) seconds (by norm_num)
        (by norm_num) (by omega)
      have micros := short (by norm_num at size ⊢; linarith)
      omega
    · have size := le_size_of_millis (k := 253402300800) (j := 0) seconds (by norm_num)
        (by norm_num) (by omega)
      have micros := least (by norm_num at size ⊢; exact size)
      omega

end Millis

end Double

/-- A moment is found for a double of seconds exactly if the calendar has its microseconds. -/
theorem momentAt_finite_iff {negative : Bool} {m : Nat} {e n : Int}
    (micros : (Double.finite negative m e).toMicros? = some n) :
    (∃ moment, momentAt (.finite negative m e) = .ok moment) ↔
      secondsBeforeYear 1 * 1000000 ≤ n ∧ n < secondsBeforeYear 10000 * 1000000 := by
  have first : secondsBeforeYear 1 = -62135596800 := by decide
  have last : secondsBeforeYear 10000 = 253402300800 := by decide
  have oldest : secondsBeforeYear (-2147481748) = -67768040609740800 := by decide
  have newest : secondsBeforeYear 2147485548 = 67768036191676800 := by decide
  have second : n.fdiv 1000000 = n / 1000000 := Int.fdiv_eq_ediv_of_nonneg n (by decide)
  have calendar := Moment.isSome_ofMicros?_iff n
  unfold momentAt
  simp only [micros, second, oldest, newest]
  rw [← calendar]
  constructor
  · rintro ⟨moment, found⟩
    split at found
    · cases found
    · split at found
      · cases found
      · split at found
        · next there => rw [there]; rfl
        · cases found
  · intro there
    have inside := calendar.1 there
    rw [first, last] at inside
    have word : Word.holds (n / 1000000) = true := by
      simp only [Word.holds, Word.least, Word.greatest, Bool.and_eq_true]
      exact ⟨decide_eq_true (by omega), decide_eq_true (by omega)⟩
    obtain ⟨moment, found⟩ := Option.isSome_iff_exists.1 there
    refine ⟨moment, ?_⟩
    rw [if_neg (by simp [word]), if_neg (by omega), found]

/-- The seconds of a number of milliseconds in the calendar are finite. -/
theorem exists_seconds {ms : Int} (inside : InCalendar ms) :
    ∃ m e, Double.ofQuotient ms 1000 = .finite (ms < 0) m e := by
  have first : secondsBeforeYear 1 = -62135596800 := by decide
  have last : secondsBeforeYear 10000 = 253402300800 := by decide
  have size : ms.natAbs < 253402300800000 := by
    rw [InCalendar, first, last] at inside
    omega
  refine Double.exists_finite (ms < 0) (by norm_num) ?_
  calc (ms.natAbs : ℚ) / (1000 : Nat) ≤ ms.natAbs :=
        div_le_self (by positivity) (by norm_num)
    _ < 253402300800000 := by exact_mod_cast size
    _ < 2 ^ (200 : Int) := by norm_num

/-- A number of milliseconds can be shown exactly if it lies in the calendar. -/
theorem stampText_int_iff (ms : Int) : (∃ text, stampText (.int ms) = .ok text) ↔ InCalendar ms := by
  cases seconds : Double.ofQuotient ms 1000 with
  | finite negative m e =>
    obtain ⟨n, micros, inside⟩ := Double.toMicros?_inCalendar seconds
    rw [← inside, ← momentAt_finite_iff micros]
    simp only [stampText, secondsOf, seconds, bind, Except.bind]
    cases momentAt (.finite negative m e) <;> simp [pure, Except.pure]
  | infinite _ | nan =>
    constructor
    · rintro ⟨text, shown⟩
      simp [stampText, secondsOf, seconds, momentAt, bind, Except.bind] at shown
    · intro inside
      obtain ⟨m, e, other⟩ := exists_seconds inside
      rw [seconds] at other
      cases other

end Logbook
