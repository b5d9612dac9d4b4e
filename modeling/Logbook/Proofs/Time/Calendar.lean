import Logbook.Time.Moment
import Mathlib.Algebra.Order.Group.Nat
import Mathlib.Tactic.IntervalCases

/-!
# The calendar as a sequence of days

The months follow one another, each with its days, and so the number of a day is that of the first day
of its month and the days of the month before it (`Date.days_eq`). From this the order of the dates is
that of their numbers (`Date.days_lt_iff`), the date of a number has that number (`Date.days_of_ofDays?`)
and it is the only one (`Date.ofDays?_days`). The numbers are those that one gets by counting the days
one by one from the first of January 1970, forwards and backwards (`Date.isDay_iff`).
-/

namespace Logbook

section Months

/-- The lengths of a year's months, as far as they matter: there are 28 to 31 days in each. -/
theorem daysInMonth_between (year month : Nat) (first : 1 ≤ month) (last : month ≤ 12) :
    28 ≤ daysInMonth year month ∧ daysInMonth year month ≤ 31 := by
  unfold daysInMonth
  generalize isLeap year = leap
  revert leap
  interval_cases month <;> decide

/-- A month begins after the days of the month before it. -/
theorem daysBeforeMonth_succ (year month : Nat) (first : 1 ≤ month) (last : month ≤ 12) :
    daysBeforeMonth year (month + 1) = daysBeforeMonth year month + daysInMonth year month := by
  unfold daysBeforeMonth daysInMonth
  generalize isLeap year = leap
  revert leap
  interval_cases month <;> decide

theorem daysBeforeMonth_one (year : Nat) : daysBeforeMonth year 1 = 0 := rfl

/-- The number of days of a year. -/
def daysInYear (year : Nat) : Nat :=
  if isLeap year then 366 else 365

/-- A year consists of its twelve months. -/
theorem daysBeforeMonth_thirteen (year : Nat) : daysBeforeMonth year 13 = daysInYear year := by
  unfold daysBeforeMonth daysInYear
  generalize isLeap year = leap
  revert leap
  decide

/-- A year begins after the days of the year before it. -/
theorem daysBeforeYear_succ (year : Nat) :
    daysBeforeYear (year + 1 : Nat) = daysBeforeYear year + daysInYear year := by
  have leap : isLeap year = true ↔ year % 4 = 0 ∧ (year % 100 ≠ 0 ∨ year % 400 = 0) := by
    simp [isLeap]
  unfold daysBeforeYear daysInYear
  simp only [Int.fdiv_eq_ediv_of_nonneg _ (show (0 : Int) ≤ 4 by omega),
    Int.fdiv_eq_ediv_of_nonneg _ (show (0 : Int) ≤ 100 by omega),
    Int.fdiv_eq_ediv_of_nonneg _ (show (0 : Int) ≤ 400 by omega), leap]
  split_ifs <;> push_cast <;> omega

/-- The number of days of a month, counted from the January of a year 0. -/
def monthLength (k : Nat) : Nat :=
  daysInMonth (k / 12) (k % 12 + 1)

/-- The number of the first day of a month, counted from the January of a year 0. -/
def monthStart (k : Nat) : Int :=
  daysBeforeYear (k / 12 : Nat) - epochDay + daysBeforeMonth (k / 12) (k % 12 + 1)

theorem monthLength_between (k : Nat) : 28 ≤ monthLength k ∧ monthLength k ≤ 31 :=
  daysInMonth_between _ _ (by omega) (by omega)

/-- The months follow one another. -/
theorem monthStart_succ (k : Nat) : monthStart (k + 1) = monthStart k + monthLength k := by
  unfold monthStart monthLength
  have sum := daysBeforeMonth_succ (k / 12) (k % 12 + 1) (by omega) (by omega)
  by_cases december : k % 12 = 11
  · -- the next month is the first one of the next year
    have year : (k + 1) / 12 = k / 12 + 1 := by omega
    have month : (k + 1) % 12 = 0 := by omega
    rw [december] at sum ⊢
    rw [daysBeforeMonth_thirteen] at sum
    rw [year, month, daysBeforeYear_succ, daysBeforeMonth_one]
    omega
  · have year : (k + 1) / 12 = k / 12 := by omega
    have month : (k + 1) % 12 = k % 12 + 1 := by omega
    rw [year, month, sum]
    omega

theorem monthStart_le {k l : Nat} (order : k ≤ l) : monthStart k ≤ monthStart l := by
  induction order with
  | refl => exact Int.le_refl _
  | step _ ih =>
    rw [monthStart_succ]
    omega

end Months

namespace Date

/-- The number of the month of a date, counted from the January of a year 0. -/
def monthNumber (d : Date) : Nat :=
  12 * d.year + (d.month - 1)

variable {d d' : Date}

theorem Valid.monthNumber_div (valid : d.Valid) : d.monthNumber / 12 = d.year := by
  obtain ⟨-, -, first, last, -⟩ := valid
  unfold monthNumber
  omega

theorem Valid.monthNumber_mod (valid : d.Valid) : d.monthNumber % 12 + 1 = d.month := by
  obtain ⟨-, -, first, last, -⟩ := valid
  unfold monthNumber
  omega

theorem Valid.day_le (valid : d.Valid) : d.day ≤ monthLength d.monthNumber := by
  rw [monthLength, valid.monthNumber_div, valid.monthNumber_mod]
  exact valid.2.2.2.2.2

theorem Valid.one_le_day (valid : d.Valid) : 1 ≤ d.day :=
  valid.2.2.2.2.1

/-- The months of the years 1 to 9999. -/
theorem Valid.monthNumber_between (valid : d.Valid) :
    12 ≤ d.monthNumber ∧ d.monthNumber < 120000 := by
  obtain ⟨low, high, first, last, -⟩ := valid
  unfold monthNumber
  omega

/-- A date of the calendar is known by its month and its day. -/
theorem eq_of_monthNumber (valid : d.Valid) (valid' : d'.Valid) (month : d.monthNumber = d'.monthNumber)
    (day : d.day = d'.day) : d = d' := by
  have year := valid.monthNumber_div
  have months := valid.monthNumber_mod
  rw [month, valid'.monthNumber_div] at year
  rw [month, valid'.monthNumber_mod] at months
  cases d
  cases d'
  simp_all

/-- The day of a month of the calendar. -/
theorem valid_of_monthNumber {k day : Nat} (low : 12 ≤ k) (high : k < 120000) (first : 1 ≤ day)
    (last : day ≤ monthLength k) : Valid ⟨k / 12, k % 12 + 1, day⟩ := by
  refine ⟨?_, ?_, ?_, ?_, first, last⟩ <;> dsimp only <;> omega

/-- A day is counted from the first day of its month. -/
theorem days_eq (valid : d.Valid) : d.days = monthStart d.monthNumber + d.day - 1 := by
  rw [monthStart, valid.monthNumber_div, valid.monthNumber_mod]
  rfl

/-- A date of an earlier month has a smaller number. -/
theorem days_lt_of_monthNumber (valid : d.Valid) (valid' : d'.Valid)
    (earlier : d.monthNumber < d'.monthNumber) : d.days < d'.days := by
  have next : monthStart (d.monthNumber + 1) ≤ monthStart d'.monthNumber :=
    monthStart_le earlier
  have last := valid.day_le
  have first := valid'.one_le_day
  rw [monthStart_succ] at next
  rw [days_eq valid, days_eq valid']
  omega

/-- The numbers of the days are in the order of the dates. -/
theorem days_lt_iff (valid : d.Valid) (valid' : d'.Valid) : d.days < d'.days ↔
    d.monthNumber < d'.monthNumber ∨ d.monthNumber = d'.monthNumber ∧ d.day < d'.day := by
  rcases lt_trichotomy d.monthNumber d'.monthNumber with earlier | same | later
  · exact iff_of_true (days_lt_of_monthNumber valid valid' earlier) (.inl earlier)
  · rw [days_eq valid, days_eq valid', same]
    omega
  · have := days_lt_of_monthNumber valid' valid later
    exact iff_of_false (by omega) (by omega)

/-- Different dates have different numbers. -/
theorem days_inj (valid : d.Valid) (valid' : d'.Valid) (same : d.days = d'.days) : d = d' := by
  have before := mt (days_lt_iff valid valid').2 (by omega)
  have after := mt (days_lt_iff valid' valid).2 (by omega)
  refine eq_of_monthNumber valid valid' ?_ ?_ <;> omega

/-- The numbers of the days of the years 1 to 9999. -/
theorem Valid.days_between (valid : d.Valid) : -epochDay ≤ d.days ∧ d.days < 2932897 := by
  obtain ⟨low, high⟩ := valid.monthNumber_between
  have least : monthStart 12 ≤ monthStart d.monthNumber := monthStart_le low
  have greatest : monthStart (d.monthNumber + 1) ≤ monthStart 120000 :=
    monthStart_le high
  have start : monthStart 12 = -epochDay := by decide
  have stop : monthStart 120000 = 2932897 := by decide
  have first := valid.one_le_day
  have last := valid.day_le
  rw [monthStart_succ] at greatest
  rw [days_eq valid]
  omega

end Date

section Inverse

namespace Date

/-- The year of a day, and the days of that year before it. -/
theorem splitYear_spec {n : Nat} (inside : n < 3652059) :
    1 ≤ (splitYear n).1 ∧ (splitYear n).1 ≤ 9999 ∧
      daysBeforeYear ((splitYear n).1 : Nat) + (splitYear n).2 = n ∧
      (splitYear n).2 < daysInYear (splitYear n).1 := by
  -- the day in terms of the whole cycles, centuries, leap cycles and years before it
  obtain ⟨c, b, q, y, r, split, place, few, short⟩ : ∃ c b q y r : Nat,
      splitYear n = (400 * c + 100 * b + 4 * q + y + 1, r) ∧
      n = 146097 * c + 36524 * b + 1461 * q + 365 * y + r ∧ (b ≤ 3 ∧ q ≤ 24 ∧ y ≤ 3) ∧
      (r < 365 ∨ r = 365 ∧ y = 3 ∧ (q < 24 ∨ b = 3)) := by
    obtain ⟨b, centuries⟩ : ∃ b, b = min (n % 146097 / 36524) 3 := ⟨_, rfl⟩
    obtain ⟨k, century⟩ : ∃ k, k = n % 146097 - b * 36524 := ⟨_, rfl⟩
    obtain ⟨y, years⟩ : ∃ y, y = min (k % 1461 / 365) 3 := ⟨_, rfl⟩
    refine ⟨n / 146097, b, k / 1461, y, k % 1461 - y * 365, ?_, ?_, ?_, ?_⟩
    · rw [years, century, centuries]
      rfl
    all_goals omega
  have leap : isLeap (400 * c + 100 * b + 4 * q + y + 1) = true ↔ y = 3 ∧ (q < 24 ∨ b = 3) := by
    simp only [isLeap, Bool.and_eq_true, Bool.or_eq_true, decide_eq_true_eq]
    omega
  rw [split]
  dsimp only
  refine ⟨by omega, by omega, ?_, ?_⟩
  · unfold daysBeforeYear
    simp only [Int.fdiv_eq_ediv_of_nonneg _ (show (0 : Int) ≤ 4 by omega),
      Int.fdiv_eq_ediv_of_nonneg _ (show (0 : Int) ≤ 100 by omega),
      Int.fdiv_eq_ediv_of_nonneg _ (show (0 : Int) ≤ 400 by omega)]
    omega
  · unfold daysInYear
    split_ifs with long <;> rw [leap] at long <;> omega

/-- The month of a day among the months of a list, and the day of that month. -/
theorem inMonths_spec (lengths : List Nat) (month : Nat) {n : Nat} (inside : n < lengths.sum) :
    ∃ i day len, inMonths lengths month n = (month + i, day) ∧ lengths[i]? = some len ∧
      1 ≤ day ∧ day ≤ len ∧ n + 1 = (lengths.take i).sum + day := by
  induction lengths generalizing month n with
  | nil => exact absurd inside (Nat.not_lt_zero n)
  | cons len r ih =>
    rw [List.sum_cons] at inside
    unfold inMonths
    split
    · next within => exact ⟨0, n + 1, len, rfl, rfl, by omega, by omega, by simp⟩
    · next beyond =>
      obtain ⟨i, day, len', found, there, first, last, place⟩ :=
        ih (month + 1) (n := n - len) (by omega)
      refine ⟨i + 1, day, len', ?_, there, first, last, ?_⟩
      · rw [found, Nat.add_right_comm, Nat.add_assoc]
      · rw [List.take_succ_cons, List.sum_cons]
        omega

/-- The date of a number, by the year and the month that its day falls into. -/
theorem ofDays?_eq {n : Int} {k year rest : Nat} (number : n + epochDay = k) (inside : k < 3652059)
    (part : splitYear k = (year, rest)) : ofDays? n =
      some ⟨year, (inMonths (monthLengths (isLeap year)) 1 rest).1,
        (inMonths (monthLengths (isLeap year)) 1 rest).2⟩ := by
  have last : daysBeforeYear 10000 = 3652059 := by decide
  unfold ofDays?
  rw [number, last, if_neg (by omega), Int.toNat_natCast, part]

/-- The numbers without a date are those outside of the calendar. -/
theorem ofDays?_eq_none {n : Int} (outside : n < -epochDay ∨ 2932897 ≤ n) : ofDays? n = none := by
  have last : daysBeforeYear 10000 = 3652059 := by decide
  unfold ofDays?
  rw [last, if_pos (by rw [epochDay] at *; omega)]

/-- The date of a number is one of the calendar and has that number. -/
theorem days_of_ofDays? {n : Int} {d : Date} (found : ofDays? n = some d) :
    d.Valid ∧ d.days = n := by
  have inside : -epochDay ≤ n ∧ n < 2932897 := by
    by_contra outside
    rw [ofDays?_eq_none (by omega)] at found
    cases found
  rw [epochDay] at inside
  obtain ⟨k, number⟩ : ∃ k : Nat, n + epochDay = k :=
    ⟨_, (Int.toNat_of_nonneg (by rw [epochDay]; omega)).symm⟩
  have few : k < 3652059 := by
    rw [epochDay] at number
    omega
  obtain ⟨low, high, place, within⟩ := splitYear_spec few
  obtain ⟨⟨year, rest⟩, part⟩ : ∃ p, splitYear k = p := ⟨_, rfl⟩
  rw [part] at low high place within
  dsimp only at low high place within
  have months : (monthLengths (isLeap year)).sum = daysInYear year := daysBeforeMonth_thirteen year
  obtain ⟨i, day, len, month, there, first, most, sum⟩ :=
    inMonths_spec (monthLengths (isLeap year)) 1 (n := rest) (by omega)
  rw [ofDays?_eq number few part, month] at found
  cases found
  have twelve : i < 12 := (List.getElem?_eq_some_iff.1 there).1
  have length : daysInMonth year (1 + i) = len := by
    unfold daysInMonth
    rw [Nat.add_sub_cancel_left, List.getD_eq_getElem?_getD, there, Option.getD_some]
  have before : daysBeforeMonth year (1 + i) = ((monthLengths (isLeap year)).take i).sum := by
    unfold daysBeforeMonth
    rw [Nat.add_sub_cancel_left]
    rfl
  refine ⟨⟨low, high, ?_, ?_, first, ?_⟩, ?_⟩
  · show 1 ≤ 1 + i
    omega
  · show 1 + i ≤ 12
    omega
  · show day ≤ daysInMonth year (1 + i)
    omega
  · show daysBeforeYear year - epochDay + daysBeforeMonth year (1 + i) + day - 1 = n
    omega

/-- Each number from the first to the last day of the calendar has a date. -/
theorem exists_ofDays? {n : Int} (least : -epochDay ≤ n) (most : n < 2932897) :
    ∃ d, ofDays? n = some d := by
  obtain ⟨k, number⟩ : ∃ k : Nat, n + epochDay = k := ⟨_, (Int.toNat_of_nonneg (by omega)).symm⟩
  have few : k < 3652059 := by
    rw [epochDay] at number
    omega
  exact ⟨_, ofDays?_eq number few Prod.mk.eta.symm⟩

/-- The number of a date of the calendar leads back to it. -/
theorem ofDays?_days {d : Date} (valid : d.Valid) : ofDays? d.days = some d := by
  obtain ⟨least, most⟩ := valid.days_between
  obtain ⟨d', found⟩ := exists_ofDays? least most
  obtain ⟨valid', same⟩ := days_of_ofDays? found
  rw [found, days_inj valid' valid same]

end Date

namespace Moment

variable {m m' : Moment}

theorem dayMicros_nonneg (m : Moment) : 0 ≤ m.dayMicros := by
  unfold dayMicros
  omega

/-- A time of day comes before midnight. -/
theorem Valid.dayMicros_lt (valid : m.Valid) : m.dayMicros < microsPerDay := by
  obtain ⟨-, hour, minute, second, micro⟩ := valid
  unfold dayMicros microsPerDay
  omega

/-- A date at a time of day before midnight. -/
theorem atMicros_spec {d : Date} (valid : d.Valid) {n : Nat} (inside : (n : Int) < microsPerDay) :
    (atMicros d n).Valid ∧ (atMicros d n).dayMicros = n := by
  rw [microsPerDay] at inside
  unfold atMicros Valid dayMicros
  dsimp only
  refine ⟨⟨valid, ?_, ?_, ?_, ?_⟩, ?_⟩ <;> omega

/-- The parts of a moment are known by its time of day. -/
theorem atMicros_dayMicros (valid : m.Valid) : atMicros m.date m.dayMicros.toNat = m := by
  obtain ⟨-, hour, minute, second, micro⟩ := valid
  obtain ⟨date, h, n, s, u⟩ := m
  have whole : Moment.dayMicros ⟨date, h, n, s, u⟩ =
      (((h * 60 + n) * 60 + s) * 1000000 + u : Nat) := by
    unfold dayMicros
    push_cast
    rfl
  dsimp only at hour minute second micro
  rw [whole, Int.toNat_natCast]
  unfold atMicros
  simp only [Moment.mk.injEq, true_and]
  omega

/-- The moment at a number of microseconds is one of the calendar and has that number. -/
theorem micros_of_ofMicros? {n : Int} (found : ofMicros? n = some m) : m.Valid ∧ m.micros = n := by
  obtain ⟨d, dated, rfl⟩ := Option.map_eq_some_iff.1 found
  obtain ⟨valid, days⟩ := Date.days_of_ofDays? dated
  have least := Int.fmod_nonneg_of_pos n (show (0 : Int) < microsPerDay by decide)
  have most := Int.fmod_lt_of_pos n (show (0 : Int) < microsPerDay by decide)
  have split := Int.mul_fdiv_add_fmod n microsPerDay
  have natural := Int.toNat_of_nonneg least
  obtain ⟨real, time⟩ := atMicros_spec valid (n := (n.fmod microsPerDay).toNat) (by omega)
  refine ⟨real, ?_⟩
  rw [micros, time, natural, show (atMicros d _).date = d from rfl, days, Int.mul_comm]
  exact split

/-- The microseconds of a moment of the calendar lead back to it. -/
theorem ofMicros?_micros (valid : m.Valid) : ofMicros? m.micros = some m := by
  have least := m.dayMicros_nonneg
  have most := valid.dayMicros_lt
  have day : m.micros.fdiv microsPerDay = m.date.days := by
    rw [Int.fdiv_eq_ediv_of_nonneg _ (by decide), micros]
    rw [microsPerDay] at *
    omega
  have time : m.micros.fmod microsPerDay = m.dayMicros := by
    have split := Int.mul_fdiv_add_fmod m.micros microsPerDay
    have whole : m.micros = m.date.days * microsPerDay + m.dayMicros := rfl
    rw [day, Int.mul_comm] at split
    omega
  rw [ofMicros?, day, time, Date.ofDays?_days valid.1, Option.map_some, atMicros_dayMicros valid]

/-- Moments are in the order of their dates, and on one date in that of their times of day. -/
theorem micros_le_iff (valid : m.Valid) (valid' : m'.Valid) : m.micros ≤ m'.micros ↔
    m.date.days < m'.date.days ∨ m.date = m'.date ∧ m.dayMicros ≤ m'.dayMicros := by
  have least := m.dayMicros_nonneg
  have most := valid.dayMicros_lt
  have least' := m'.dayMicros_nonneg
  have most' := valid'.dayMicros_lt
  have same : m.date = m'.date ↔ m.date.days = m'.date.days :=
    ⟨congrArg _, Date.days_inj valid.1 valid'.1⟩
  rw [same, micros, micros]
  rw [microsPerDay] at *
  omega

end Moment

end Inverse

section Counting

namespace Date

/-- The day after a date. -/
def next (d : Date) : Date :=
  if d.day < daysInMonth d.year d.month then ⟨d.year, d.month, d.day + 1⟩
  else if d.month < 12 then ⟨d.year, d.month + 1, 1⟩
  else ⟨d.year + 1, 1, 1⟩

/-- The number of a day, counted from the first of January 1970: one more for the next day, and one
less for the day before. -/
inductive IsDay : Date → Int → Prop
  | epoch : IsDay ⟨1970, 1, 1⟩ 0
  | after {d n} : d.next.Valid → IsDay d n → IsDay d.next (n + 1)
  | before {d n} : d.Valid → IsDay d.next n → IsDay d (n - 1)

variable {d : Date} {n : Int}

/-- The next day has the next number. -/
theorem days_next (valid : d.Valid) (valid' : d.next.Valid) : d.next.days = d.days + 1 := by
  have length : monthLength d.monthNumber = daysInMonth d.year d.month := by
    rw [monthLength, valid.monthNumber_div, valid.monthNumber_mod]
  have start := monthStart_succ d.monthNumber
  rw [days_eq valid', days_eq valid]
  obtain ⟨-, -, first, last, -, most⟩ := valid
  unfold next
  split_ifs with within within
  · show monthStart d.monthNumber + (d.day + 1 : Nat) - 1 = _
    omega
  · rw [show monthNumber ⟨d.year, d.month + 1, 1⟩ = d.monthNumber + 1 by
      unfold monthNumber; dsimp only; omega]
    dsimp only
    omega
  · rw [show monthNumber ⟨d.year + 1, 1, 1⟩ = d.monthNumber + 1 by
      unfold monthNumber; dsimp only; omega]
    dsimp only
    omega

/-- There is a next day unless the calendar ends. -/
theorem valid_next (valid : d.Valid) (more : d.days < 2932896) : d.next.Valid := by
  have last : days ⟨9999, 12, 31⟩ = 2932896 := by decide
  have other : d ≠ ⟨9999, 12, 31⟩ := by
    rintro rfl
    omega
  obtain ⟨low, high, first, twelve, one, most⟩ := valid
  unfold next
  split_ifs with within within
  · exact ⟨low, high, first, twelve, Nat.le_add_left 1 d.day, within⟩
  · have := daysInMonth_between d.year (d.month + 1) (by omega) (by omega)
    exact ⟨low, high, Nat.le_add_left 1 d.month, within, Nat.le_refl 1, by dsimp only; omega⟩
  · have december : d.month = 12 := by omega
    have year : d.year ≠ 9999 := by
      intro final
      refine other ?_
      obtain ⟨y, m, day⟩ := d
      subst december final
      have : daysInMonth 9999 12 = 31 := by decide
      simp_all
      omega
    have := daysInMonth_between (d.year + 1) 1 (by omega) (by omega)
    refine ⟨Nat.le_add_left 1 d.year, ?_, Nat.le_refl 1, ?_, Nat.le_refl 1, ?_⟩ <;> dsimp only <;>
      omega

theorem IsDay.sound (day : IsDay d n) : d.Valid ∧ n = d.days := by
  induction day with
  | epoch => exact ⟨by decide, by decide⟩
  | after valid day ih => exact ⟨valid, by rw [ih.2, days_next ih.1 valid]⟩
  | before valid day ih => exact ⟨valid, by rw [ih.2, days_next valid ih.1, Int.add_sub_cancel]⟩

/-- The days from 1970 on are reached by counting. -/
theorem isDay_of_nonneg (k : Nat) : ∀ d : Date, d.Valid → d.days = k → d.IsDay k := by
  induction k with
  | zero =>
    intro d valid zero
    have first : d = ⟨1970, 1, 1⟩ := days_inj valid (by decide) (zero.trans (by decide))
    rw [first]
    exact .epoch
  | succ k ih =>
    intro d valid number
    have between := valid.days_between
    -- the day before is there, and this is the next one
    obtain ⟨d', found⟩ := exists_ofDays? (n := k) (by rw [epochDay]; omega) (by omega)
    obtain ⟨valid', number'⟩ := days_of_ofDays? found
    have more := valid_next valid' (by omega)
    have next : d'.next = d :=
      days_inj more valid (by rw [days_next valid' more, number', number]; rfl)
    have day := IsDay.after more (ih d' valid' number')
    rwa [next] at day

/-- The days before 1970 are reached by counting backwards. -/
theorem isDay_of_nonpos (k : Nat) : ∀ d : Date, d.Valid → d.days = -k → d.IsDay (-k) := by
  induction k with
  | zero => exact isDay_of_nonneg 0
  | succ k ih =>
    intro d valid number
    have more := valid_next valid (by omega)
    have next : d.next.days = -k := by
      rw [days_next valid more, number]
      omega
    have day := IsDay.before valid (ih d.next more next)
    rwa [show -(k : Int) - 1 = -(k + 1 : Nat) by omega] at day

/-- The number of a date is that of counting the days. -/
theorem isDay_iff : d.IsDay n ↔ d.Valid ∧ n = d.days := by
  refine ⟨IsDay.sound, ?_⟩
  rintro ⟨valid, rfl⟩
  rcases Int.le_total 0 d.days with after | before
  · have day := isDay_of_nonneg d.days.toNat d valid (Int.toNat_of_nonneg after).symm
    rwa [Int.toNat_of_nonneg after] at day
  · have count : -((-d.days).toNat : Int) = d.days := by omega
    have day := isDay_of_nonpos (-d.days).toNat d valid count.symm
    rwa [count] at day

end Date

end Counting

end Logbook
