import Logbook.Proofs.Text.Numeral
import Logbook.Proofs.Time.Calendar
import Logbook.Proofs.Time.Stamp

/-!
# The second that a time stamp shows

A number of milliseconds is rounded twice before its date is taken, to a double of seconds and to whole
microseconds. A millisecond is farther from the next whole second than both roundings carry, and a
whole second is a double, so the second stays the one that contains the millisecond
(`Double.toMicros?_second`). What is shown is the text of the moments of that second and of no other
(`stampText_second`).
-/

namespace Logbook

/-- A moment lies in the second with this number, counted from the start of 1970. -/
def Moment.InSecond (m : Moment) (s : Int) : Prop :=
  m.Valid ∧ ∃ n, m.date.IsDay n ∧ s = n * 86400 + (m.hour * 3600 + m.minute * 60 + m.second : Nat)

namespace Double

/-- The microseconds of a number of milliseconds, through the double of its seconds, lie in the same
second as the milliseconds. -/
theorem toMicros?_second {ms : Int} {negative : Bool} {m : Nat} {e : Int} (inside : InCalendar ms)
    (seconds : ofQuotient ms 1000 = finite negative m e) :
    ∃ n, (finite negative m e).toMicros? = some n ∧ n / 1000000 = ms / 1000 := by
  have first : secondsBeforeYear 1 = -62135596800 := by decide
  have last : secondsBeforeYear 10000 = 253402300800 := by decide
  rw [InCalendar, first, last] at inside
  obtain ⟨sign, -⟩ := ofRatio_finite seconds
  obtain ⟨w, micros, sides⟩ := toMicros?_sides negative m e
  refine ⟨_, micros, ?_⟩
  rw [sign]
  rcases Int.lt_or_le ms 0 with before | after
  · -- the second ends at `-c`, and the milliseconds are after its start by one at least
    simp only [before, decide_true, if_true]
    obtain ⟨c, whole⟩ : ∃ c : Nat, ms / 1000 = -(c + 1 : Nat) := ⟨(-(ms / 1000) - 1).toNat, by omega⟩
    have most := size_le_of_millis (k := c + 1) (j := 0) seconds (by omega) (by norm_num) (by omega)
    have least := le_size_of_millis (k := c * 1024 + 1) (j := 10) seconds (by omega) (by norm_num)
      (by omega)
    have atMost := (sides (c + 1)).2.1 (by simpa using most)
    have beyond := (sides c).2.2.2 (by norm_num at least ⊢; linarith)
    omega
  · -- the second starts at `k`, and the milliseconds are before its end by one at least
    simp only [Int.not_lt.2 after, decide_false, Bool.false_eq_true, if_false]
    obtain ⟨k, whole⟩ : ∃ k : Nat, ms / 1000 = k := ⟨(ms / 1000).toNat, by omega⟩
    have least := le_size_of_millis (k := k) (j := 0) seconds (by omega) (by norm_num) (by omega)
    have most := size_le_of_millis (k := k * 1024 + 1023) (j := 10) seconds (by omega) (by norm_num)
      (by omega)
    have atLeast := (sides k).1 (by simpa using least)
    have short := (sides (k + 1)).2.2.1 (by norm_num at most ⊢; linarith)
    omega

end Double

/-- The moment that is found for a double of seconds is the one of its microseconds. -/
theorem ofMicros?_of_momentAt {negative : Bool} {m : Nat} {e n : Int} {moment : Moment}
    (micros : (Double.finite negative m e).toMicros? = some n)
    (found : momentAt (.finite negative m e) = .ok moment) : Moment.ofMicros? n = some moment := by
  unfold momentAt at found
  simp only [micros] at found
  split_ifs at found
  split at found
  · next there =>
    cases found
    exact there
  · cases found

namespace Moment

variable {m m' : Moment} {s s' : Int}

/-- The number of a second is that of whole seconds among the microseconds. -/
theorem inSecond_iff : m.InSecond s ↔ m.Valid ∧ m.micros / 1000000 = s := by
  unfold InSecond
  refine and_congr_right fun valid => ?_
  simp only [Date.isDay_iff, valid.1, true_and, exists_eq_left, micros, dayMicros, microsPerDay]
  obtain ⟨-, -, -, -, few⟩ := valid
  push_cast
  omega

/-- What is shown of a moment behind its year. -/
def behindYear (m : Moment) : List Char :=
  '-' :: ((padded 2 m.date.month).toList ++ '-' :: ((padded 2 m.date.day).toList ++
    ' ' :: ((padded 2 m.hour).toList ++ ':' :: ((padded 2 m.minute).toList ++
      ':' :: ((padded 2 m.second).toList ++ " UTC".toList)))))

theorem toList_stampText (m : Moment) :
    m.stampText.toList = (toString m.date.year).toList ++ m.behindYear := by
  simp [stampText, clockText, behindYear]

/-- The numbers of a moment behind its year have two digits. -/
theorem Valid.two_digits (valid : m.Valid) : m.date.month < 100 ∧ m.date.day < 100 ∧ m.hour < 100 ∧
    m.minute < 100 ∧ m.second < 100 := by
  obtain ⟨⟨-, -, january, december, -, last⟩, hour, minute, second, -⟩ := valid
  have days := daysInMonth_between m.date.year m.date.month january december
  omega

theorem Valid.length_behindYear (valid : m.Valid) : m.behindYear.length = 19 := by
  obtain ⟨month, day, hour, minute, second⟩ := valid.two_digits
  have width {n : Nat} (small : n < 100) : (padded 2 n).toList.length = 2 :=
    Text.length_padded (by omega) small
  simp [behindYear, width month, width day, width hour, width minute, width second]

/-- A date and a time of day are read off the text that shows them. -/
theorem stampText_inj (valid : m.Valid) (valid' : m'.Valid) (same : m.stampText = m'.stampText) :
    m.date = m'.date ∧ m.hour = m'.hour ∧ m.minute = m'.minute ∧ m.second = m'.second := by
  obtain ⟨month, day, hour, minute, second⟩ := valid.two_digits
  obtain ⟨month', day', hour', minute', second'⟩ := valid'.two_digits
  have split {n n' : Nat} {r r' : List Char} (small : n < 100) (small' : n' < 100) :
      (padded 2 n).toList ++ r = (padded 2 n').toList ++ r' → n = n' ∧ r = r' :=
    Text.padded_append_inj (by omega) small small'
  have chars := congrArg String.toList same
  rw [toList_stampText, toList_stampText] at chars
  -- the year has a length of its own, but all behind it has a fixed one
  obtain ⟨years, chars⟩ := List.append_inj' chars
    (valid.length_behindYear.trans valid'.length_behindYear.symm)
  obtain ⟨months, chars⟩ := split month month' (List.cons.inj chars).2
  obtain ⟨days, chars⟩ := split day day' (List.cons.inj chars).2
  obtain ⟨hours, chars⟩ := split hour hour' (List.cons.inj chars).2
  obtain ⟨minutes, chars⟩ := split minute minute' (List.cons.inj chars).2
  obtain ⟨seconds, -⟩ := split second second' (List.cons.inj chars).2
  have year := Text.toString_nat_inj (String.toList_inj.1 years)
  have date : ∀ d d' : Date, d.year = d'.year → d.month = d'.month → d.day = d'.day → d = d' := by
    rintro ⟨⟩ ⟨⟩ rfl rfl rfl
    rfl
  exact ⟨date _ _ year months days, hours, minutes, seconds⟩

/-- Moments that are shown alike lie in the same second. -/
theorem InSecond.eq_of_stampText (inside : m.InSecond s) (inside' : m'.InSecond s')
    (same : m.stampText = m'.stampText) : s = s' := by
  obtain ⟨valid, n, day, rfl⟩ := inside
  obtain ⟨valid', n', day', rfl⟩ := inside'
  obtain ⟨date, hour, minute, second⟩ := stampText_inj valid valid' same
  rw [Date.isDay_iff] at day day'
  rw [day.2, day'.2, date, hour, minute, second]

/-- Moments of the same second are shown alike. -/
theorem InSecond.stampText_eq (inside : m.InSecond s) (inside' : m'.InSecond s) :
    m.stampText = m'.stampText := by
  obtain ⟨valid, n, day, place⟩ := inside
  obtain ⟨valid', n', day', place'⟩ := inside'
  rw [Date.isDay_iff] at day day'
  obtain ⟨-, hour, minute, second, -⟩ := valid
  obtain ⟨-, hour', minute', second', -⟩ := valid'
  have date : m.date = m'.date := Date.days_inj day.1 day'.1 (by omega)
  have time : m.hour = m'.hour ∧ m.minute = m'.minute ∧ m.second = m'.second := by omega
  rw [stampText, stampText, clockText, clockText, date, time.1, time.2.1, time.2.2]

end Moment

/-- What is shown for a number of milliseconds in the calendar is the text of the second that contains
it, the milliseconds divided by a thousand and rounded down, and of no other second. -/
theorem stampText_second {ms : Int} (inside : InCalendar ms) :
    (∃ m : Moment, m.InSecond (ms.fdiv 1000)) ∧ ∀ (m : Moment) (s : Int), m.InSecond s →
      (stampText (.int ms) = .ok m.stampText ↔ s = ms.fdiv 1000) := by
  obtain ⟨m, e, seconds⟩ := exists_seconds inside
  obtain ⟨n, micros, second⟩ := Double.toMicros?_second inside seconds
  obtain ⟨text, shown⟩ := (stampText_int_iff ms).2 inside
  -- the moment of the microseconds is shown, and it lies in their second
  obtain ⟨moment, found⟩ : ∃ moment, momentAt (.finite (ms < 0) m e) = .ok moment := by
    cases found : momentAt (.finite (ms < 0) m e) with
    | ok moment => exact ⟨moment, rfl⟩
    | error f => simp [stampText, secondsOf, seconds, found, bind, Except.bind] at shown
  have written : stampText (.int ms) = .ok moment.stampText := by
    simp [stampText, secondsOf, seconds, found, bind, Except.bind, pure, Except.pure]
  obtain ⟨valid, place⟩ := Moment.micros_of_ofMicros? (ofMicros?_of_momentAt micros found)
  have there : moment.InSecond (ms.fdiv 1000) := by
    rw [Moment.inSecond_iff, place, second, Int.fdiv_eq_ediv_of_nonneg ms (by decide)]
    exact ⟨valid, rfl⟩
  refine ⟨⟨moment, there⟩, fun m' s inside' => ?_⟩
  rw [written, Except.ok.injEq]
  constructor
  · intro same
    exact inside'.eq_of_stampText there same.symm
  · rintro rfl
    exact there.stampText_eq inside'

/-- The last millisecond of a leap day long before 1970 is shown with the last second of that day. -/
theorem stampText_second_leapDay : InCalendar (-11670912000001) ∧
    (Moment.mk ⟨1600, 2, 29⟩ 23 59 59 999000).InSecond (Int.fdiv (-11670912000001) 1000) ∧
    stampText (.int (-11670912000001)) = .ok "1600-02-29 23:59:59 UTC" := by
  have inside : InCalendar (-11670912000001) := by decide
  have there : (Moment.mk ⟨1600, 2, 29⟩ 23 59 59 999000).InSecond
      (Int.fdiv (-11670912000001) 1000) := by
    rw [Moment.inSecond_iff]
    decide
  have text : (Moment.mk ⟨1600, 2, 29⟩ 23 59 59 999000).stampText = "1600-02-29 23:59:59 UTC" := by
    decide
  refine ⟨inside, there, ?_⟩
  rw [← text]
  exact ((stampText_second inside).2 _ _ there).2 rfl

end Logbook
