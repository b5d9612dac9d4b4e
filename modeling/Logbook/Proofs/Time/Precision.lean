import Logbook.Proofs.Time.Bounds
import Logbook.Proofs.Time.Second

/-!
# Moments and their milliseconds

The milliseconds of the moments of the calendar, against the places of these moments on the time line:
the second that contains them and the microseconds behind its start (`Moment.LiesAt`). The order of
time is kept, whole seconds are exact, and no moment is more than a millisecond off, so that a range
never ends before it starts (`Moment.epochMs_faithful`).
-/

namespace Logbook

namespace Moment

variable {m m' : Moment} {s t t' : Int}

/-- A moment lies so many microseconds after the start of 1970, or before it. -/
def LiesAt (m : Moment) (t : Int) : Prop :=
  ∃ s, m.InSecond s ∧ t = s * 1000000 + m.micro

/-- The place of a moment is the one that its date and its time of day make. -/
theorem liesAt_iff : m.LiesAt t ↔ m.Valid ∧ m.micros = t := by
  have parts (valid : m.Valid) : m.micros = m.micros / 1000000 * 1000000 + m.micro := by
    obtain ⟨-, -, -, -, few⟩ := valid
    rw [micros, dayMicros, microsPerDay]
    omega
  simp only [LiesAt, inSecond_iff]
  constructor
  · rintro ⟨s, ⟨valid, rfl⟩, rfl⟩
    exact ⟨valid, parts valid⟩
  · rintro ⟨valid, rfl⟩
    exact ⟨_, ⟨valid, rfl⟩, parts valid⟩

/-- A later moment has no fewer milliseconds. -/
theorem LiesAt.epochMs_le (place : m.LiesAt t) (place' : m'.LiesAt t') (order : t ≤ t') :
    m.epochMs ≤ m'.epochMs := by
  obtain ⟨valid, rfl⟩ := liesAt_iff.1 place
  obtain ⟨valid', rfl⟩ := liesAt_iff.1 place'
  exact epochMs_mono valid.inReach valid'.inReach order

/-- A moment at the start of a second has a thousand milliseconds for each second. -/
theorem InSecond.epochMs_eq (inside : m.InSecond s) (whole : m.micro = 0) :
    m.epochMs = 1000 * s := by
  have start : m.LiesAt (s * 1000000) := ⟨s, inside, by omega⟩
  obtain ⟨valid, place⟩ := liesAt_iff.1 start
  have reach := valid.inReach
  rw [place] at reach
  rw [Moment.epochMs, place, epochMs_whole reach, Int.mul_comm]

/-- The milliseconds of a moment are at most one off from its place. -/
theorem LiesAt.abs_epochMs_sub_le (place : m.LiesAt t) : |m.epochMs - t.tdiv 1000| ≤ 1 := by
  obtain ⟨valid, rfl⟩ := liesAt_iff.1 place
  exact Logbook.abs_epochMs_sub_le valid.inReach

end Moment

/-- The bounds of a range are those of its first and its last moment, so they are in order. -/
theorem le_of_rangeMs? {text : String} {lo hi : Int} (read : rangeMs? text = .ok (some (lo, hi))) :
    lo ≤ hi := by
  obtain ⟨failed, -⟩ | ⟨-, unread | ⟨first, last, bounds, range⟩⟩ := rangeMs?_cases text
  · cases read.symm.trans failed
  · cases read.symm.trans unread
  · cases read.symm.trans bounds
    obtain ⟨start, finish⟩ := inReach_of_ranges range
    obtain ⟨-, -, -, -, -, -, -, -, -, order⟩ := range
    exact epochMs_mono start finish order

/-- The milliseconds of moments in the years 1 to 9999 are in the order of time. A moment on a whole
second has a thousand for each second, and every moment has the number of milliseconds from the start
of 1970, cut toward zero, with one more or less at most. So the least bound of a range is not above
its greatest one. -/
theorem Moment.epochMs_faithful :
    (∀ (m m' : Moment) (t t' : Int), m.LiesAt t → m'.LiesAt t' → t ≤ t' →
      m.epochMs ≤ m'.epochMs) ∧
    (∀ (m : Moment) (s : Int), m.InSecond s → m.micro = 0 → m.epochMs = 1000 * s) ∧
    (∀ m : Moment, m.Valid → ∃ t, m.LiesAt t ∧ |m.epochMs - t.tdiv 1000| ≤ 1) ∧
    ∀ (text : String) (lo hi : Int), rangeMs? text = .ok (some (lo, hi)) → lo ≤ hi := by
  refine ⟨fun m m' t t' place place' order => place.epochMs_le place' order,
    fun m s inside whole => inside.epochMs_eq whole, fun m valid => ?_,
    fun text lo hi read => le_of_rangeMs? read⟩
  have place := liesAt_iff.2 ⟨valid, rfl⟩
  exact ⟨m.micros, place, place.abs_epochMs_sub_le⟩

/-- The end of a day in 1987 loses a millisecond, but stays behind the start of the day and before the
midnight after it. -/
theorem Moment.epochMs_faithful_firstOfMarch :
    let last : Moment := ⟨⟨1987, 3, 1⟩, 23, 59, 59, 999000⟩
    let midnight : Moment := ⟨⟨1987, 3, 2⟩, 0, 0, 0, 0⟩
    (last.Valid ∧ last.LiesAt 541641599999000 ∧ last.epochMs = 541641599998) ∧
      (midnight.LiesAt 541641600000000 ∧ midnight.InSecond 541641600) ∧
      last.epochMs ≤ midnight.epochMs ∧ midnight.epochMs = 1000 * 541641600 ∧
      (∃ t, last.LiesAt t ∧ |last.epochMs - t.tdiv 1000| ≤ 1) ∧
      rangeMs? "1987-03-01 to 1987-03-01" = .ok (some (541555200000, 541641599998)) ∧
      (541555200000 : Int) ≤ 541641599998 := by
  intro last midnight
  have valid : last.Valid := by decide
  have place : last.LiesAt 541641599999000 := liesAt_iff.2 (by decide)
  have place' : midnight.LiesAt 541641600000000 := liesAt_iff.2 (by decide)
  have second : midnight.InSecond 541641600 := inSecond_iff.2 (by decide)
  have lost : last.epochMs = 541641599998 := by decide +kernel
  have read : rangeMs? "1987-03-01 to 1987-03-01" =
      .ok (some (541555200000, 541641599998)) := by
    decide +kernel
  obtain ⟨ordered, whole, close, range⟩ := Moment.epochMs_faithful
  exact ⟨⟨valid, place, lost⟩, ⟨place', second⟩, ordered _ _ _ _ place place' (by decide),
    whole _ _ second rfl, close _ valid, read, range _ _ _ read⟩

end Logbook
