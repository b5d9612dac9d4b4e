import Logbook.Proofs.Time.Lookback
import Logbook.Proofs.Time.Range

/-!
# The bounds of a window fit into words

The moments that windows name lie in the years of the calendar, and so within the reach in which their
milliseconds are words. So are the bounds that a request gets for its texts (`requireBounds_hold`).
-/

namespace Logbook

variable {now : Int}

/-- A range starts and ends within reach. -/
theorem inReach_of_ranges {text : String} {first last : Int} (range : Ranges text first last) :
    InReach first ∧ InReach last := by
  obtain ⟨-, -, s, t, ms, ms', -, ⟨real, -, least, rfl⟩, ⟨real', -, greatest, rfl⟩, -⟩ :=
    range.exists_spans
  exact ⟨least.inReach real, greatest.inReach real'⟩

/-- The bounds that a request gets are words, if the clock shows a date of the calendar. -/
theorem requireBounds_hold (clock : (Moment.ofMicros? now).isSome) {lookback range : Option String}
    {b : TimeSpan} (bounds : requireBounds now lookback range = .ok b) :
    b.least.all Word.holds = true ∧ b.greatest.all Word.holds = true := by
  by_cases named : given lookback ≠ none ∨ given range ≠ none
  · rcases namesWindow_of_requireBounds bounds named with
      ⟨⟨text, -, moment, ⟨_, _, n, unit, _, _, _, _, before⟩, rfl⟩, -⟩ |
      ⟨⟨text, -, first, last, ranges, rfl⟩, -⟩
    · obtain ⟨m, found⟩ := Option.isSome_iff_exists.1 clock
      obtain ⟨valid, rfl⟩ := Moment.micros_of_ofMicros? found
      exact ⟨rfl, epochMs_holds (LookbackUnit.inReach_of_before? valid before)⟩
    · obtain ⟨start, finish⟩ := inReach_of_ranges ranges
      exact ⟨epochMs_holds start, epochMs_holds finish⟩
  · obtain ⟨l, r⟩ : given lookback = none ∧ given range = none := by
      simpa only [not_or, not_not] using named
    rw [requireBounds_neither l r] at bounds
    cases bounds
    exact ⟨rfl, rfl⟩

end Logbook
