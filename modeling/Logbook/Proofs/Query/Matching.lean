import Logbook.Log.Deletion
import Logbook.Proofs.Log.Entry

/-!
# What is selected and what is found

A selection, a deletion and a filter in plain terms: the project, the wished values, the bounds, and
a text of the surface that satisfies the filter. The tests of the store and of the filters decide
them.
-/

namespace Logbook

namespace Wanted

/-- A value is as wished: there is no wish, or the value is the one or one of those wished for. An
empty text and an empty list are no wish. -/
def Met : Option Wanted → Json → Prop
  | none, _ => True
  | some (.one s), v => s = "" ∨ v = .str s
  | some (.many ss), v => ss = [] ∨ ∃ s ∈ ss, v = .str s

theorem admits_iff (w : Option Wanted) (v : Json) : admits w v = true ↔ Met w v := by
  match w with
  | none => simp [admits, Met]
  | some (.one s) =>
    by_cases h : s = "" <;> simp [admits, Met, Option.filter_some, isGiven, takes, h]
  | some (.many ss) =>
    by_cases h : ss = [] <;> simp [admits, Met, Option.filter_some, isGiven, takes, h]

end Wanted

namespace TimeSpan

theorem contains_iff (b : TimeSpan) (t : Int) : b.contains t = true ↔
    (∀ least, b.least = some least → least ≤ t) ∧
      ∀ greatest, b.greatest = some greatest → t ≤ greatest := by
  obtain ⟨least, greatest⟩ := b
  cases least <;> cases greatest <;> simp [contains]

end TimeSpan

namespace Selection

/-- A log is of the project, has the wished values, and its time is within the bounds. -/
structure Matches (s : Selection) (r : LogEntry) : Prop where
  project : r.projectId = s.projectId
  level : Wanted.Met s.level (.str r.level)
  environment : Wanted.Met s.environment (.str r.environment)
  hostname : Wanted.Met s.hostname r.hostname
  logType : Wanted.Met s.logType (.str r.logType.name)
  notBefore : ∀ least, s.bounds.least = some least → least ≤ r.timestampMs
  notAfter : ∀ greatest, s.bounds.greatest = some greatest → r.timestampMs ≤ greatest

theorem takes_iff (s : Selection) (r : LogEntry) : s.takes r = true ↔ s.Matches r := by
  unfold takes
  simp only [Bool.and_eq_true, beq_iff_eq, Wanted.admits_iff, TimeSpan.contains_iff]
  constructor
  · rintro ⟨⟨⟨⟨⟨project, level⟩, environment⟩, hostname⟩, logType⟩, notBefore, notAfter⟩
    exact ⟨project, level, environment, hostname, logType, notBefore, notAfter⟩
  · rintro ⟨project, level, environment, hostname, logType, notBefore, notAfter⟩
    exact ⟨⟨⟨⟨⟨project, level⟩, environment⟩, hostname⟩, logType⟩, notBefore, notAfter⟩

end Selection

namespace Doomed

/-- A deletion names a log: the log is of the project, has the wished values, and its time is within
the bounds. -/
structure Names (d : Doomed) (r : LogEntry) : Prop where
  project : r.projectId = d.projectId
  level : Wanted.Met d.level (.str r.level)
  environment : Wanted.Met d.environment (.str r.environment)
  notBefore : ∀ least, d.bounds.least = some least → least ≤ r.timestampMs
  notAfter : ∀ greatest, d.bounds.greatest = some greatest → r.timestampMs ≤ greatest

theorem takes_iff (d : Doomed) (r : LogEntry) : d.selection.takes r = true ↔ d.Names r := by
  rw [Selection.takes_iff]
  constructor
  · intro selected
    exact ⟨selected.project, selected.level, selected.environment, selected.notBefore,
      selected.notAfter⟩
  · intro named
    exact ⟨named.project, named.level, named.environment, trivial, trivial, named.notBefore,
      named.notAfter⟩

instance (d : Doomed) (r : LogEntry) : Decidable (d.Names r) :=
  decidable_of_iff _ (d.takes_iff r)

theorem decide_names (d : Doomed) (r : LogEntry) : decide (d.Names r) = d.selection.takes r := by
  rw [Bool.eq_iff_iff, decide_eq_true_iff, takes_iff]

/-- A deletion names a log in its columns if it names the log. -/
theorem names_inColumns {d : Doomed} {r row : LogEntry} (kept : r.inColumns = .ok row) :
    d.Names row ↔ d.Names r := by
  rw [LogEntry.eq_of_inColumns kept]
  constructor
  · intro named
    exact ⟨named.project, named.level, named.environment, named.notBefore, named.notAfter⟩
  · intro named
    exact ⟨named.project, named.level, named.environment, named.notBefore, named.notAfter⟩

end Doomed

namespace SearchParams

/-- A log is one of those that a search asks for: it is selected, and a text on the surface of the
filter, if there is one, satisfies the filter. -/
structure Finds (p : SearchParams) (r : LogEntry) : Prop where
  selected : p.selection.Matches r
  worded : ∀ t, p.textFilter? = some t → ∃ text ∈ r.texts t.surface, t.filter.holds text = true

theorem finds_iff {p : SearchParams} {t : SurfaceFilter} (filter : p.textFilter? = some t)
    (r : LogEntry) : p.Finds r ↔ p.selection.takes r = true ∧ t.holds r = true := by
  rw [Selection.takes_iff, SurfaceFilter.holds, List.any_eq_true]
  constructor
  · rintro ⟨selected, worded⟩
    exact ⟨selected, worded t filter⟩
  · rintro ⟨selected, worded⟩
    refine ⟨selected, fun u other => ?_⟩
    rw [filter] at other
    cases other
    exact worded

/-- Without a filter a search asks for all logs that it selects. -/
theorem finds_iff_takes {p : SearchParams} (filter : p.textFilter? = none) (r : LogEntry) :
    p.Finds r ↔ p.selection.takes r = true := by
  rw [Selection.takes_iff]
  constructor
  · exact fun found => found.selected
  · intro selected
    refine ⟨selected, fun t other => ?_⟩
    rw [filter] at other
    cases other

instance (p : SearchParams) (r : LogEntry) : Decidable (p.Finds r) :=
  match filter : p.textFilter? with
  | none => decidable_of_iff _ (finds_iff_takes filter r).symm
  | some _ => decidable_of_iff _ (finds_iff filter r).symm

end SearchParams

end Logbook
