import Logbook.Proofs.Site.Preview
import Logbook.Proofs.Time.Lookback

/-!
# Purges that are repeated

A purge with a lookback covers the logs up to the moment that the lookback leads to, and those it deletes
(`Site.purge_deletes_covered`). Repeated later, it covers all of them again, with one exception: where a
lookback of months leads two days to the last day of the same month, and the later purge takes place at
an earlier time of day (`Site.lookback_keeps_covering`).
-/

namespace Logbook

namespace Site

/-- A purge with a lookback covers a log: the log is one of those that it deletes. -/
def LookbackCovers (projectId : String) (level environment : Option Wanted) (text : String)
    (now : Int) (r : LogEntry) : Prop :=
  ∃ b, requireBounds now (some text) none = .ok b ∧
    Doomed.Names ⟨projectId, level, environment, b⟩ r

variable {text : String} {projectId : String} {level environment : Option Wanted}

/-- The bounds of a purge with a lookback. -/
theorem requireBounds_lookback {now t : Int} (read : lookbackMs? now text = .ok (some t)) :
    requireBounds now (some text) none = .ok ⟨none, some t⟩ := by
  have filled : text ≠ "" := by
    rintro rfl
    cases read
  have text_given : given (some text) = some text := given_eq_some_iff.2 ⟨rfl, filled⟩
  have no_range : given none = none := rfl
  unfold requireBounds windowBounds?
  simp only [text_given, no_range, read]
  rfl

/-- A lookback covers the logs of the wished values that are not after the moment it leads to. -/
theorem lookbackCovers_iff {now t : Int} (read : lookbackMs? now text = .ok (some t)) {r : LogEntry} :
    LookbackCovers projectId level environment text now r ↔
      Doomed.Names ⟨projectId, level, environment, {}⟩ r ∧ r.timestampMs ≤ t := by
  unfold LookbackCovers
  rw [requireBounds_lookback read]
  constructor
  · rintro ⟨_, ⟨⟩, named⟩
    exact ⟨⟨named.project, named.level, named.environment, nofun, nofun⟩, named.notAfter t rfl⟩
  · rintro ⟨named, before⟩
    refine ⟨_, rfl, named.project, named.level, named.environment, nofun, ?_⟩
    rintro _ ⟨⟩
    exact before

/-- A purge with a lookback deletes just the logs that it covers, in a project that there is. -/
theorem purge_deletes_covered {s : Site} (named : s.primary.Identified)
    (clock : (Moment.ofMicros? s.now).isSome) (batches : 1 ≤ s.settings.deleteBatchSize)
    {project : Project} (known : s.primary.project projectId = .ok project) {t : Int}
    (read : lookbackMs? s.now text = .ok (some t)) :
    ∃ n s', purge projectId level environment (some text) none s = (.ok n, s') ∧
      ∀ r ∈ s.primary.records, r ∉ s'.primary.records ↔
        LookbackCovers projectId level environment text s.now r := by
  have bounds := requireBounds_lookback read
  obtain ⟨s', ran, left⟩ := purge_gone named clock batches known bounds level environment
  refine ⟨_, s', ran, fun r mem => ?_⟩
  have gone : r ∉ s'.primary.records ↔ r ∈ s.gone s' := by simp [Site.gone, mem]
  have covers : LookbackCovers projectId level environment text s.now r ↔
      Doomed.Names ⟨projectId, level, environment, ⟨none, some t⟩⟩ r := by
    simp [LookbackCovers, bounds]
  rw [gone, left, covers, ← Doomed.takes_iff]
  simp [Primary.selected, mem]

/-- A lookback leads a later purge to a later moment, and the purge covers all the logs that the first
one covered, unless the lookback folds the two. -/
theorem lookback_keeps_covering {now now' : Moment} (valid : now.Valid) (valid' : now'.Valid)
    (order : now.micros ≤ now'.micros) {t t' : Int}
    (first : lookbackMs? now.micros text = .ok (some t))
    (second : lookbackMs? now'.micros text = .ok (some t')) :
    (¬FoldsBack text now now' → t ≤ t' ∧ ∀ projectId level environment r,
      LookbackCovers projectId level environment text now.micros r →
        LookbackCovers projectId level environment text now'.micros r) ∧
      (FoldsBack text now now' → t' ≤ t) := by
  constructor
  · intro apart
    have later := lookbackMs?_mono valid valid' order apart first second
    refine ⟨later, fun projectId level environment r covered => ?_⟩
    rw [lookbackCovers_iff first] at covered
    exact (lookbackCovers_iff second).2 ⟨covered.1, covered.2.trans later⟩
  · intro folds
    exact folds.lookbackMs?_anti valid valid' first second

/-- A month before the last days of March, at noon and in the evening. -/
theorem lookback_keeps_covering_endOfMarch :
    lookbackMs? (Moment.micros ⟨⟨2023, 3, 30⟩, 12, 0, 0, 0⟩) "1month" = .ok (some 1677585600000) ∧
      lookbackMs? (Moment.micros ⟨⟨2023, 3, 31⟩, 18, 0, 0, 0⟩) "1month" = .ok (some 1677607200000) ∧
      ∀ projectId level environment r,
        LookbackCovers projectId level environment "1month"
          (Moment.micros ⟨⟨2023, 3, 30⟩, 12, 0, 0, 0⟩) r →
        LookbackCovers projectId level environment "1month"
          (Moment.micros ⟨⟨2023, 3, 31⟩, 18, 0, 0, 0⟩) r := by
  have first : lookbackMs? (Moment.micros ⟨⟨2023, 3, 30⟩, 12, 0, 0, 0⟩) "1month" =
      .ok (some 1677585600000) := by
    decide +kernel
  have second : lookbackMs? (Moment.micros ⟨⟨2023, 3, 31⟩, 18, 0, 0, 0⟩) "1month" =
      .ok (some 1677607200000) := by
    decide +kernel
  refine ⟨first, second,
    ((lookback_keeps_covering (by decide) (by decide) (by decide) first second).1 ?_).2⟩
  rintro ⟨-, -, -, -, -, -, -, late⟩
  exact absurd late (by decide)

/-- A log of noon on the last day of February 2023. -/
def februaryLog : LogEntry where
  id := "log-1"
  projectId := "shop"
  logType := .application
  level := "ERROR"
  environment := "production"
  hostname := .null
  message := "Gateway timeout"
  stackTrace := []
  rawStackTrace := .null
  details := []
  detailString := .str "\x7b\x7d"
  request := .null
  timestampMs := 1677585600000
  createdAt := "2023-03-30T23:00:00"

/-- A month before the end of March: an evening and the night after it lead to the same day, the night
to an earlier hour of it. A purge in the evening covers a log that one in the night does not. -/
theorem lookback_uncovers_endOfMarch :
    Moment.micros ⟨⟨2023, 3, 30⟩, 23, 0, 0, 0⟩ ≤ Moment.micros ⟨⟨2023, 3, 31⟩, 1, 0, 0, 0⟩ ∧
      lookbackMs? (Moment.micros ⟨⟨2023, 3, 30⟩, 23, 0, 0, 0⟩) "1month" =
        .ok (some 1677625200000) ∧
      lookbackMs? (Moment.micros ⟨⟨2023, 3, 31⟩, 1, 0, 0, 0⟩) "1month" =
        .ok (some 1677546000000) ∧
      LookbackCovers "shop" none none "1month" (Moment.micros ⟨⟨2023, 3, 30⟩, 23, 0, 0, 0⟩)
        februaryLog ∧
      ¬LookbackCovers "shop" none none "1month" (Moment.micros ⟨⟨2023, 3, 31⟩, 1, 0, 0, 0⟩)
        februaryLog := by
  have first : lookbackMs? (Moment.micros ⟨⟨2023, 3, 30⟩, 23, 0, 0, 0⟩) "1month" =
      .ok (some 1677625200000) := by
    decide +kernel
  have second : lookbackMs? (Moment.micros ⟨⟨2023, 3, 31⟩, 1, 0, 0, 0⟩) "1month" =
      .ok (some 1677546000000) := by
    decide +kernel
  refine ⟨by decide, first, second, ?_, ?_⟩
  · rw [lookbackCovers_iff first]
    decide
  · rw [lookbackCovers_iff second]
    decide

end Site

end Logbook
