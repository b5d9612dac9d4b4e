import Logbook.Proofs.Site.Deletion

/-!
# Deleting again

A deletion that the primary store takes on may still leave documents behind in the index, wherever
a call of the index fails. It is tried again as it is: each try leaves the documents of the logs
that the deletion does not name (`Site.Cleaning.attempt`), and one with a healthy index leaves just
those, whatever became of the tries before it (`Site.cleanup_retryable`).
-/

namespace Logbook

/-- How the index stands while a deletion runs: the connection to it, and which of its calls fail. -/
structure Situation where
  link : Link
  outage : Outage IndexCall

namespace Situation

/-- Connected, and no call fails. -/
def healthy : Situation where
  link := .ready
  outage := fun _ _ => none

/-- Connected, but every second call fails if it is to delete a document. -/
def patchy : Situation where
  link := .ready
  outage := fun n c => if c = .erase ∧ n % 2 = 0 then some .transport else none

/-- Connected, but no search is answered. -/
def unanswering : Situation where
  link := .ready
  outage := fun _ c => if c = .search then some .crash else none

end Situation

namespace Site

variable {s : Site} {d : Doomed} {logs : List LogEntry}

/-- The site while the index stands in some way. -/
def under (w : Situation) (s : Site) : Site :=
  { s with index := { s.index with link := w.link, outage := w.outage } }

/-- The site after a deletion has been tried in each of some situations. -/
def afterTries (d : Doomed) (s : Site) (tries : List Situation) : Site :=
  tries.foldl (fun s w => (deleteDoomed d (s.under w)).2) s

/-- The site takes a deletion on, and the index mirrors some logs of which those that the deletion
does not name are the ones among `logs`. -/
structure Cleaning (d : Doomed) (logs : List LogEntry) (s : Site) : Prop where
  taken : s.primary.takesOn s.deletionLimits d = .ok ()
  paged : 1 ≤ s.settings.collectPageSize
  rest : ∃ left, s.index.Mirrors left ∧ left.filter (¬d.Names ·) = logs.filter (¬d.Names ·)

namespace Cleaning

/-- What the index holds does not depend on how it stands. -/
theorem under (h : s.Cleaning d logs) (w : Situation) : (s.under w).Cleaning d logs := by
  obtain ⟨left, mirrored, same⟩ := h.rest
  exact ⟨h.taken, h.paged, left, ⟨mirrored.documents, mirrored.distinct, mirrored.filled⟩, same⟩

/-- A try in any situation leaves the documents of the logs that are not named. -/
theorem attempt (h : s.Cleaning d logs) : (deleteDoomed d s).2.Cleaning d logs := by
  obtain ⟨batches, -, deleted⟩ := Primary.deleteDoomed_of_takesOn h.taken
  obtain ⟨left, mirrored, same⟩ := h.rest
  obtain ⟨left', mirrored', same'⟩ := mirrored.eraseFound d s.settings.collectPageSize
  rw [deleteDoomed_of_ok deleted]
  exact ⟨h.taken, h.paged, left', mirrored', same'.trans same⟩

/-- So do any number of tries. -/
theorem afterTries (h : s.Cleaning d logs) (tries : List Situation) :
    (s.afterTries d tries).Cleaning d logs := by
  induction tries generalizing s with
  | nil => exact h
  | cons w r ih => exact ih (h.under w).attempt

/-- A try with a healthy index succeeds and leaves just the documents of those logs. -/
theorem finish (h : s.Cleaning d logs) : ∃ n s',
    deleteDoomed d (s.under .healthy) = (.ok n, s') ∧
      s'.index.Mirrors (logs.filter (¬d.Names ·)) := by
  obtain ⟨batches, -, deleted⟩ := Primary.deleteDoomed_of_takesOn (h.under .healthy).taken
  obtain ⟨left, mirrored, same⟩ := (h.under .healthy).rest
  obtain ⟨-, cleaned⟩ := mirrored.eraseFound_healthy ⟨rfl, fun _ _ => rfl⟩ d
    (show 0 ≤ s.settings.collectPageSize from Int.le_trans (by decide) h.paged)
  rw [same] at cleaned
  exact ⟨_, _, deleteDoomed_of_ok deleted, cleaned⟩

end Cleaning

/-- Of an index that mirrors any logs, in step with the primary store or not: either the primary
store does not take a deletion on, and nothing changes in any situation; or a try with a healthy
index, at once or after others in whatever situations, succeeds and leaves just the documents of the
logs that the deletion does not name, as they were. -/
theorem cleanup_retryable (mirrors : s.index.Mirrors logs)
    (paged : 1 ≤ s.settings.collectPageSize) (d : Doomed) :
    (∃ f, ∀ w, deleteDoomed d (s.under w) = (.error f, s.under w)) ∨
      ∀ tries, ∃ n s', deleteDoomed d ((s.afterTries d tries).under .healthy) = (.ok n, s') ∧
        s'.index.documents = (logs.filter (¬d.Names ·)).map LogEntry.mirrored := by
  cases taken : s.primary.takesOn s.deletionLimits d with
  | error f =>
    refine .inl ⟨f, fun w => ?_⟩
    exact deleteDoomed_of_error (s := s.under w) (Primary.deleteDoomed_of_refused taken)
  | ok _ =>
    refine .inr fun tries => ?_
    have start : s.Cleaning d logs := ⟨taken, paged, logs, mirrors, rfl⟩
    obtain ⟨n, s', ran, left⟩ := (start.afterTries tries).finish
    exact ⟨n, s', ran, left.documents⟩

/-- A site whose index mirrors some of its logs, and an old error of which it has no log. -/
def strayMirror : Site :=
  { pairwiseSite with
    settings := { deleteBatchSize := 2, collectPageSize := 1 }
    index := { documents := [errorOf "log-1" "shop" 1000, errorOf "log-3" "bank" 3000,
      errorOf "log-0" "shop" 3500, errorOf "log-5" "shop" 5000].map LogEntry.mirrored } }

theorem cleanup_retryable_strayMirror :
    (strayMirror.afterTries oldErrors [.patchy, .unanswering]).index.documents.map (·.1) =
        ["log-1", "log-3", "log-5"] ∧
      ∃ n s', deleteDoomed oldErrors
        ((strayMirror.afterTries oldErrors [.patchy, .unanswering]).under .healthy) =
          (.ok n, s') ∧
        s'.index.documents =
          [errorOf "log-3" "bank" 3000, errorOf "log-5" "shop" 5000].map LogEntry.mirrored := by
  refine ⟨by decide +kernel, ?_⟩
  rcases cleanup_retryable (s := strayMirror) ⟨rfl, by decide, by decide⟩ (by decide) oldErrors with
    ⟨f, refused⟩ | cleaned
  · have ran : (deleteDoomed oldErrors (strayMirror.under .healthy)).1.toOption.isSome = true := by
      decide +kernel
    rw [refused] at ran
    cases ran
  · obtain ⟨n, s', ran, left⟩ := cleaned [.patchy, .unanswering]
    exact ⟨n, s', ran, left.trans (by decide)⟩

end Site

end Logbook
