import Logbook.Proofs.Act
import Logbook.Proofs.Query.Matching
import Logbook.Proofs.Site.Stores

/-!
# What a deletion does

The primary store decides on a deletion. After it just the logs that it names are gone, each of
them is counted once, and the same deletion finds none any more (`Site.deleteDoomed_exact`). The
index has no part in that: from sites that are alike but for the index a deletion ends in the same
way, and it leaves sites that are alike but for the index (`Site.DeletionCall.run_respects`).
-/

namespace Logbook

namespace Site

/-- A deletion in a project that there is leaves the logs that it does not name, whatever becomes of
the index, and returns the number of the others. The same deletion after it returns zero and leaves
the primary store as it is. -/
theorem deleteDoomed_exact {s : Site} (unique : s.primary.UniqueIds) {d : Doomed}
    {project : Project} (known : s.primary.project d.projectId = .ok project)
    (bounded : d.bounds.least.all Word.holds ∧ d.bounds.greatest.all Word.holds)
    (sized : 1 ≤ s.settings.deleteBatchSize) :
    ∃ s' s'', deleteDoomed d s = (.ok (s.primary.records.filter (d.Names ·)).length, s') ∧
      s'.primary = { s.primary with records := s.primary.records.filter (¬d.Names ·) } ∧
      deleteDoomed d s' = (.ok 0, s'') ∧ s''.primary = s'.primary := by
  have given : 0 ≤ s.deletionLimits.batchSize := Int.le_trans (by decide) sized
  have first := Primary.deleteDoomed_distinct given unique (Primary.takesOn_ok known bounded sized)
  -- the store that is left has the same projects, so it takes the second deletion on as well
  have second := Primary.deleteDoomed_distinct given (unique.filter (!d.selection.takes ·))
    (Primary.takesOn_ok known bounded sized)
  have noneLeft : (s.primary.records.filter (!d.selection.takes ·)).filter d.selection.takes = [] := by
    simp
  have allLeft : (s.primary.records.filter (!d.selection.takes ·)).filter (!d.selection.takes ·) =
      s.primary.records.filter (!d.selection.takes ·) := by
    simp
  rw [noneLeft, allLeft] at second
  simp only [decide_not, Doomed.decide_names]
  exact ⟨_, _, deleteDoomed_of_ok first, rfl, deleteDoomed_of_ok second, rfl⟩

/-- An error in production. -/
def errorOf (id projectId : String) (timestampMs : Int) : LogEntry where
  id := id
  projectId := projectId
  logType := .application
  level := "ERROR"
  environment := "production"
  hostname := .null
  message := "Gateway timeout"
  stackTrace := []
  rawStackTrace := .null
  details := []
  detailString := .null
  request := .null
  timestampMs := timestampMs
  createdAt := "2024-03-31T12:00:00"

/-- A site of one project that deletes in pairs, with logs of that project and of another one. -/
def pairwiseSite : Site where
  settings := { deleteBatchSize := 2 }
  now := 1711886400000000
  primary := {
    projects := [⟨"o1", "shop", "Shop", .arr []⟩]
    records := [errorOf "log-1" "shop" 1000, errorOf "log-2" "shop" 2000, errorOf "log-3" "bank" 3000,
      errorOf "log-4" "shop" 4000, errorOf "log-5" "shop" 5000] }

/-- The errors up to a time. -/
def oldErrors : Doomed where
  projectId := "shop"
  level := some (.many ["ERROR", "CRITICAL"])
  bounds := ⟨none, some 4000⟩

theorem deleteDoomed_exact_oldErrors : ∃ s' s'', deleteDoomed oldErrors pairwiseSite = (.ok 3, s') ∧
    s'.primary.records = [errorOf "log-3" "bank" 3000, errorOf "log-5" "shop" 5000] ∧
    deleteDoomed oldErrors s' = (.ok 0, s'') ∧ s''.primary = s'.primary := by
  obtain ⟨s', s'', first, left, second, same⟩ :=
    deleteDoomed_exact (s := pairwiseSite) (d := oldErrors)
      (show (pairwiseSite.primary.records.map (·.id)).Nodup by decide) rfl (by decide) (by decide)
  refine ⟨s', s'', first, ?_, second, same⟩
  rw [left]
  decide

/-- A call that deletes logs: those of a deletion or of a time window, as they are read or as they
are given. -/
inductive DeletionCall where
  | read (d : Doomed)
  | given (conditions : Fields)
  | readWindow (projectId : String) (level environment : Option Wanted)
    (lookback range : Option String)
  | givenWindow (conditions : Fields)

/-- What a call does. -/
def DeletionCall.run : DeletionCall → Act Site Nat
  | read d => deleteDoomed d
  | given fs => deleteGiven fs
  | readWindow projectId level environment lookback range =>
    purge projectId level environment lookback range
  | givenWindow fs => purgeGiven fs

/-- The second site is the first with another index, in whatever state that and the connection to it
may be. -/
def AlikeButIndex (s t : Site) : Prop :=
  ∃ ix, t = { s with index := ix }

/-- What has nothing to do with the index is the same at sites that are alike but for it. -/
theorem respects_ask {α : Type} {f : Site → Except Fault α}
    (blind : ∀ s ix, f { s with index := ix } = f s) : (ask f).Respects AlikeButIndex := by
  rintro s _ ⟨ix, rfl⟩
  exact ⟨(blind s ix).symm, ix, rfl⟩

/-- The primary store takes a deletion on or not, and what becomes of the index after that stays
there. -/
theorem respects_deleteDoomed (d : Doomed) : (deleteDoomed d).Respects AlikeButIndex := by
  rintro s _ ⟨ix, rfl⟩
  cases taken : s.primary.takesOn s.deletionLimits d with
  | error f =>
    have refused := Primary.deleteDoomed_of_refused taken
    rw [deleteDoomed_of_error refused, deleteDoomed_of_error (s := { s with index := ix }) refused]
    exact ⟨rfl, ix, rfl⟩
  | ok _ =>
    obtain ⟨batches, -, deleted⟩ := Primary.deleteDoomed_of_takesOn taken
    rw [deleteDoomed_of_ok deleted, deleteDoomed_of_ok (s := { s with index := ix }) deleted]
    exact ⟨rfl, _, rfl⟩

theorem respects_doomed (fs : Fields) : (doomed fs).Respects AlikeButIndex := by
  apply Act.Respects.bind (respects_ask fun _ _ => rfl)
  intro project
  exact Act.respects_ofExcept _

theorem respects_deleteGiven (fs : Fields) : (deleteGiven fs).Respects AlikeButIndex := by
  have deleted := (respects_doomed fs).bind respects_deleteDoomed
  unfold deleteGiven
  dsimp only
  split
  · exact Act.Respects.bind (Act.respects_throw _) fun _ => deleted
  · exact deleted

theorem respects_purgeGiven (fs : Fields) : (purgeGiven fs).Respects AlikeButIndex := by
  have deleted (window : Option String × Option String) :=
    (respects_ask (f := fun s => requireBounds s.now window.1 window.2) fun _ _ => rfl).bind
      fun bounds => (respects_doomed fs).bind
        fun d => respects_deleteDoomed { d with bounds := bounds }
  unfold purgeGiven
  dsimp only
  split
  · exact Act.Respects.bind (Act.respects_throw _) fun _ =>
      (Act.respects_ofExcept _).bind deleted
  · exact (Act.respects_ofExcept _).bind deleted

/-- From sites that are alike but for the index every deletion ends in the same way, and it leaves
sites that are alike but for the index. -/
theorem DeletionCall.run_respects (c : DeletionCall) : c.run.Respects AlikeButIndex := by
  cases c with
  | read d => exact respects_deleteDoomed d
  | given fs => exact respects_deleteGiven fs
  | readWindow projectId level environment lookback range =>
    apply Act.Respects.bind (respects_ask fun _ _ => rfl)
    intro bounds
    exact respects_deleteDoomed _
  | givenWindow fs => exact respects_purgeGiven fs

/-- However the index stands, what it holds and which of its calls fail, a deletion returns the same
number or raises the same fault, and leaves the same primary store. -/
theorem deletions_ignore_index (c : DeletionCall) (s : Site) (ix ix' : SearchIndex) :
    (c.run { s with index := ix }).1 = (c.run { s with index := ix' }).1 ∧
      (c.run { s with index := ix }).2.primary = (c.run { s with index := ix' }).2.primary := by
  obtain ⟨same, _, left⟩ := c.run_respects { s with index := ix } { s with index := ix' } ⟨ix', rfl⟩
  exact ⟨same, by rw [left]⟩

end Site

end Logbook
