import Logbook.Proofs.Site.Deletion
import Logbook.Proofs.Time.Window

/-!
# Purges and their windows

A purge that is given a window deletes no log outside of it, and one that is not understood deletes
nothing (`Site.purge_of_given`). An empty text is taken for none at all, though, and a purge without
any text deletes logs of all times. So a purge stays in its window but for this one case
(`Site.purge_staysInWindow_iff`).
-/

namespace Logbook

namespace Site

variable {s : Site} {projectId : String} {level environment : Option Wanted}
  {lookback range : Option String}

/-- A purge fails and changes nothing; or just one of its texts is a window, and all the logs that it
deletes are of a time within. -/
def StaysInWindow (projectId : String) (level environment : Option Wanted)
    (lookback range : Option String) (s : Site) : Prop :=
  (∃ f, purge projectId level environment lookback range s = (.error f, s)) ∨
    ∃ n s' b, purge projectId level environment lookback range s = (.ok n, s') ∧
      NamesWindow s.now lookback range b ∧
      ∀ r ∈ s.primary.records, r ∉ s'.primary.records → b.contains r.timestampMs

/-- A deletion fails and changes nothing, or it deletes no logs but those that it names. -/
theorem deleteDoomed_cases (unique : s.primary.UniqueIds) (d : Doomed) :
    (∃ f, s.primary.takesOn s.deletionLimits d = .error f ∧ deleteDoomed d s = (.error f, s)) ∨
      ∃ n s', s.primary.takesOn s.deletionLimits d = .ok () ∧ deleteDoomed d s = (.ok n, s') ∧
        ∀ r ∈ s.primary.records, r ∉ s'.primary.records → d.Names r := by
  cases taken : s.primary.takesOn s.deletionLimits d with
  | error f =>
    exact .inl ⟨f, rfl, deleteDoomed_of_error (Primary.deleteDoomed_of_refused taken)⟩
  | ok _ =>
    obtain ⟨batches, cut, deleted⟩ := Primary.deleteDoomed_of_takesOn taken
    refine .inr ⟨_, _, rfl, deleteDoomed_of_ok deleted, ?_⟩
    intro r mem gone
    have listed : r.id ∈ batches.flatten := by
      by_contra kept
      exact gone (List.mem_filter.2 ⟨mem, decide_eq_true kept⟩)
    exact (d.takes_iff r).1
      (passes_of_key_mem unique mem (Primary.doomedBatches_flatten_subset cut listed))

theorem purge_of_bounds {b : TimeSpan} (bounds : requireBounds s.now lookback range = .ok b) :
    purge projectId level environment lookback range s =
      deleteDoomed ⟨projectId, level, environment, b⟩ s := by
  unfold purge
  rw [Act.bind_of_ok (show ask (fun s => requireBounds s.now lookback range) s = (.ok b, s) by
    rw [ask, bounds])]

theorem purge_of_error {f : Fault} (failed : requireBounds s.now lookback range = .error f) :
    purge projectId level environment lookback range s = (.error f, s) := by
  unfold purge
  rw [Act.bind_of_error (show ask (fun s => requireBounds s.now lookback range) s = (.error f, s) by
    rw [ask, failed])]

/-- A purge that is given a text stays in its window. -/
theorem purge_of_given (unique : s.primary.UniqueIds)
    (named : given lookback ≠ none ∨ given range ≠ none) :
    s.StaysInWindow projectId level environment lookback range := by
  cases bounds : requireBounds s.now lookback range with
  | error f => exact .inl ⟨f, purge_of_error bounds⟩
  | ok b =>
    unfold StaysInWindow
    rw [purge_of_bounds bounds]
    rcases deleteDoomed_cases unique ⟨projectId, level, environment, b⟩ with
      ⟨f, -, failed⟩ | ⟨n, s', -, deleted, within⟩
    · exact .inl ⟨f, failed⟩
    · refine .inr ⟨n, s', b, deleted, namesWindow_of_requireBounds bounds named, ?_⟩
      intro r mem gone
      have doomed := within r mem gone
      exact (b.contains_iff r.timestampMs).2 ⟨doomed.notBefore, doomed.notAfter⟩

/-- A deletion without bounds is not taken on in a project that is not there, nor without a size of
batches. -/
theorem takesOn_unbounded_iff {db : Primary} {limits : DeletionLimits} :
    (∃ f, db.takesOn limits ⟨projectId, level, environment, {}⟩ = .error f) ↔
      (∀ project, db.project projectId ≠ .ok project) ∨ limits.batchSize = 0 := by
  have checked : (Doomed.selection ⟨projectId, level, environment, {}⟩).check = .ok () := rfl
  cases known : db.project projectId with
  | error f => simp [Primary.takesOn, known, bind, Except.bind]
  | ok project =>
    by_cases sized : limits.batchSize = 0 <;>
      simp [Primary.takesOn, known, checked, sized, bind, Except.bind]

/-- A purge stays in its window unless it gets no text but empty ones and is not refused for another
reason: the project is not there, or batches have no size. -/
theorem purge_staysInWindow_iff (unique : s.primary.UniqueIds) :
    s.StaysInWindow projectId level environment lookback range ↔
      (given lookback ≠ none ∨ given range ≠ none) ∨
        (∀ project, s.primary.project projectId ≠ .ok project) ∨ s.settings.deleteBatchSize = 0 := by
  by_cases named : given lookback ≠ none ∨ given range ≠ none
  · exact iff_of_true (purge_of_given unique named) (.inl named)
  · obtain ⟨l, r⟩ : given lookback = none ∧ given range = none := by
      simpa only [not_or, not_not] using named
    have ran : purge projectId level environment lookback range s =
        deleteDoomed ⟨projectId, level, environment, {}⟩ s :=
      purge_of_bounds (requireBounds_neither l r)
    have refusals : (∃ f, s.primary.takesOn s.deletionLimits ⟨projectId, level, environment, {}⟩ =
        .error f) ↔ _ := takesOn_unbounded_iff
    rw [or_iff_right named]
    refine Iff.trans ?_ refusals
    unfold StaysInWindow
    rw [ran]
    rcases deleteDoomed_cases unique ⟨projectId, level, environment, {}⟩ with
      ⟨f, refused, failed⟩ | ⟨n, s', taken, deleted, -⟩
    · exact iff_of_true (.inl ⟨f, failed⟩) ⟨f, refused⟩
    · refine iff_of_false ?_ (by simp [taken])
      rintro (⟨f, failed⟩ | ⟨-, -, b, -, window, -⟩)
      · rw [deleted] at failed
        cases failed
      · exact not_namesWindow l r b window

/-- A range of some seconds, in a site with logs before, in and after it. -/
theorem purge_staysInWindow_pairwiseSite :
    pairwiseSite.StaysInWindow "shop" none none none
        (some "1970-01-01-00:00:02 to 1970-01-01-00:00:04") ∧
      (purge "shop" none none none (some "1970-01-01-00:00:02 to 1970-01-01-00:00:04")
        pairwiseSite).2.primary.records.map (·.id) = ["log-1", "log-3", "log-5"] := by
  refine ⟨?_, by decide +kernel⟩
  exact (purge_staysInWindow_iff
    (show (pairwiseSite.primary.records.map (·.id)).Nodup by decide)).2 (.inl (by decide))

/-- An empty lookback deletes all logs of the project. -/
theorem purge_leaves_window_emptyLookback :
    ¬pairwiseSite.StaysInWindow "shop" none none (some "") none ∧
      (purge "shop" none none (some "") none pairwiseSite).2.primary.records.map (·.id) =
        ["log-3"] := by
  refine ⟨?_, by decide +kernel⟩
  rintro (⟨f, failed⟩ | ⟨-, -, b, -, window, -⟩)
  · have ran : (purge "shop" none none (some "") none pairwiseSite).1.toOption = some 4 := by
      decide +kernel
    rw [failed] at ran
    cases ran
  · exact not_namesWindow rfl rfl b window

end Site

end Logbook
