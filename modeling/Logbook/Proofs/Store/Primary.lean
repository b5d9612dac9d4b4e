import Logbook.Proofs.Log.Entry
import Logbook.Proofs.Query.Page
import Mathlib.Data.List.Nodup

/-!
# The primary store, call by call

A log under a new identifier is stored at the end, in the form that its columns give it, if these
take it and are wide enough. A deletion that the store takes on (`Primary.takesOn`) reads the
identifiers of the selected logs and deletes those batch by batch; as no identifier is shared, just
the selected logs are gone after it, and each is counted once. Another deletion changes nothing.
-/

namespace Logbook

section Keys

variable {α κ : Type} {key : α → κ} {xs : List α}

/-- Where no two items share a key, an item with the key of one that passes a test passes it. -/
theorem passes_of_key_mem (distinct : (xs.map key).Nodup) {test : α → Bool} {x : α} (mem : x ∈ xs)
    (listed : key x ∈ (xs.filter test).map key) : test x = true := by
  obtain ⟨y, kept, same⟩ := List.mem_map.1 listed
  obtain ⟨inside, passed⟩ := List.mem_filter.1 kept
  rw [← List.inj_on_of_nodup_map distinct inside mem same]
  exact passed

variable [DecidableEq κ]

/-- The items without the keys of those that pass a test are the ones that do not pass it. -/
theorem filter_keys (distinct : (xs.map key).Nodup) (test : α → Bool) :
    xs.filter (fun x => key x ∉ (xs.filter test).map key) = xs.filter (!test ·) := by
  apply List.filter_congr
  intro x mem
  cases passes : test x with
  | true =>
    have listed : key x ∈ (xs.filter test).map key :=
      List.mem_map_of_mem (List.mem_filter.2 ⟨mem, passes⟩)
    simp only [listed, not_true_eq_false, decide_false, Bool.not_true]
  | false =>
    have other : key x ∉ (xs.filter test).map key := by
      intro listed
      rw [passes_of_key_mem distinct mem listed] at passes
      cases passes
    simp only [other, not_false_eq_true, decide_true, Bool.not_false]

/-- Without some of the keys of those that pass a test, all that do not pass it are left. -/
theorem filter_subset_keys (distinct : (xs.map key).Nodup) (test : α → Bool) {ks : List κ}
    (among : ks ⊆ (xs.filter test).map key) :
    (xs.filter fun x => key x ∉ ks).filter (!test ·) = xs.filter (!test ·) := by
  rw [List.filter_filter]
  apply List.filter_congr
  intro x mem
  cases passes : test x with
  | true => rfl
  | false =>
    have other : key x ∉ ks := by
      intro listed
      rw [passes_of_key_mem distinct mem (among listed)] at passes
      cases passes
    simp only [other, not_false_eq_true, decide_true, Bool.not_false, Bool.and_self]

/-- Under the key of an item there is no other one. -/
theorem filter_key_eq (distinct : (xs.map key).Nodup) {x : α} (mem : x ∈ xs) :
    xs.filter (key · = key x) = [x] := by
  induction xs with
  | nil => cases mem
  | cons y rest ih =>
    obtain ⟨apart, others⟩ := List.nodup_cons.1 distinct
    rcases List.mem_cons.1 mem with rfl | later
    · have none : rest.filter (key · = key x) = [] := by
        rw [List.filter_eq_nil_iff]
        intro z inside same
        exact apart (List.mem_map.2 ⟨z, inside, of_decide_eq_true same⟩)
      rw [List.filter_cons, if_pos (by simp), none]
    · have other : key y ≠ key x := fun same => apart (List.mem_map.2 ⟨x, later, same.symm⟩)
      rw [List.filter_cons, if_neg (by simpa using other), ih others later]

end Keys

/-- Some text that is kept of a log is longer than its column is wide. -/
def LogEntry.IsOverlong (r : LogEntry) : Prop :=
  100 < r.projectId.length ∨ 32 < r.projectObjectId.length ∨ 20 < r.level.length ∨
    50 < r.environment.length ∨ ∃ host, Column.text r.hostname = .ok (.str host) ∧ 255 < host.length

namespace Primary

variable {db : Primary}

/-- The columns are too narrow for a log that they take, if some text in it is too long and that
counts. The word for the type of a log is short. -/
theorem not_fits_iff {r row : LogEntry} (kept : r.inColumns = .ok row) :
    db.fits row.widths = false ↔ db.holdsWidths ∧ r.IsOverlong := by
  have same := LogEntry.eq_of_inColumns kept
  have host := LogEntry.hostname_of_inColumns kept
  have word : row.logType.name.length ≤ 20 := by cases row.logType <;> decide
  have texts : row.projectId = r.projectId ∧ row.projectObjectId = r.projectObjectId ∧
      row.level = r.level ∧ row.environment = r.environment := by
    rw [same]
    exact ⟨rfl, rfl, rfl, rfl⟩
  rw [LogEntry.IsOverlong, host, ← texts.1, ← texts.2.1, ← texts.2.2.1, ← texts.2.2.2, fits,
    LogEntry.widths]
  cases row.hostname <;> simp [word] <;> omega

/-- A log under a new identifier is stored if the columns take it and are wide enough. -/
theorem insert_of_fresh {r : LogEntry} (fresh : r.id ∉ db.records.map (·.id)) : db.insert r =
    r.inColumns.bind fun row => if db.fits row.widths then
      .ok { db with records := db.records ++ [row] } else .error .column := by
  unfold insert
  cases kept : r.inColumns with
  | error f => rfl
  | ok row =>
    have absent : db.records.any (·.id == row.id) = false := by
      rw [List.any_eq_false]
      intro x mem same
      rw [LogEntry.id_of_inColumns kept] at same
      exact fresh (List.mem_map.2 ⟨x, mem, eq_of_beq same⟩)
    simp only [bind, Except.bind, absent]
    cases db.fits row.widths <;> rfl

/-- A log is stored at the end, in the form that its columns give it, if its identifier is new and
the columns are wide enough. -/
theorem insert_eq_ok {r : LogEntry} {db' : Primary} (stored : db.insert r = .ok db') :
    ∃ row, r.inColumns = .ok row ∧ db.fits row.widths ∧ r.id ∉ db.records.map (·.id) ∧
      db' = { db with records := db.records ++ [row] } := by
  unfold insert at stored
  cases kept : r.inColumns with
  | error f =>
    rw [kept] at stored
    cases stored
  | ok row =>
    rw [kept] at stored
    cases wide : db.fits row.widths with
    | false =>
      simp only [bind, Except.bind, wide] at stored
      cases stored
    | true =>
      simp only [bind, Except.bind, wide, Bool.not_true, Bool.false_eq_true, if_false] at stored
      split at stored
      · cases stored
      · next absent =>
        cases stored
        exact ⟨row, rfl, wide, by simpa [LogEntry.id_of_inColumns kept] using absent, rfl⟩

/-- A log under a new identifier is stored, unless a column refuses its part or is too narrow; that is
no reason that is reported as a problem. -/
theorem insert_cases {r : LogEntry} (fresh : r.id ∉ db.records.map (·.id)) :
    (¬(r.isRefused ∨ db.holdsWidths ∧ r.IsOverlong) ∧ ∃ db', db.insert r = .ok db') ∨
      (r.isRefused ∨ db.holdsWidths ∧ r.IsOverlong) ∧
        ∃ f, db.insert r = .error f ∧ ∀ p, f ≠ .problem p := by
  rw [insert_of_fresh fresh]
  rcases r.inColumns_cases with ⟨taken, row, kept⟩ | ⟨refused, f, failed, unexplained⟩
  · rw [kept, ← not_fits_iff kept, taken]
    dsimp only [Except.bind]
    cases db.fits row.widths with
    | true => exact .inl ⟨by simp, _, rfl⟩
    | false => exact .inr ⟨.inr rfl, .column, rfl, nofun⟩
  · rw [failed]
    exact .inr ⟨.inl refused, f, rfl, unexplained⟩

/-- No two logs share an identifier, which is the key of their table. -/
def UniqueIds (db : Primary) : Prop :=
  (db.records.map (·.id)).Nodup

/-- One more log shares no identifier if its own is new. -/
theorem UniqueIds.append (unique : db.UniqueIds) {row : LogEntry}
    (fresh : row.id ∉ db.records.map (·.id)) :
    UniqueIds { db with records := db.records ++ [row] } := by
  unfold UniqueIds
  rw [List.map_append, List.map_singleton, ← List.concat_eq_append]
  exact unique.concat fresh

/-- A log is stored under an identifier that no other log has. -/
theorem UniqueIds.insert (unique : db.UniqueIds) {r : LogEntry} {db' : Primary}
    (stored : db.insert r = .ok db') : db'.UniqueIds := by
  obtain ⟨row, kept, -, fresh, rfl⟩ := insert_eq_ok stored
  rw [← LogEntry.id_of_inColumns kept] at fresh
  exact unique.append fresh

/-- Fewer logs share no identifiers either. -/
theorem UniqueIds.filter (unique : db.UniqueIds) (test : LogEntry → Bool) :
    UniqueIds { db with records := db.records.filter test } :=
  unique.sublist (List.Sublist.map _ List.filter_sublist)

/-- Batch by batch all logs under the identifiers of the batches are deleted. -/
theorem deleteBatches_records (batches : List (List String)) (db : Primary) :
    (db.deleteBatches batches).2 =
      { db with records := db.records.filter fun r => r.id ∉ batches.flatten } := by
  induction batches generalizing db with
  | nil =>
    have all : db.records.filter (fun r => r.id ∉ ([] : List (List String)).flatten) =
        db.records := List.filter_eq_self.2 fun _ _ => by simp
    rw [all]
    rfl
  | cons ids r ih =>
    simp only [deleteBatches, ih, deleteIds, List.filter_filter, List.flatten_cons,
      List.mem_append, not_or]
    congr 2
    funext x
    simp [Bool.and_comm]

/-- The batches of a deletion are cut from the identifiers of the selected logs. -/
theorem batchesOf_of_doomedBatches {limits : DeletionLimits} {d : Doomed}
    {batches : List (List String)} (cut : db.doomedBatches limits d = .ok batches) :
    batchesOf limits.batchSize ((db.records.filter d.selection.takes).map (·.id)) = .ok batches := by
  unfold doomedBatches at cut
  cases named : db.project d.projectId with
  | error f =>
    rw [named] at cut
    cases cut
  | ok project =>
    cases bounded : d.selection.check with
    | error f =>
      simp only [named, findIds, bounded] at cut
      cases cut
    | ok _ =>
      simp only [named, findIds, bounded] at cut
      exact cut

/-- The batches of a deletion hold the identifiers of the selected logs. -/
theorem doomedBatches_flatten {limits : DeletionLimits} (given : 0 ≤ limits.batchSize) {d : Doomed}
    {batches : List (List String)} (cut : db.doomedBatches limits d = .ok batches) :
    batches.flatten = (db.records.filter d.selection.takes).map (·.id) := by
  have cut := batchesOf_of_doomedBatches cut
  unfold batchesOf at cut
  split at cut
  · cases cut
  · next nonzero =>
    rw [if_neg (by omega)] at cut
    cases cut
    exact flatten_batches (by omega) _

/-- Batches of any size hold no other identifiers than those of selected logs. -/
theorem doomedBatches_flatten_subset {limits : DeletionLimits} {d : Doomed}
    {batches : List (List String)} (cut : db.doomedBatches limits d = .ok batches) :
    batches.flatten ⊆ (db.records.filter d.selection.takes).map (·.id) := by
  by_cases given : 0 ≤ limits.batchSize
  · rw [doomedBatches_flatten given cut]
    exact List.Subset.refl _
  · have none := batchesOf_of_doomedBatches cut
    rw [batchesOf, if_neg (by omega), if_pos (by omega)] at none
    cases none
    exact List.nil_subset _

/-- Batch by batch each log is counted that is deleted, and none twice. -/
theorem deleteBatches_count (batches : List (List String)) (db : Primary) :
    (db.deleteBatches batches).1 + (db.deleteBatches batches).2.records.length =
      db.records.length := by
  induction batches generalizing db with
  | nil => exact Nat.zero_add _
  | cons ids r ih =>
    have rest := ih (db.deleteIds ids).2
    have here := db.records.length_eq_length_filter_add fun r => ids.contains r.id
    simp only [deleteBatches, deleteIds] at rest ⊢
    omega

/-- Does the store take a deletion on? The project has to be there, the bounds have to fit into the
column of the time, and batches have to have a size. -/
def takesOn (limits : DeletionLimits) (d : Doomed) (db : Primary) : Except Fault Unit := do
  let _ ← db.project d.projectId
  d.selection.check
  if limits.batchSize = 0 then .error .badValue else .ok ()

variable {limits : DeletionLimits} {d : Doomed}

/-- A deletion in a project that there is, with bounds that fit and batches of some size, is taken
on. -/
theorem takesOn_ok {project : Project} (known : db.project d.projectId = .ok project)
    (bounded : d.bounds.least.all Word.holds ∧ d.bounds.greatest.all Word.holds)
    (sized : 1 ≤ limits.batchSize) : db.takesOn limits d = .ok () := by
  have checked : d.selection.check = .ok () := by
    simp [Selection.check, Doomed.selection, bounded.1, bounded.2]
  have nonzero : limits.batchSize ≠ 0 := by omega
  simp only [takesOn, known, checked, bind, Except.bind, if_neg nonzero]

/-- A deletion that the store takes on gets its batches, and another one the fault. -/
theorem doomedBatches_of_takesOn (limits : DeletionLimits) (d : Doomed) (db : Primary) :
    ∃ batches, db.doomedBatches limits d = (db.takesOn limits d).map fun _ => batches := by
  unfold doomedBatches takesOn
  cases db.project d.projectId with
  | error f => exact ⟨[], rfl⟩
  | ok project =>
    simp only [findIds, bind, Except.bind]
    cases d.selection.check with
    | error f => exact ⟨[], rfl⟩
    | ok _ =>
      simp only [pure, Except.pure, batchesOf]
      split
      · exact ⟨[], rfl⟩
      · split <;> exact ⟨_, rfl⟩

/-- A deletion that the store does not take on changes nothing. -/
theorem deleteDoomed_of_refused {f : Fault} (refused : db.takesOn limits d = .error f) :
    deleteDoomed limits d db = (.error f, db) := by
  obtain ⟨batches, cut⟩ := doomedBatches_of_takesOn limits d db
  rw [refused] at cut
  simp [deleteDoomed, Act.bind_apply, cut, Except.map]

/-- A deletion that the store takes on goes through all its batches. -/
theorem deleteDoomed_of_takesOn (taken : db.takesOn limits d = .ok ()) : ∃ batches,
    db.doomedBatches limits d = .ok batches ∧
      deleteDoomed limits d db = (.ok (db.deleteBatches batches).1,
        { db with records := db.records.filter fun r => r.id ∉ batches.flatten }) := by
  obtain ⟨batches, cut⟩ := doomedBatches_of_takesOn limits d db
  rw [taken] at cut
  refine ⟨batches, cut, ?_⟩
  rw [← deleteBatches_records]
  simp [deleteDoomed, Act.bind_apply, cut, Except.map]

/-- A deletion that the store takes on leaves the logs that are not selected, and counts the
others. -/
theorem deleteDoomed_distinct (given : 0 ≤ limits.batchSize) (unique : db.UniqueIds)
    (taken : db.takesOn limits d = .ok ()) :
    deleteDoomed limits d db = (.ok (db.records.filter d.selection.takes).length,
      { db with records := db.records.filter (!d.selection.takes ·) }) := by
  obtain ⟨batches, cut, deleted⟩ := deleteDoomed_of_takesOn taken
  have left := deleteBatches_records batches db
  have count := deleteBatches_count batches db
  have total := db.records.length_eq_length_filter_add d.selection.takes
  rw [doomedBatches_flatten given cut, filter_keys unique] at deleted left
  rw [left] at count
  have all : (db.deleteBatches batches).1 = (db.records.filter d.selection.takes).length := by
    dsimp only at count
    omega
  rw [deleted, all]

/-- A deletion fails and changes nothing, or it leaves the logs that are not selected. -/
theorem deleteDoomed_records (given : 0 ≤ limits.batchSize) (d : Doomed)
    (distinct : (db.records.map (·.id)).Nodup) :
    (∃ f, deleteDoomed limits d db = (.error f, db)) ∨
      ∃ n, deleteDoomed limits d db =
        (.ok n, { db with records := db.records.filter (!d.selection.takes ·) }) := by
  cases taken : db.takesOn limits d with
  | error f => exact .inl ⟨f, deleteDoomed_of_refused taken⟩
  | ok _ => exact .inr ⟨_, deleteDoomed_distinct given distinct taken⟩

end Primary

end Logbook
