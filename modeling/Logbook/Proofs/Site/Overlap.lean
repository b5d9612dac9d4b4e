import Logbook.Proofs.Site.Deletion

/-!
# Deletions among calls that store logs

A deletion reads the identifiers of its logs, deletes these batch by batch, and only then looks for
their documents. Meanwhile logs may be stored, step by step (`Overlap.Step`). Their records are safe,
as they have other identifiers. But documents are looked for by the conditions of the deletion, and
so a log that is stored meanwhile keeps its document just if the deletion does not name it
(`Overlap.documented_close_iff`). Undisturbed, the steps of a call are the call
(`Overlap.close_run_batches`, `Overlap.site_run_store`).
-/

namespace Logbook

/-- Each log in the primary store has its document in the index. -/
def Site.Documented (s : Site) : Prop :=
  ∀ row ∈ s.primary.records, ∃ r, r.inColumns = .ok row ∧ s.index.HasDocument r

/-- A site with a deletion that has read the identifiers of its logs and has not begun with their
documents, and with calls that store logs meanwhile. -/
structure Overlap where
  site : Site
  /-- The batches that are left to delete. -/
  batches : List (List String)
  /-- The logs stored meanwhile. -/
  stored : List LogEntry := []
  /-- Those of them whose document and alarms are still to follow. -/
  pending : List LogEntry := []

namespace Overlap

/-- What happens next: a batch is deleted, a log is stored at a time in microseconds, or its document
and alarms follow. -/
inductive Step where
  | batch
  | store (now : Int) (payload : Json)
  | follow (r : LogEntry)

/-- A step is taken. -/
def take (o : Overlap) : Step → Overlap
  | .batch => match o.batches with
    | [] => o
    | ids :: rest =>
      { o with
        site := { o.site with primary := (o.site.primary.deleteIds ids).2 }
        batches := rest }
  | .store now payload => match Site.accept payload { o.site with now := now } with
    | (.error _, s) => { o with site := s }
    | (.ok r, s) => { o with site := s, stored := o.stored ++ [r], pending := o.pending ++ [r] }
  | .follow r =>
    if r ∈ o.pending then
      { o with site := (Site.follow r o.site).2, pending := o.pending.erase r }
    else o

/-- Steps are taken one after the other. -/
def run (o : Overlap) (steps : List Step) : Overlap :=
  steps.foldl take o

/-- The deletion has read the identifiers of its logs. -/
def start (d : Doomed) (s : Site) : Except Fault Overlap :=
  (s.primary.doomedBatches s.deletionLimits d).map fun batches => { site := s, batches := batches }

/-- All batches are deleted, and all calls that stored logs have come to their end. -/
def Settled (o : Overlap) : Prop :=
  o.batches = [] ∧ o.pending = []

/-- The deletion looks for the documents of its logs and deletes them. -/
def close (d : Doomed) (o : Overlap) : Site :=
  (Site.eraseFound d.query o.site).2

theorem close_eq (d : Doomed) (o : Overlap) : o.close d =
    { o.site with
      index := (o.site.index.eraseFound d.query o.site.settings.collectPageSize).2 } := by
  simp [close, Site.eraseFound, Act.bind_apply, Site.onIndex]

variable {o : Overlap} {d : Doomed} {s : Site}

theorem start_eq_ok (started : start d s = .ok o) : ∃ batches,
    s.primary.doomedBatches s.deletionLimits d = .ok batches ∧ o = { site := s, batches } := by
  unfold start at started
  cases cut : s.primary.doomedBatches s.deletionLimits d with
  | error f =>
    rw [cut] at started
    cases started
  | ok batches =>
    rw [cut] at started
    exact ⟨batches, rfl, (Except.ok.inj started).symm⟩

section Adequacy

/-- Batch by batch the logs go that a deletion deletes. -/
theorem run_batches (o : Overlap) : o.run (List.replicate o.batches.length .batch) =
    { o with
      site := { o.site with primary := (o.site.primary.deleteBatches o.batches).2 }
      batches := [] } := by
  obtain ⟨site, batches, stored, pending⟩ := o
  induction batches generalizing site with
  | nil => rfl
  | cons ids rest ih => exact ih { site with primary := (site.primary.deleteIds ids).2 }

/-- Undisturbed, the steps of a deletion are the deletion. -/
theorem close_run_batches (started : start d s = .ok o) :
    (o.run (List.replicate o.batches.length .batch)).close d = (Site.deleteDoomed d s).2 := by
  obtain ⟨batches, cut, rfl⟩ := start_eq_ok started
  have deleted : Primary.deleteDoomed s.deletionLimits d s.primary =
      (.ok (s.primary.deleteBatches batches).1, (s.primary.deleteBatches batches).2) := by
    simp [Primary.deleteDoomed, Act.bind_apply, cut, Except.map]
  rw [run_batches, close_eq, Site.deleteDoomed_of_ok deleted]

/-- Undisturbed, the steps of a call that stores a log are the call. -/
theorem site_run_store (o : Overlap) (now : Int) (payload : Json) :
    match Site.ingest payload { o.site with now := now } with
    | (.error _, s) => (o.run [.store now payload]).site = s
    | (.ok r, s) => (o.run [.store now payload, .follow r]).site = s := by
  rw [Site.ingest_eq]
  rcases Site.accept_cases payload { o.site with now := now } with
    ⟨f, drawn, -, rejected⟩ | ⟨r, db, -, accepted⟩
  · rw [Act.bind_of_error rejected]
    simp only [run, List.foldl_cons, List.foldl_nil, take, rejected]
  · rw [Act.bind_of_ok accepted, Act.bind_of_ok (Site.follow_apply r _)]
    simp only [Act.pure_apply, run, List.foldl_cons, List.foldl_nil, take, accepted,
      List.mem_append, List.mem_singleton, or_true, if_true, Site.follow_apply]

end Adequacy

/-- A payload is rejected; or its log is stored, under an identifier that no log has. -/
theorem take_store_cases (o : Overlap) (now : Int) (payload : Json) :
    (∃ drawn, o.take (.store now payload) =
        { o with site := { o.site with now := now, drawn := drawn } }) ∨
      ∃ r row, r.inColumns = .ok row ∧ r.id ∉ o.site.primary.records.map (·.id) ∧ r.id ≠ "" ∧
        o.take (.store now payload) =
          { o with
            site := { o.site with
              now := now
              drawn := o.site.drawn + 1
              primary := { o.site.primary with records := o.site.primary.records ++ [row] } }
            stored := o.stored ++ [r]
            pending := o.pending ++ [r] } := by
  rcases Site.accept_cases payload { o.site with now := now } with
    ⟨f, drawn, -, rejected⟩ | ⟨r, db, accepted, ran⟩
  · exact .inl ⟨drawn, by simp only [take, rejected]⟩
  · obtain ⟨row, columns, -, fresh, rfl⟩ := Primary.insert_eq_ok accepted.stored
    have filled : r.id ≠ "" := by
      rw [accepted.id]
      exact Site.drawnId_ne_empty _
    exact .inr ⟨r, row, columns, fresh, filled, by simp only [take, ran]⟩

/-- The document of a log follows, and its alarms, which stay with the desk. -/
theorem take_follow_of_mem {r : LogEntry} (late : r ∈ o.pending) : ∃ desk,
    o.take (.follow r) =
      { o with
        site := { o.site with index := withDocument r.toFields o.site.index, desk := desk }
        pending := o.pending.erase r } := by
  obtain ⟨desk, ran⟩ := Site.follow_frame r o.site
  exact ⟨desk, by simp only [take, if_pos late, ran]⟩

/-- What holds while a deletion and calls that store logs are under way: each log in the primary
store has its document or will have it, the logs stored meanwhile are there, and of the logs that the
deletion names there are no others but those that are left to delete. -/
structure Sound (d : Doomed) (o : Overlap) : Prop where
  unique : o.site.primary.UniqueIds
  healthy : o.site.index.Healthy
  mirrors : ∃ logs, o.site.index.Mirrors logs
  paged : 0 ≤ o.site.settings.collectPageSize
  documented : ∀ row ∈ o.site.primary.records, ∃ r, r.inColumns = .ok row ∧
    (o.site.index.HasDocument r ∨ r ∈ o.pending)
  kept : ∀ r ∈ o.stored, ∃ row ∈ o.site.primary.records, r.inColumns = .ok row
  filled : ∀ r ∈ o.stored, r.id ≠ ""
  late : o.pending ⊆ o.stored
  named : ∀ row ∈ o.site.primary.records, d.Names row →
    row.id ∈ o.batches.flatten ∨ ∃ r ∈ o.stored, r.inColumns = .ok row
  listed : o.batches.flatten ⊆ o.site.primary.records.map (·.id)
  once : o.batches.flatten.Nodup
  apart : ∀ r ∈ o.stored, r.id ∉ o.batches.flatten

/-- Each log of a site has its document in a healthy index, and that mirrors some logs. -/
structure Ready (s : Site) : Prop where
  unique : s.primary.UniqueIds
  healthy : s.index.Healthy
  mirrors : ∃ logs, s.index.Mirrors logs
  documented : s.Documented
  sized : 0 ≤ s.settings.deleteBatchSize
  paged : 0 ≤ s.settings.collectPageSize

theorem Ready.sound (h : Ready s) (started : start d s = .ok o) : Sound d o := by
  obtain ⟨batches, cut, rfl⟩ := start_eq_ok started
  have ids := Primary.doomedBatches_flatten (show 0 ≤ s.deletionLimits.batchSize from h.sized) cut
  have among : ((s.primary.records.filter d.selection.takes).map (·.id)).Sublist
      (s.primary.records.map (·.id)) := List.Sublist.map _ List.filter_sublist
  refine ⟨h.unique, h.healthy, h.mirrors, h.paged, ?_, nofun, nofun, List.nil_subset _, ?_,
    ids ▸ among.subset, ids ▸ h.unique.sublist among, nofun⟩
  · intro row mem
    obtain ⟨r, columns, has⟩ := h.documented row mem
    exact ⟨r, columns, .inl has⟩
  · intro row mem named
    have selected := List.mem_filter.2 ⟨mem, (d.takes_iff row).2 named⟩
    refine .inl ?_
    rw [ids]
    exact List.mem_map_of_mem selected

namespace Sound

/-- Deleting a batch: no log that is stored meanwhile has an identifier of it. -/
theorem batch (h : Sound d o) : Sound d (o.take .batch) := by
  obtain ⟨site, batches, stored, pending⟩ := o
  cases batches with
  | nil => exact h
  | cons ids rest =>
    have stays : ∀ row ∈ site.primary.records, row.id ∉ ids →
        row ∈ (site.primary.deleteIds ids).2.records := by
      intro row mem other
      exact List.mem_filter.2 ⟨mem, by simpa using other⟩
    have was : ∀ row ∈ (site.primary.deleteIds ids).2.records,
        row ∈ site.primary.records ∧ row.id ∉ ids := by
      intro row mem
      obtain ⟨inside, other⟩ := List.mem_filter.1 mem
      exact ⟨inside, by simpa using other⟩
    have once : (ids ++ rest.flatten).Nodup := h.once
    refine ⟨h.unique.filter _, h.healthy, h.mirrors, h.paged, ?documented, ?kept, h.filled, h.late,
      ?named, ?listed, once.of_append_right, ?apart⟩
    case documented =>
      intro row mem
      exact h.documented row (was row mem).1
    case kept =>
      intro r mem
      obtain ⟨row, inside, columns⟩ := h.kept r mem
      have other : row.id ∉ ids := by
        rw [LogEntry.id_of_inColumns columns]
        exact fun listed => h.apart r mem (List.mem_append_left _ listed)
      exact ⟨row, stays row inside other, columns⟩
    case named =>
      intro row mem named
      obtain ⟨inside, other⟩ := was row mem
      rcases h.named row inside named with listed | stored
      · exact .inl ((List.mem_append.1 listed).resolve_left other)
      · exact .inr stored
    case listed =>
      intro id mem
      obtain ⟨row, inside, rfl⟩ := List.mem_map.1 (h.listed (List.mem_append_right ids mem))
      have other : row.id ∉ ids := fun first => List.disjoint_of_nodup_append once first mem
      exact List.mem_map_of_mem (stays row inside other)
    case apart =>
      intro r mem listed
      exact h.apart r mem (List.mem_append_right ids listed)

/-- Storing a log, under an identifier that no log has and so none that is left to delete. -/
theorem store (h : Sound d o) (now : Int) (payload : Json) :
    Sound d (o.take (.store now payload)) := by
  rcases o.take_store_cases now payload with
    ⟨drawn, taken⟩ | ⟨r, row, columns, fresh, filled, taken⟩
  · rw [taken]
    exact { h with }
  · rw [taken]
    refine ⟨h.unique.append (LogEntry.id_of_inColumns columns ▸ fresh), h.healthy, h.mirrors,
      h.paged, ?documented, ?kept, ?filled, ?late, ?named, ?listed, h.once, ?apart⟩
    case documented =>
      refine List.forall_mem_append.2 ⟨?_, List.forall_mem_singleton.2 ⟨r, columns, .inr (by simp)⟩⟩
      intro x old
      obtain ⟨y, columns', there⟩ := h.documented x old
      exact ⟨y, columns', there.imp_right (List.mem_append_left _)⟩
    case kept =>
      refine List.forall_mem_append.2 ⟨?_, List.forall_mem_singleton.2 ⟨row, by simp, columns⟩⟩
      intro x old
      obtain ⟨y, inside, columns'⟩ := h.kept x old
      exact ⟨y, List.mem_append_left _ inside, columns'⟩
    case filled =>
      exact List.forall_mem_append.2 ⟨h.filled, List.forall_mem_singleton.2 filled⟩
    case late =>
      exact List.append_subset.2 ⟨List.subset_append_of_subset_left _ h.late, by simp⟩
    case named =>
      refine List.forall_mem_append.2
        ⟨?_, List.forall_mem_singleton.2 fun _ => .inr ⟨r, by simp, columns⟩⟩
      intro x old named
      rcases h.named x old named with listed | ⟨y, stored, columns'⟩
      · exact .inl listed
      · exact .inr ⟨y, List.mem_append_left _ stored, columns'⟩
    case listed =>
      intro id mem
      rw [List.map_append]
      exact List.mem_append_left _ (h.listed mem)
    case apart =>
      refine List.forall_mem_append.2 ⟨h.apart, List.forall_mem_singleton.2 ?_⟩
      exact fun listed => fresh (h.listed listed)

/-- Putting the document of a log. -/
theorem follow (h : Sound d o) (r : LogEntry) : Sound d (o.take (.follow r)) := by
  by_cases late : r ∈ o.pending
  case neg =>
    have idle : o.take (.follow r) = o := by simp only [Overlap.take, if_neg late]
    rw [idle]
    exact h
  case pos =>
    obtain ⟨logs, mirrors⟩ := h.mirrors
    obtain ⟨healthy, again, has, others⟩ := mirrors.put h.healthy (h.filled r (h.late late))
    obtain ⟨desk, taken⟩ := take_follow_of_mem late
    rw [taken, withDocument, if_pos h.healthy.connected]
    refine { h with
      healthy := healthy
      mirrors := again
      late := fun x mem => h.late (List.mem_of_mem_erase mem)
      documented := ?_ }
    intro row mem
    obtain ⟨x, columns, has' | late'⟩ := h.documented row mem
    · by_cases same : x.id = r.id
      · obtain ⟨row', mem', columns'⟩ := h.kept r (h.late late)
        have id : row'.id = row.id := by
          rw [LogEntry.id_of_inColumns columns', LogEntry.id_of_inColumns columns, same]
        have one := List.inj_on_of_nodup_map h.unique mem' mem id
        exact ⟨r, one ▸ columns', .inl has⟩
      · exact ⟨x, columns, .inl (others x same has')⟩
    · by_cases same : x = r
      · exact ⟨x, columns, .inl (same ▸ has)⟩
      · exact ⟨x, columns, .inr ((List.mem_erase_of_ne same).2 late')⟩

/-- Every step keeps what holds. -/
theorem take (h : Sound d o) (step : Step) : Sound d (o.take step) := by
  cases step with
  | batch => exact h.batch
  | store now payload => exact h.store now payload
  | follow r => exact h.follow r

theorem run (h : Sound d o) (steps : List Step) : Sound d (o.run steps) := by
  induction steps generalizing o with
  | nil => exact h
  | cons step rest ih => exact ih (h.take step)

end Sound

/-- Where each log has its document, a deletion among calls that store logs leaves it so just if it
names none of the logs that are stored meanwhile. -/
theorem documented_close_iff (ready : Ready s) (started : start d s = .ok o) {steps : List Step}
    (settled : (o.run steps).Settled) :
    ((o.run steps).close d).Documented ↔ ∀ r ∈ (o.run steps).stored, ¬d.Names r := by
  have h := (ready.sound started).run steps
  obtain ⟨logs, mirrors⟩ := h.mirrors
  obtain ⟨batches, pending⟩ := settled
  have left (r : LogEntry) : ((o.run steps).close d).index.HasDocument r ↔
      (o.run steps).site.index.HasDocument r ∧ ¬d.Names r := by
    rw [close_eq]
    exact mirrors.hasDocument_eraseFound h.healthy d h.paged r
  have records : ((o.run steps).close d).primary = (o.run steps).site.primary := by rw [close_eq]
  unfold Site.Documented
  rw [records]
  constructor
  · intro documented r stored named
    obtain ⟨row, mem, columns⟩ := h.kept r stored
    obtain ⟨x, columns', has⟩ := documented row mem
    have row_named := (Doomed.names_inColumns columns).2 named
    exact ((left x).1 has).2 ((Doomed.names_inColumns columns').1 row_named)
  · intro unnamed row mem
    obtain ⟨r, columns, has | late⟩ := h.documented row mem
    · refine ⟨r, columns, (left r).2 ⟨has, fun named => ?_⟩⟩
      rcases h.named row mem ((Doomed.names_inColumns columns).2 named) with listed | ⟨x, stored, columns'⟩
      · rw [batches] at listed
        exact List.not_mem_nil listed
      · exact unnamed x stored
          ((Doomed.names_inColumns columns').1 ((Doomed.names_inColumns columns).2 named))
    · rw [pending] at late
      cases late

/-- The site that deletes in pairs, with the documents of its logs in the index. -/
def pairwiseMirror : Site :=
  { Site.pairwiseSite with
    drawn := 5
    index := { documents := Site.pairwiseSite.primary.records.map LogEntry.mirrored } }

theorem ready_pairwiseMirror : Ready pairwiseMirror where
  unique := show (pairwiseMirror.primary.records.map (·.id)).Nodup by decide
  healthy := ⟨rfl, fun _ _ => rfl⟩
  mirrors := ⟨pairwiseMirror.primary.records, rfl, by decide, by decide⟩
  documented := by
    have columns : ∀ row ∈ pairwiseMirror.primary.records, row.inColumns = .ok row ∧
        pairwiseMirror.index.documents.lookup row.id = some (documentOf row.toFields) := by
      decide +kernel
    exact fun row mem => ⟨row, columns row mem⟩
  sized := by decide
  paged := by decide

/-- The deletion of the old errors that has read their identifiers. -/
def oldErrorsRead : Overlap where
  site := pairwiseMirror
  batches := [["log-1", "log-2"], ["log-4"]]

theorem start_oldErrors : start Site.oldErrors pairwiseMirror = .ok oldErrorsRead := by
  have cut : pairwiseMirror.primary.doomedBatches pairwiseMirror.deletionLimits Site.oldErrors =
      .ok [["log-1", "log-2"], ["log-4"]] := by decide +kernel
  rw [start, cut]
  rfl

/-- An old log that arrives late. -/
def lateLog (level : String) : LogEntry where
  id := "log-6"
  projectId := "shop"
  projectObjectId := "o1"
  logType := .application
  level := level
  environment := "production"
  hostname := .null
  message := "Gateway timeout"
  stackTrace := []
  rawStackTrace := .null
  details := []
  detailString := .str "\x7b\x7d"
  request := .null
  timestampMs := 3000
  createdAt := "2024-03-31T12:00:01"

/-- Such a log is stored between two batches, and its document is put after them. -/
def lateSteps (level : String) : List Step :=
  [.batch,
    .store 1711886401000000 (.obj [("level", .str level), ("environment", .str "production"),
      ("projectId", .str "shop"), ("message", .str "Gateway timeout"), ("timestampMS", .int 3000)]),
    .batch,
    .follow (lateLog level)]

theorem documented_close_infoMeanwhile :
    (oldErrorsRead.run (lateSteps "INFO")).stored = [lateLog "INFO"] ∧
      ((oldErrorsRead.run (lateSteps "INFO")).close Site.oldErrors).Documented := by
  have stored : (oldErrorsRead.run (lateSteps "INFO")).stored = [lateLog "INFO"] := by
    decide +kernel
  have settled : (oldErrorsRead.run (lateSteps "INFO")).Settled :=
    ⟨by decide +kernel, by decide +kernel⟩
  refine ⟨stored, (documented_close_iff ready_pairwiseMirror start_oldErrors settled).2 ?_⟩
  rw [stored]
  decide

/-- An old error that is stored meanwhile stays in the primary store and loses its document. -/
theorem undocumented_close_errorMeanwhile :
    Ready pairwiseMirror ∧ start Site.oldErrors pairwiseMirror = .ok oldErrorsRead ∧
      (oldErrorsRead.run (lateSteps "ERROR")).Settled ∧
      ¬((oldErrorsRead.run (lateSteps "ERROR")).close Site.oldErrors).Documented := by
  have there : lateLog "ERROR" ∈
      ((oldErrorsRead.run (lateSteps "ERROR")).close Site.oldErrors).primary.records := by
    decide +kernel
  have gone : ((oldErrorsRead.run (lateSteps "ERROR")).close Site.oldErrors).index.documents.lookup
      "log-6" = none := by
    decide +kernel
  refine ⟨ready_pairwiseMirror, start_oldErrors, ⟨by decide +kernel, by decide +kernel⟩, ?_⟩
  intro documented
  obtain ⟨r, columns, has⟩ := documented _ there
  have id : "log-6" = r.id := LogEntry.id_of_inColumns columns
  rw [SearchIndex.HasDocument, ← id, gone] at has
  cases has

end Overlap

end Logbook
