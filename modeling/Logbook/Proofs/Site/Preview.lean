import Logbook.Proofs.Site.Fallback
import Logbook.Proofs.Site.Purge
import Logbook.Proofs.Time.Bounds

/-!
# What a purge will delete

A search for the level, the environment and the time of a purge shows what the purge would delete:
its pages list just the identifiers of the records that are gone after it, whichever store answers
(`Site.purge_deletes_shown`). The bounds of a window fit into words, so the purge is taken on; only
its batches must have a size.
-/

namespace Logbook

/-- The records have identifiers, and no two of them the same one. -/
structure Primary.Identified (db : Primary) : Prop where
  unique : db.UniqueIds
  filled : ∀ r ∈ db.records, r.id ≠ ""

namespace Site

/-- A site that calls lead to from a primary store without logs. Between the calls all may change but
the logs in the primary store: settings, projects, the clock, the index. -/
inductive Reachable : Site → Prop where
  | empty {s : Site} : s.primary.records = [] → Reachable s
  | serve {s : Site} (c : ServiceCall) : Reachable s → Reachable (s.serve c)
  | elsewhere {s s' : Site} : s'.primary.records = s.primary.records → Reachable s → Reachable s'

section Reachable

variable {s : Site}

/-- A payload is rejected or stored under an identifier of its own. -/
theorem identified_ingest (h : s.primary.Identified) (payload : Json) :
    (ingest payload s).2.primary.Identified := by
  rcases ingest_cases payload s with ⟨f, drawn, -, ran⟩ | ⟨r, db, accepted, ran⟩
  · rw [ran]
    exact h
  · obtain ⟨desk, left⟩ := raiseAlarms_frame r.toFields r.id (s.withRecord r db)
    rw [ran, left]
    show db.Identified
    refine ⟨h.unique.insert accepted.stored, ?_⟩
    obtain ⟨row, kept, -, -, rfl⟩ := Primary.insert_eq_ok accepted.stored
    intro x mem
    rcases List.mem_append.1 mem with old | new
    · exact h.filled x old
    · rw [List.mem_singleton.1 new, LogEntry.id_of_inColumns kept, accepted.id]
      exact drawnId_ne_empty (s.drawn + 1)

/-- A deletion leaves records that there were. -/
theorem identified_deleteDoomed (h : s.primary.Identified) (d : Doomed) :
    (deleteDoomed d s).2.primary.Identified := by
  cases taken : s.primary.takesOn s.deletionLimits d with
  | error f =>
    rw [deleteDoomed_of_error (Primary.deleteDoomed_of_refused taken)]
    exact h
  | ok _ =>
    obtain ⟨batches, -, left⟩ := Primary.deleteDoomed_of_takesOn taken
    rw [deleteDoomed_of_ok left]
    exact ⟨h.unique.filter _, fun r mem => h.filled r (List.mem_of_mem_filter mem)⟩

/-- Every call of the service leaves records with identifiers of their own. -/
theorem identified_serve (h : s.primary.Identified) (c : ServiceCall) :
    (s.serve c).primary.Identified := by
  cases c with
  | change c =>
    cases c with
    | ingest now payload => exact identified_ingest (s := { s with now := now }) h payload
    | delete d => exact identified_deleteDoomed h d
  | search p =>
    obtain ⟨ix, -, left⟩ := search_frame p s
    rw [Site.serve, left]
    exact h
  | alarm now log logId =>
    obtain ⟨desk, left⟩ := raiseAlarms_frame log logId { s with now := now }
    rw [Site.serve, left]
    exact h

theorem Reachable.served (h : Reachable s) (calls : List ServiceCall) :
    Reachable (s.served calls) := by
  induction calls generalizing s with
  | nil => exact h
  | cons c rest ih => exact ih (h.serve c)

theorem Reachable.identified (h : Reachable s) : s.primary.Identified := by
  induction h with
  | empty none => exact ⟨by rw [Primary.UniqueIds, none]; exact List.nodup_nil, by simp [none]⟩
  | serve c _ ih => exact identified_serve ih c
  | elsewhere same _ ih =>
    exact ⟨by rw [Primary.UniqueIds, same]; exact ih.unique, by rw [same]; exact ih.filled⟩

end Reachable

/-- The documents in the index are those of the records in the primary store. -/
def InStep (s : Site) : Prop :=
  OneToOne LogEntry.DocumentedBy s.primary.records s.index.contents

/-- The records of one site that are gone in another. -/
def gone (s s' : Site) : List LogEntry :=
  s.primary.records.filter (· ∉ s'.primary.records)

end Site

/-- A search asks for the logs of a purge: those of its project, level, environment and window,
whatever the pages and the order of the search. -/
structure SearchParams.Previews (p : SearchParams) (d : Doomed) : Prop where
  level : ∃ text : Option String, d.level = text.map .one
  environment : ∃ text : Option String, d.environment = text.map .one
  selection : p.selection = d.selection
  plain : p.textFilter? = none

/-- Pages that are windows of a list list the identifiers that its items carry. -/
theorem Answers.of_cut {answer : Int → Except Fault ResultPage} {source : Source} {size : Int}
    (pos : 1 ≤ size) {logs : List Fields} {ids : List String} (same : (documentIds logs).Perm ids)
    (count : logs.length = ids.length)
    (each : ∀ page, answer page = .ok (.cut source page size logs)) : Answers answer source ids :=
  .of_pages pos same count fun page _ => ⟨_, each page, rfl, rfl, rfl⟩

section Shown

variable {p : SearchParams} {d : Doomed}

/-- Whether a search is a preview does not depend on its page. -/
theorem SearchParams.Previews.page (shows : p.Previews d) (n : Int) :
    ({ p with page := n } : SearchParams).Previews d :=
  ⟨shows.level, shows.environment, shows.selection, shows.plain⟩

theorem SearchParams.Previews.filled (shows : p.Previews d) : p.Filled := by
  obtain ⟨level, asked⟩ := shows.level
  obtain ⟨environment, asked'⟩ := shows.environment
  have same := shows.selection
  refine ⟨?_, ?_, ?_⟩
  · have own : p.level = level.map .one := by
      rw [← asked]
      exact congrArg Selection.level same
    rw [own]
    cases level <;> rintro ss ⟨⟩
  · have own : p.environment = environment.map .one := by
      rw [← asked']
      exact congrArg Selection.environment same
    rw [own]
    cases environment <;> rintro ss ⟨⟩
  · have none : p.hostname = none := congrArg Selection.hostname same
    rw [none]
    rintro ss ⟨⟩

/-- The document of a record satisfies the clauses of a preview if the record is selected. -/
theorem LogEntry.DocumentedBy.acceptsAll_preview (shows : p.Previews d) {row : LogEntry}
    {doc : Fields} (same : row.DocumentedBy doc) :
    Clause.acceptsAll doc p.clauses = .ok (d.selection.takes row) := by
  obtain ⟨r, rfl, columns⟩ := same
  rw [p.acceptsAll_clauses, ← SearchParams.takes_eq_indexTakes shows.filled, shows.selection, columns]
  rfl

/-- Documents list the identifiers of their records. -/
theorem documentIds_of_forall₂ {rows : List LogEntry} {docs : List Fields}
    (each : List.Forall₂ LogEntry.DocumentedBy rows docs) (filled : ∀ r ∈ rows, r.id ≠ "") :
    documentIds docs = rows.map (·.id) := by
  have members := (List.forall₂_and_left rows docs).2 ⟨fun _ mem => mem, each⟩
  refine documentIds_eq (List.forall₂_map_right_iff.2 (members.flip.imp ?_))
  rintro _ row ⟨mem, r, rfl, columns⟩
  have named : r.id = row.id := by rw [columns]
  exact ⟨congrArg Json.str named, filled row mem⟩

/-- What a preview accepts, from either store, lists the identifiers of the records that the purge
selects. -/
theorem documentIds_of_acceptsFrom (shows : p.Previews d) {s : Site} (same : s.InStep)
    (named : s.primary.Identified) {source : Source} {logs : List Fields}
    (accepted : s.AcceptsFrom p source logs) :
    (documentIds logs).Perm ((s.primary.selected d.selection).map (·.id)) ∧
      logs.length = (s.primary.selected d.selection).length := by
  have filled : ∀ r ∈ s.primary.selected d.selection, r.id ≠ "" :=
    fun r mem => named.filled r (List.mem_of_mem_filter mem)
  cases source with
  | index =>
    obtain ⟨docs, perm, each⟩ := same
    have chosen : List.Forall₂ LogEntry.DocumentedBy (s.primary.selected d.selection)
        (docs.filter fun doc => Clause.acceptsAll doc p.clauses = .ok true) := by
      apply List.rel_filter _ each
      intro r doc first
      show d.selection.takes r = true ↔ decide (Clause.acceptsAll doc p.clauses = .ok true) = true
      rw [first.acceptsAll_preview shows, decide_eq_true_eq, Except.ok.injEq]
    have passed : logs.Perm (s.index.passed p) := by
      have found : s.index.Accepts s.scanLimits p logs := accepted
      unfold SearchIndex.Accepts at found
      rwa [shows.plain] at found
    have whole := passed.trans (perm.filter _).symm
    rw [← documentIds_of_forall₂ chosen filled, chosen.length_eq]
    exact ⟨whole.filterMap _, whole.length_eq⟩
  | primary =>
    have alike : (fun r => decide (p.Finds r)) = d.selection.takes := by
      funext r
      simp only [SearchParams.finds_iff_takes shows.plain, shows.selection, Bool.decide_eq_true]
    have found : logs.Perm ((s.primary.selected d.selection).map (·.toFields)) := by
      have all : logs.Perm ((s.primary.records.filter fun r => p.Finds r).map (·.toFields)) :=
        accepted
      rwa [alike] at all
    have named : ∀ r : LogEntry, r.toFields.get "id" = .str r.id := fun _ => rfl
    rw [← documentIds_map named filled]
    exact ⟨found.filterMap _, by rw [found.length_eq, List.length_map]⟩

end Shown

namespace Site

variable {s : Site} {projectId : String} {level environment lookback range : Option String}
  {b : TimeSpan} {p : SearchParams}

/-- Where those are left that do not pass a test, those are gone that pass it. -/
theorem gone_of_filter {s' : Site} {test : LogEntry → Bool}
    (left : s'.primary.records = s.primary.records.filter (!test ·)) :
    s.gone s' = s.primary.records.filter test := by
  apply List.filter_congr
  intro r mem
  rw [left]
  cases passes : test r <;> simp [List.mem_filter, mem, passes]

/-- A purge with a window in a project that there is removes the records that it selects. -/
theorem purge_gone (named : s.primary.Identified) (clock : (Moment.ofMicros? s.now).isSome)
    (batches : 1 ≤ s.settings.deleteBatchSize) {project : Project}
    (known : s.primary.project projectId = .ok project)
    (bounds : requireBounds s.now lookback range = .ok b) (level environment : Option Wanted) :
    ∃ s', purge projectId level environment lookback range s = (.ok (s.gone s').length, s') ∧
      s.gone s' = s.primary.selected (Doomed.selection ⟨projectId, level, environment, b⟩) := by
  have taken : s.primary.takesOn s.deletionLimits ⟨projectId, level, environment, b⟩ = .ok () :=
    Primary.takesOn_ok known (requireBounds_hold clock bounds) batches
  have given : 0 ≤ s.deletionLimits.batchSize := Int.le_trans (by decide) batches
  have ran := deleteDoomed_of_ok (Primary.deleteDoomed_distinct given named.unique taken)
  obtain ⟨s', after⟩ : ∃ s', (deleteDoomed ⟨projectId, level, environment, b⟩ s).2 = s' := ⟨_, rfl⟩
  have left : s.gone s' = s.primary.selected (Doomed.selection ⟨projectId, level, environment, b⟩) := by
    apply gone_of_filter
    rw [← after, ran]
  refine ⟨s', ?_, left⟩
  rw [ran] at after
  dsimp only at after
  rw [purge_of_bounds bounds, left, ran, after]
  rfl

/-- A preview that is answered lists the records that the purge selects, whichever store answers. -/
theorem answers_of_answered {d : Doomed} (same : s.InStep) (named : s.primary.Identified)
    (shows : p.Previews d) (sized : 1 ≤ p.pageSize) {r : ResultPage}
    (answered : (search p s).1 = .ok r) :
    Answers (fun page => (search { p with page := page } s).1) r.source
      ((s.primary.selected d.selection).map (·.id)) := by
  obtain ⟨source, found, cut, accepted⟩ := s.search_pages sized
  have here : (search p s).1 = found.map (.cut source p.page p.pageSize) := cut p.page
  rw [answered] at here
  cases found with
  | error f => cases here
  | ok logs =>
    cases here
    obtain ⟨ids, count⟩ := documentIds_of_acceptsFrom shows same named (accepted logs rfl)
    exact .of_cut sized ids (by rw [count, List.length_map]) cut

/-- The primary store answers a preview in any order. -/
theorem answers_primary {d : Doomed} (same : s.InStep) (named : s.primary.Identified)
    (shows : p.Previews d) (checked : d.selection.check = .ok ()) (sized : 1 ≤ p.pageSize)
    {o : SortOrder} (ordered : p.order? = some o) :
    Answers (fun page => s.primary.search { p with page := page }) .primary
      ((s.primary.selected d.selection).map (·.id)) := by
  obtain ⟨rows, accepted, -, -⟩ :=
    s.primary.accepted_in_order shows.plain ordered (shows.selection ▸ checked)
  have found : s.AcceptsFrom p .primary (rows.map (·.toFields)) := Primary.accepted_perm accepted
  obtain ⟨ids, count⟩ := documentIds_of_acceptsFrom shows same named found
  apply Answers.of_cut sized ids (by rw [count, List.length_map])
  intro page
  rw [Primary.search_page, accepted]
  rfl

/-- A healthy index answers a preview, in an order for which no record has an empty text. -/
theorem exists_answer_index {d : Doomed} (same : s.InStep) (healthy : s.index.Healthy)
    {project : Project} (known : s.primary.project p.projectId = .ok project)
    (shows : p.Previews d) (first : 1 ≤ p.page) (sized : 1 ≤ p.pageSize) {o : SortOrder}
    (ordered : p.order? = some o) (given : ∀ r ∈ s.primary.records, o.field.value r ≠ .str "") :
    ∃ r, (search p s).1 = .ok r ∧ r.source = .index := by
  obtain ⟨q, asked, plan⟩ := SearchParams.query_in_order shows.plain ordered
  obtain ⟨body, written, text, clauses, sort, start, size⟩ :=
    SearchParams.exists_body_in_order asked shows.plain plan
  have lower : 0 ≤ (p.page - 1) * p.pageSize := Int.mul_nonneg (by omega) (by omega)
  obtain ⟨found, -, -, answered⟩ := SearchIndex.answersInOrder healthy same p o given body text clauses
    sort (start ▸ lower) (size ▸ sized)
  obtain ⟨r, indexed, source⟩ : ∃ r,
      (searchIndexed SearchIndex.search s.scanLimits p s.index).1 = .ok r ∧ r.source = .index := by
    rw [searchIndexed_of_none asked shows.plain written, answered]
    exact ⟨_, rfl, rfl⟩
  refine ⟨r, ?_, source⟩
  rw [search_fst known, healthy.connected, indexed]
  rfl

/-- A purge deletes what a search for the same logs shows. In a project that there is, with texts that
are accepted, at a time of the calendar and with batches of some size, it succeeds, and a record is
gone after it exactly if its identifier is on one of the pages of the search just before it: on those
of any answer that the search gets, and so on those of the primary store and of a healthy index. -/
theorem purge_deletes_shown (level environment : Option String) (reachable : s.Reachable)
    (same : s.InStep) (clock : (Moment.ofMicros? s.now).isSome)
    (batches : 1 ≤ s.settings.deleteBatchSize) {project : Project}
    (known : s.primary.project projectId = .ok project)
    (bounds : requireBounds s.now lookback range = .ok b)
    (shows : p.Previews ⟨projectId, level.map .one, environment.map .one, b⟩)
    (sized : 1 ≤ p.pageSize) :
    ∃ s', purge projectId (level.map .one) (environment.map .one) lookback range s =
        (.ok (s.gone s').length, s') ∧
      (∀ r, (search p s).1 = .ok r → Answers (fun page => (search { p with page := page } s).1)
        r.source ((s.gone s').map (·.id))) ∧
      ∀ o, p.order? = some o →
        Answers (fun page => s.primary.search { p with page := page }) .primary
          ((s.gone s').map (·.id)) ∧
        (s.index.Healthy → (∀ r ∈ s.primary.records, o.field.value r ≠ .str "") →
          Answers (fun page => (search { p with page := page } s).1) .index
            ((s.gone s').map (·.id))) := by
  have named := reachable.identified
  obtain ⟨s', ran, left⟩ :=
    purge_gone named clock batches known bounds (level.map .one) (environment.map .one)
  refine ⟨s', ran, ?_, ?_⟩
  · intro r answered
    rw [left]
    exact answers_of_answered same named shows sized answered
  · intro o ordered
    rw [left]
    constructor
    · have fits := requireBounds_hold clock bounds
      have checked : (Doomed.selection ⟨projectId, level.map .one, environment.map .one, b⟩).check =
          .ok () := by
        simp [Selection.check, Doomed.selection, fits.1, fits.2]
      exact answers_primary same named shows checked sized ordered
    · intro healthy given
      have sought : p.projectId = projectId := congrArg Selection.projectId shows.selection
      obtain ⟨r, answered, index⟩ := exists_answer_index same healthy (sought ▸ known)
        (shows.page 1) (Int.le_refl 1) sized ordered given
      rw [← index]
      exact answers_of_answered same named (shows.page 1) sized answered

/-- The stores are in step where each record has its own document. -/
theorem inStep_of_contents
    (own : s.index.contents = s.primary.records.map fun r => documentOf r.toFields) : s.InStep := by
  refine ⟨s.index.contents, .refl _, ?_⟩
  rw [own, List.forall₂_map_right_iff, List.forall₂_same]
  exact fun r _ => ⟨r, rfl, rfl⟩

/-- A search for the errors of two seconds, each on a page of its own. -/
def errorsOfSeconds : SearchParams where
  projectId := "shop"
  pageSize := 1
  level := some (.one "ERROR")
  environment := some (.one "")
  minTimestampMs := some 5000
  maxTimestampMs := some 6000

theorem purge_deletes_shown_errorsOfSeconds : ∃ s',
    purge "shop" (some (.one "ERROR")) (some (.one "")) none
      (some "1970-01-01-00:00:05 to 1970-01-01-00:00:06") (shopSite.served (shopService.take 3)) =
        (.ok 2, s') ∧
      Answers (fun page => (search { errorsOfSeconds with page := page }
        (shopSite.served (shopService.take 3))).1) .index ["log-1", "log-2"] ∧
      Answers (fun page => (shopSite.served (shopService.take 3)).primary.search
        { errorsOfSeconds with page := page }) .primary ["log-1", "log-2"] := by
  have reachable := (Reachable.empty (s := shopSite) rfl).served (shopService.take 3)
  obtain ⟨logs, held⟩ := shopService_holds
  have bounds : requireBounds (shopSite.served (shopService.take 3)).now none
      (some "1970-01-01-00:00:05 to 1970-01-01-00:00:06") = .ok ⟨some 5000, some 6000⟩ := by
    decide +kernel
  have known : (shopSite.served (shopService.take 3)).primary.project "shop" =
      .ok ⟨"o1", "shop", "Shop", .arr []⟩ := by decide +kernel
  have shows : errorsOfSeconds.Previews
      ⟨"shop", some (.one "ERROR"), some (.one ""), ⟨some 5000, some 6000⟩⟩ :=
    ⟨⟨some "ERROR", rfl⟩, ⟨some "", rfl⟩, rfl, rfl⟩
  obtain ⟨s', ran, -, shown⟩ := purge_deletes_shown (some "ERROR") (some "") reachable
    (inStep_of_contents (by decide +kernel)) (by decide +kernel) (by decide +kernel) known bounds
    shows (by decide)
  obtain ⟨stored, indexed⟩ := shown ⟨.timestamp, true⟩ (by decide)
  have gone : ((shopSite.served (shopService.take 3)).gone s').map (·.id) = ["log-1", "log-2"] := by
    have left : s' = (purge "shop" (some (.one "ERROR")) (some (.one "")) none
        (some "1970-01-01-00:00:05 to 1970-01-01-00:00:06")
        (shopSite.served (shopService.take 3))).2 := (congrArg Prod.snd ran).symm
    rw [left]
    decide +kernel
  rw [gone] at stored indexed
  have deleted : ((shopSite.served (shopService.take 3)).gone s').length = 2 := by
    rw [← List.length_map, gone]
    rfl
  rw [deleted] at ran
  exact ⟨s', ran, indexed held.index.1 (fun _ _ => by rintro ⟨⟩), stored⟩

/-- With batches of a size below zero a purge deletes nothing of what a search shows. -/
theorem purge_keeps_shown :
    ∃ s : Site, s = (sizedShop (-1) 250).served
        [.change (.ingest 1711886400000000 (shopPayload "Gateway timeout" 5000))] ∧
      s.Reachable ∧ s.InStep ∧ (Moment.ofMicros? s.now).isSome ∧
      requireBounds s.now none none = .ok {} ∧
      ((search { projectId := "shop" } s).1.map fun r => (documentIds r.logs, r.source)) =
        .ok (["log-1"], .index) ∧
      (purge "shop" none none none none s).1 = .ok 0 ∧
      s.gone (purge "shop" none none none none s).2 = [] := by
  have reachable := (Reachable.empty (s := sizedShop (-1) 250) rfl).served
    [.change (.ingest 1711886400000000 (shopPayload "Gateway timeout" 5000))]
  exact ⟨_, rfl, reachable, inStep_of_contents (by decide +kernel), by decide +kernel,
    by decide +kernel, by decide +kernel, by decide +kernel, by decide +kernel⟩

end Site

end Logbook
