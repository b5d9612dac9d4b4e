import Logbook.Proofs.Query.Agreement
import Logbook.Proofs.Query.Matching
import Logbook.Proofs.Query.Order
import Logbook.Proofs.Site.Stores

/-!
# Both ways to answer a search

A search with a text filter is answered by the index from the documents that pass its clauses,
scanned and verified, and by the primary store from the records that it selects, verified. Where
the stores are in step the pages of both list the same identifiers, though in different orders
(`Site.Holds.answers_index`, `Site.Holds.answers_primary`).
-/

namespace Logbook

/-- The pages of an answer list these identifiers: every page is answered, from this source and
with this total, and an identifier is listed on a page exactly if it is one of them. -/
structure Answers (answer : Int → Except Fault ResultPage) (source : Source)
    (ids : List String) : Prop where
  answered : ∀ page, 1 ≤ page →
    ∃ r, answer page = .ok r ∧ r.total = ids.length ∧ r.source = source
  listed : ∀ id, id ∈ ids ↔
    ∃ page r, 1 ≤ page ∧ answer page = .ok r ∧ id ∈ documentIds r.logs

/-- Pages that are windows of some logs list the identifiers that these carry. -/
theorem Answers.of_pages {answer : Int → Except Fault ResultPage} {source : Source} {size : Int}
    (pos : 1 ≤ size) {logs : List Fields} {ids : List String} (same : (documentIds logs).Perm ids)
    (count : logs.length = ids.length)
    (each : ∀ page, 1 ≤ page → ∃ r, answer page = .ok r ∧ r.logs = pageOf logs page size ∧
      r.total = logs.length ∧ r.source = source) : Answers answer source ids := by
  constructor
  · intro page first
    obtain ⟨r, answered, -, total, origin⟩ := each page first
    refine ⟨r, answered, ?_, origin⟩
    rw [total, count]
  · intro id
    rw [← same.mem_iff]
    simp only [documentIds, List.mem_filterMap]
    constructor
    · rintro ⟨doc, found, carries⟩
      obtain ⟨page, first, shown⟩ := (mem_iff_mem_page pos).1 found
      obtain ⟨r, answered, logs, -, -⟩ := each page first
      exact ⟨page, r, first, answered, doc, logs ▸ shown, carries⟩
    · rintro ⟨page, r, first, answered, doc, shown, carries⟩
      obtain ⟨r', answered', logs, -, -⟩ := each page first
      rw [answered] at answered'
      cases answered'
      exact ⟨doc, (mem_iff_mem_page pos).2 ⟨page, first, logs ▸ shown⟩, carries⟩

/-- Pages that are windows of what is found of some logs list the identifiers of those logs. -/
theorem Answers.of_windows {answer : Int → Except Fault ResultPage} {source : Source}
    {size : Int} (pos : 1 ≤ size) (fields : LogEntry → Fields)
    (named : ∀ r, (fields r).get "id" = .str r.id) {logs : List LogEntry}
    (filled : ∀ r ∈ logs, r.id ≠ "") {ids : List String} (same : (logs.map (·.id)).Perm ids)
    (each : ∀ page, 1 ≤ page → ∃ r, answer page = .ok r ∧
      r.logs = pageOf (logs.map fields) page size ∧ r.total = logs.length ∧ r.source = source) :
    Answers answer source ids := by
  have count : (logs.map fields).length = ids.length := by
    rw [← same.length_eq, List.length_map, List.length_map]
  refine .of_pages pos ?_ count ?_
  · rwa [documentIds_map named filled]
  · simpa only [List.length_map] using each

namespace SearchParams

/-- A search with a text filter becomes a query that is not sorted. -/
theorem exists_query {p : SearchParams} {t : SurfaceFilter} (filter : p.textFilter? = some t) :
    ∃ q, p.query = .ok q ∧ q.clauses = p.clauses ∧ q.textFilter = some t ∧
      q.perPage = p.pageSize ∧ q.sortPlan = .ok none := by
  have written : ∃ q, p.query = .ok q := by
    unfold query
    rw [filter]
    exact ⟨_, rfl⟩
  obtain ⟨q, asked⟩ := written
  obtain ⟨clauses, kept, size, -⟩ := query_parts asked
  rw [filter] at kept
  exact ⟨q, asked, clauses, kept, size, by simp [IndexQuery.sortPlan, kept]⟩

end SearchParams

/-- An answer of the index is the answer to a search in a project that there is. -/
theorem Site.search_of_indexed {s : Site} {p : SearchParams} {project : Project}
    (known : s.primary.project p.projectId = .ok project) (connected : s.index.isOpen = true)
    {answer : ResultPage} {ix : SearchIndex}
    (answered : searchIndexed SearchIndex.search s.scanLimits p s.index = (.ok answer, ix)) :
    (search p s).1 = .ok answer := by
  simp [search, Act.bind_apply, onIndex, searchProject, known, searchEither, connected, answered]

/-- The primary store answers a search with a page of the selected records that it verifies. -/
theorem Primary.search_of_textFilter {db : Primary} {p : SearchParams} {t : SurfaceFilter}
    (filter : p.textFilter? = some t) {taken : List LogEntry}
    (selected : db.find p.selection = .ok taken) :
    db.search p = .ok {
      logs := pageOf ((taken.filter t.holds).map (·.toFields)) p.page p.pageSize
      total := (taken.filter t.holds).length
      page := p.page
      pageSize := p.pageSize
      source := .primary } := by
  unfold search accepted
  rw [filter, selected]
  simp only [bind, Except.bind, t.verify_toFields, List.length_map]
  rfl

namespace Site.Holds

variable {s : Site} {logs : List LogEntry} {p : SearchParams} {t : SurfaceFilter}

/-- The documents that pass the clauses of a search. -/
theorem passing_clauses (h : s.Holds logs) (p : SearchParams) :
    SearchIndex.passing p.clauses s.index.contents =
      .ok ((logs.filter p.indexTakes).map fun r => documentOf r.toFields) := by
  rw [SearchIndex.contents, h.mirrors.contents]
  exact SearchIndex.passing_map _ _ p.acceptsAll_clauses logs

/-- The answer of the index: a page of the documents that pass and are verified. -/
theorem searchIndexed (h : s.Holds logs) (filter : p.textFilter? = some t)
    (sized : 1 ≤ p.pageSize) {limits : ScanLimits} (given : 0 ≤ limits.pageSize)
    (few : ((logs.filter p.indexTakes).length : Int) ≤ limits.maxHits) :
    ∃ ix, searchIndexed SearchIndex.search limits p s.index = (.ok {
      logs := pageOf (((logs.filter p.indexTakes).filter t.holds).map fun r =>
        documentOf r.toFields) p.page p.pageSize
      total := ((logs.filter p.indexTakes).filter t.holds).length
      page := p.page
      pageSize := p.pageSize }, ix) := by
  obtain ⟨q, asked, clauses, kept, size, unsorted⟩ := p.exists_query filter
  have serves := h.mirrors.serves unsorted (clauses ▸ p.acceptsAll_clauses)
  obtain ⟨ix, scanned, -⟩ := candidates_serves serves given (size ▸ sized) ⟨h.index.1, rfl⟩
  rw [List.take_of_length_le (by rw [List.length_map]; omega)] at scanned
  refine ⟨ix, ?_⟩
  unfold Logbook.searchIndexed
  rw [asked, Act.bind_of_ok (Act.ofExcept_ok q s.index), kept]
  dsimp only
  rw [Act.bind_of_ok scanned, t.verify_documents, Act.bind_of_ok (Act.ofExcept_ok _ ix)]
  simp only [Act.pure_apply, List.length_map]

/-- The pages of the index list the logs that a search selects and its filter accepts. -/
theorem answers_index (h : s.Holds logs) (filter : p.textFilter? = some t) (filled : p.Filled)
    (sized : 1 ≤ p.pageSize) (given : 0 ≤ s.settings.searchScanPageSize)
    (few : ∀ passed, SearchIndex.passing p.clauses s.index.contents = .ok passed →
      (passed.length : Int) ≤ s.settings.searchScanMaxHits)
    {project : Project} (known : s.primary.project p.projectId = .ok project) :
    Answers (fun page => (search { p with page := page } s).1) .index
      (((logs.filter p.selection.takes).filter t.holds).map (·.id)) := by
  have alike : logs.filter p.selection.takes = logs.filter p.indexTakes :=
    List.filter_congr fun r _ => SearchParams.takes_eq_indexTakes filled r
  rw [alike]
  have bounded := few _ (h.passing_clauses p)
  rw [List.length_map] at bounded
  refine .of_windows sized (fun r => documentOf r.toFields) (fun _ => rfl) (fun r mem => ?_)
    (List.Perm.refl _) ?_
  · exact h.id_ne_empty (List.mem_of_mem_filter (List.mem_of_mem_filter mem))
  · intro page _
    obtain ⟨ix, answered⟩ := h.searchIndexed (p := { p with page := page }) filter sized
      (show 0 ≤ s.scanLimits.pageSize from given) bounded
    exact ⟨_, search_of_indexed (p := { p with page := page }) known h.index.1.connected answered,
      rfl, rfl, rfl⟩

/-- The pages of the primary store list the same logs. -/
theorem answers_primary (h : s.Holds logs) (filter : p.textFilter? = some t)
    (bounded : p.selection.check = .ok ()) (sized : 1 ≤ p.pageSize) :
    Answers (fun page => s.primary.search { p with page := page }) .primary
      (((logs.filter p.selection.takes).filter t.holds).map (·.id)) := by
  obtain ⟨taken, selected⟩ : ∃ taken, s.primary.find p.selection = .ok taken := by
    rw [Primary.find, bounded]
    exact ⟨_, rfl⟩
  have whole : taken.Perm ((logs.filter p.selection.takes).map LogEntry.kept) := by
    have records := Primary.find_perm selected
    rw [Primary.selected, h.records, List.filter_map] at records
    exact records
  -- the form of a request in its column has no part in the verdict
  have found : (taken.filter t.holds).Perm
      (((logs.filter p.selection.takes).filter t.holds).map LogEntry.kept) := by
    have verdict : t.holds ∘ LogEntry.kept = t.holds := funext t.holds_kept
    have kept := whole.filter t.holds
    rw [List.filter_map, verdict] at kept
    exact kept
  have ids := found.map (·.id)
  rw [List.map_map] at ids
  refine .of_windows sized (·.toFields) (fun _ => rfl) (fun r mem => ?_) ids ?_
  · obtain ⟨r', inside, rfl⟩ := List.mem_map.1 (found.mem_iff.1 mem)
    have stored : r' ∈ logs := List.mem_of_mem_filter (List.mem_of_mem_filter inside)
    exact show r'.id ≠ "" from h.id_ne_empty stored
  · intro page _
    exact ⟨_, Primary.search_of_textFilter (p := { p with page := page }) filter selected,
      rfl, rfl, rfl⟩

end Site.Holds

end Logbook
