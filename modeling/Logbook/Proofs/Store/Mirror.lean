import Logbook.Proofs.Query.Matching
import Logbook.Proofs.Store.Outages
import Logbook.Proofs.Store.Primary

/-!
# An index that mirrors logs

The documents of some logs, each under the identifier of its log (`SearchIndex.Mirrors`). Of such an
index a deletion knows which documents it is after: those of the logs that it names. A healthy index
loses just these (`SearchIndex.Mirrors.eraseFound_healthy`), and an index in any other state none
but some of these (`SearchIndex.Mirrors.eraseFound`).
-/

namespace Logbook

/-- The identifiers of what is listed of some logs are those of the logs. -/
theorem documentIds_map {fields : LogEntry → Fields}
    (named : ∀ r, (fields r).get "id" = .str r.id) {logs : List LogEntry}
    (filled : ∀ r ∈ logs, r.id ≠ "") : documentIds (logs.map fields) = logs.map (·.id) := by
  refine documentIds_eq ?_
  rw [List.forall₂_map_left_iff, List.forall₂_map_right_iff, List.forall₂_same]
  exact fun r mem => ⟨named r, filled r mem⟩

/-- The document of a log under the identifier of the log. -/
def LogEntry.mirrored (r : LogEntry) : String × Fields :=
  (r.id, documentOf r.toFields)

/-- The keys of mirrored logs are their identifiers. -/
theorem keys_mirrored (logs : List LogEntry) :
    Keyed.keys (logs.map LogEntry.mirrored) = logs.map (·.id) := by
  rw [Keyed.keys, List.map_map]
  rfl

/-- Among mirrored logs, those under none of some keys. -/
theorem filter_mirrored (logs : List LogEntry) (ids : List String) :
    (logs.map LogEntry.mirrored).filter (fun d => d.1 ∉ ids) =
      (logs.filter fun r => r.id ∉ ids).map LogEntry.mirrored := by
  rw [List.filter_map]
  rfl

/-- The document of a log passes the clauses of a deletion if the deletion names the log. -/
theorem Doomed.acceptsAll_mirrored (d : Doomed) (r : LogEntry) :
    Clause.acceptsAll (documentOf r.toFields) d.query.clauses = .ok (decide (d.Names r)) := by
  rw [d.acceptsAll_clauses, d.decide_names]

/-- A deletion names logs alike that have the same document. -/
theorem Doomed.names_congr {d : Doomed} {x r : LogEntry}
    (same : documentOf x.toFields = documentOf r.toFields) : d.Names x ↔ d.Names r := by
  have verdict := d.acceptsAll_mirrored x
  rw [same, d.acceptsAll_mirrored r] at verdict
  exact decide_eq_decide.1 (Except.ok.inj verdict).symm

/-- A document that is put among those of some logs stands among those of these and its own. -/
theorem exists_put_mirrored (r : LogEntry) (logs : List LogEntry) : ∃ logs',
    Keyed.put r.id (documentOf r.toFields) (logs.map LogEntry.mirrored) =
      logs'.map LogEntry.mirrored ∧ logs' ⊆ r :: logs := by
  induction logs with
  | nil => exact ⟨[r], rfl, List.Subset.refl _⟩
  | cons x rest ih =>
    obtain ⟨rest', put, among⟩ := ih
    by_cases same : r.id = x.id
    · refine ⟨r :: rest, ?_, ?_⟩
      · simp [Keyed.put, LogEntry.mirrored, same]
      · exact List.cons_subset_cons r (List.subset_cons_self x rest)
    · refine ⟨x :: rest', ?_, ?_⟩
      · simp [Keyed.put, LogEntry.mirrored, same, ← put]
      · intro y mem
        rcases List.mem_cons.1 mem with rfl | later
        · simp
        · rcases List.mem_cons.1 (among later) with rfl | old
          · simp
          · simp [old]

namespace SearchIndex

/-- The index has the document of a log, under the identifier of the log. -/
def HasDocument (ix : SearchIndex) (r : LogEntry) : Prop :=
  ix.documents.lookup r.id = some (documentOf r.toFields)

/-- The index holds the documents of these logs and no others, each under the identifier of its log.
As keys these differ, and none is empty. -/
structure Mirrors (ix : SearchIndex) (logs : List LogEntry) : Prop where
  documents : ix.documents = logs.map LogEntry.mirrored
  distinct : (logs.map (·.id)).Nodup
  filled : ∀ r ∈ logs, r.id ≠ ""

namespace Mirrors

variable {ix : SearchIndex} {logs : List LogEntry}

/-- Some of the logs are mirrored where just their documents are left. -/
theorem filter (h : ix.Mirrors logs) {ix' : SearchIndex} {test : LogEntry → Bool}
    (left : ix'.documents = (logs.filter test).map LogEntry.mirrored) :
    ix'.Mirrors (logs.filter test) where
  documents := left
  distinct := h.distinct.sublist (List.Sublist.map _ List.filter_sublist)
  filled := fun r mem => h.filled r (List.mem_of_mem_filter mem)

theorem contents (h : ix.Mirrors logs) :
    ix.documents.map (·.2) = logs.map fun r => documentOf r.toFields := by
  rw [h.documents, List.map_map]
  rfl

/-- What a healthy index serves for a query whose clauses have a verdict on each log. -/
theorem serves (h : ix.Mirrors logs) {q : IndexQuery} (unsorted : q.sortPlan = .ok none)
    {test : LogEntry → Bool}
    (verdict : ∀ r, Clause.acceptsAll (documentOf r.toFields) q.clauses = .ok (test r)) :
    Serves search q ((logs.filter test).map fun r => documentOf r.toFields)
      (Holding ix.documents) :=
  serves_healthy unsorted _ test verdict logs h.contents

/-- The documents that such an index has are those of the logs. -/
theorem hasDocument_iff (h : ix.Mirrors logs) {r : LogEntry} : ix.HasDocument r ↔
    ∃ x ∈ logs, x.id = r.id ∧ documentOf x.toFields = documentOf r.toFields := by
  have distinct : (Keyed.keys ix.documents).Nodup := by
    rw [h.documents, keys_mirrored]
    exact h.distinct
  rw [HasDocument, Keyed.lookup_eq_some_iff distinct, h.documents, List.mem_map]
  simp [LogEntry.mirrored]

/-- A healthy index takes the document of a log, and mirrors some logs again. -/
theorem put (h : ix.Mirrors logs) (healthy : ix.Healthy) {r : LogEntry} (filled : r.id ≠ "") :
    (SearchIndex.put r.toFields ix).2.Healthy ∧
      (∃ logs', (SearchIndex.put r.toFields ix).2.Mirrors logs') ∧
      (SearchIndex.put r.toFields ix).2.HasDocument r ∧
      ∀ x, x.id ≠ r.id → ix.HasDocument x → (SearchIndex.put r.toFields ix).2.HasDocument x := by
  obtain ⟨again, left⟩ := put_healthy healthy (show r.toFields.get "id" = .str r.id from rfl)
  refine ⟨again, ?_, ?_, ?_⟩
  · obtain ⟨logs', put, among⟩ := exists_put_mirrored r logs
    refine ⟨logs', by rw [left, h.documents, put], ?_, ?_⟩
    · rw [← keys_mirrored, ← put, Keyed.keys_put, keys_mirrored]
      split
      · exact h.distinct
      · next fresh =>
        rw [← List.concat_eq_append]
        exact h.distinct.concat fresh
    · intro x mem
      rcases List.mem_cons.1 (among mem) with rfl | old
      · exact filled
      · exact h.filled x old
  · rw [HasDocument, left, Keyed.lookup_put, if_pos rfl]
  · intro x other has
    rw [HasDocument, left, Keyed.lookup_put, if_neg other]
    exact has

/-- The identifiers that a deletion is after. -/
theorem documentIds_named (h : ix.Mirrors logs) (d : Doomed) :
    documentIds ((logs.filter (d.Names ·)).map fun r => documentOf r.toFields) =
      (logs.filter (d.Names ·)).map (·.id) :=
  documentIds_map (fun _ => rfl) fun r mem => h.filled r (List.mem_of_mem_filter mem)

/-- A deletion from an index in any state leaves the documents of all logs that it does not name. -/
theorem eraseFound (h : ix.Mirrors logs) (d : Doomed) (pageSize : Int) :
    ∃ left, (ix.eraseFound d.query pageSize).2.Mirrors left ∧
      left.filter (¬d.Names ·) = logs.filter (¬d.Names ·) := by
  have passed := passing_map _ _ d.acceptsAll_mirrored logs
  rw [← h.contents] at passed
  obtain ⟨gone, among, left⟩ := eraseFound_cases (show d.query.sortPlan = .ok none from rfl)
    pageSize passed
  rw [h.documentIds_named d] at among
  rw [h.documents, filter_mirrored] at left
  have rest := filter_subset_keys h.distinct _ among
  simp only [← decide_not] at rest
  exact ⟨_, h.filter left, rest⟩

/-- A deletion from a healthy index leaves just the documents of the logs that it does not name. -/
theorem eraseFound_healthy (h : ix.Mirrors logs) (healthy : ix.Healthy) (d : Doomed)
    {pageSize : Int} (given : 0 ≤ pageSize) :
    (ix.eraseFound d.query pageSize).2.Healthy ∧
      (ix.eraseFound d.query pageSize).2.Mirrors (logs.filter (¬d.Names ·)) := by
  have serves := h.serves (show d.query.sortPlan = .ok none from rfl) d.acceptsAll_mirrored
  have few : ((logs.filter (d.Names ·)).map fun r => documentOf r.toFields).length ≤
      ix.documents.length := by
    rw [h.documents, List.length_map, List.length_map]
    exact List.length_filter_le _ _
  obtain ⟨steady, left⟩ := SearchIndex.eraseFound_healthy healthy serves given
    (show (1 : Int) ≤ 50 by decide) few
  rw [h.documentIds_named d, h.documents, filter_mirrored, filter_keys h.distinct] at left
  simp only [← decide_not] at left
  exact ⟨steady, h.filter left⟩

/-- After a deletion from a healthy index a document is there if it was and the deletion does not
name its log. -/
theorem hasDocument_eraseFound (h : ix.Mirrors logs) (healthy : ix.Healthy) (d : Doomed)
    {pageSize : Int} (given : 0 ≤ pageSize) (r : LogEntry) :
    (ix.eraseFound d.query pageSize).2.HasDocument r ↔ ix.HasDocument r ∧ ¬d.Names r := by
  rw [(h.eraseFound_healthy healthy d given).2.hasDocument_iff, h.hasDocument_iff]
  constructor
  · rintro ⟨x, mem, id, same⟩
    obtain ⟨inside, unnamed⟩ := List.mem_filter.1 mem
    refine ⟨⟨x, inside, id, same⟩, fun named => ?_⟩
    exact of_decide_eq_true unnamed ((d.names_congr same).2 named)
  · rintro ⟨⟨x, inside, id, same⟩, unnamed⟩
    refine ⟨x, List.mem_filter.2 ⟨inside, decide_eq_true ?_⟩, id, same⟩
    exact fun named => unnamed ((d.names_congr same).1 named)

end Mirrors

end SearchIndex

end Logbook
