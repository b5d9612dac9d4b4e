import Logbook.Proofs.Log.Intake
import Logbook.Proofs.Site.Ingestion
import Logbook.Proofs.Store.Mirror
import Logbook.Site.Http

/-!
# Two stores in step

The primary store and a healthy index hold the same logs: the one as records, the other as
documents under the identifiers of the records (`Site.Holds`). A payload that is accepted adds its
record to both, a deletion that succeeds takes the logs it selects from both, and nothing else
changes either.
-/

namespace Logbook

/-- The fields of a payload that may be left out are texts where they are given. -/
def PlainPayload (payload : Json) : Prop :=
  ∀ fs, payload = .obj fs → (Fields.get fs "hostname").isPlain ∧
    (Fields.get fs "rawStackTrace").isPlain ∧ (Fields.get fs "detailString").isPlain

/-- A plain payload has a plain record. -/
theorem Draft.plain_of_record {payload : Json} (plain : PlainPayload payload) {d : Draft}
    (drafted : Draft.ofPayload payload = .ok d) {id createdAt : String} {r : LogEntry}
    (recorded : d.record id createdAt = .ok r) : r.Plain := by
  obtain ⟨hostname, trace, detail⟩ := plain d.payload (payload_of_ofPayload drafted)
  unfold Draft.record at recorded
  cases time : readTimestamp (d.payload.get "timestampMS") with
  | error f =>
    rw [time] at recorded
    cases recorded
  | ok t =>
    rw [time] at recorded
    cases recorded
    refine ⟨hostname, trace, ?_⟩
    unfold Json.orElse
    split
    · exact detail
    · rfl

namespace Site

/-- The primary store and a healthy index hold these logs, in this order, and no other ones. -/
structure Holds (s : Site) (logs : List LogEntry) : Prop where
  records : s.primary.records = logs.map LogEntry.kept
  index : SearchIndex.Holding (logs.map fun r => (r.id, documentOf r.toFields)) s.index
  distinct : (logs.map (·.id)).Nodup
  drawn : ∀ r ∈ logs, ∃ n ≤ s.drawn, r.id = "log-" ++ toString n

/-- The record of a plain payload is plain. -/
theorem Accepts.plain {s : Site} {payload : Json} {r : LogEntry} {db : Primary}
    (a : s.Accepts payload r db) (plain : PlainPayload payload) : r.Plain := by
  obtain ⟨d, r₀, project, drafted, recorded, -, rfl⟩ := a.recorded
  obtain ⟨hostname, trace, detail⟩ := Draft.plain_of_record plain drafted recorded
  exact ⟨hostname, trace, detail⟩

/-- A deletion that fails in the primary store leaves the index alone. -/
theorem deleteDoomed_of_error {s : Site} {d : Doomed} {f : Fault}
    (failed : Primary.deleteDoomed s.deletionLimits d s.primary = (.error f, s.primary)) :
    deleteDoomed d s = (.error f, s) := by
  simp [deleteDoomed, Act.bind_apply, onPrimary, failed]

/-- A deletion in the primary store is followed by one in the index. -/
theorem deleteDoomed_of_ok {s : Site} {d : Doomed} {n : Nat} {db : Primary}
    (left : Primary.deleteDoomed s.deletionLimits d s.primary = (.ok n, db)) :
    deleteDoomed d s = (.ok n, { s with
      primary := db
      index := (s.index.eraseFound d.query s.settings.collectPageSize).2 }) := by
  simp [deleteDoomed, Act.bind_apply, onPrimary, left, eraseFound, onIndex, Except.map]

namespace Holds

variable {s : Site} {logs : List LogEntry}

/-- The identifier that is drawn next is that of no log. -/
theorem nextId_notMem (h : s.Holds logs) : s.nextId ∉ logs.map (·.id) := by
  intro mem
  obtain ⟨r, inside, same⟩ := List.mem_map.1 mem
  obtain ⟨n, below, id⟩ := h.drawn r inside
  have equal := drawnId_inj (id.symm.trans same)
  omega

/-- No identifier is empty. -/
theorem id_ne_empty (h : s.Holds logs) {r : LogEntry} (mem : r ∈ logs) : r.id ≠ "" := by
  obtain ⟨n, -, id⟩ := h.drawn r mem
  rw [id]
  exact drawnId_ne_empty n

/-- The keys of the index are the identifiers of the records. -/
theorem ids_records (h : s.Holds logs) : s.primary.records.map (·.id) = logs.map (·.id) := by
  rw [h.records, List.map_map]
  rfl

theorem keys_documents (h : s.Holds logs) :
    Keyed.keys s.index.documents = logs.map (·.id) := by
  rw [h.index.2]
  exact keys_mirrored logs

/-- A plain record under the identifier drawn next joins the logs in both stores. -/
theorem withRecord (h : s.Holds logs) {r : LogEntry} {db : Primary} (plain : r.Plain)
    (named : r.id = s.nextId) (stored : s.primary.insert r = .ok db) :
    (s.withRecord r db).Holds (logs ++ [r]) := by
  have fresh : r.id ∉ logs.map (·.id) := named ▸ h.nextId_notMem
  obtain ⟨row, kept, -, -, rfl⟩ := Primary.insert_eq_ok stored
  rw [LogEntry.inColumns_of_plain plain] at kept
  split at kept
  · cases kept
    refine ⟨?_, ?_, ?_, ?_⟩
    · simp only [Site.withRecord, h.records, List.map_append, List.map_cons, List.map_nil]
    · have put := SearchIndex.put_healthy h.index.1 (show r.toFields.get "id" = .str r.id from rfl)
      rw [Keyed.put_of_notMem (h.keys_documents ▸ fresh), h.index.2] at put
      simp only [Site.withRecord, withDocument, if_pos h.index.1.connected, List.map_append,
        List.map_cons, List.map_nil]
      exact put
    · rw [List.map_append, List.nodup_append]
      refine ⟨h.distinct, by simp, ?_⟩
      intro a mem b last same
      rw [List.map_singleton, List.mem_singleton] at last
      exact fresh (last ▸ same ▸ mem)
    · intro x mem
      rcases List.mem_append.1 mem with old | new
      · obtain ⟨n, below, id⟩ := h.drawn x old
        exact ⟨n, Nat.le_succ_of_le below, id⟩
      · rw [List.mem_singleton.1 new]
        exact ⟨s.drawn + 1, Nat.le_refl _, named⟩
  · cases kept

/-- A plain payload is rejected, and the logs stay; or its record is added to them. -/
theorem ingest (h : s.Holds logs) {payload : Json} (plain : PlainPayload payload) :
    (∃ f s', Site.ingest payload s = (.error f, s') ∧ s'.Holds logs ∧
        s'.settings = s.settings) ∨
      ∃ r s', Site.ingest payload s = (.ok r, s') ∧ s'.Holds (logs ++ [r]) ∧
        s'.settings = s.settings := by
  rcases ingest_cases payload s with ⟨f, drawn, more, ran⟩ | ⟨r, db, accepted, ran⟩
  · refine .inl ⟨f, _, ran, ⟨h.records, h.index, h.distinct, ?_⟩, rfl⟩
    intro r mem
    obtain ⟨n, below, id⟩ := h.drawn r mem
    exact ⟨n, Nat.le_trans below more, id⟩
  · have joined := h.withRecord (accepted.plain plain) accepted.id accepted.stored
    obtain ⟨desk, frame⟩ := raiseAlarms_frame r.toFields r.id (s.withRecord r db)
    rw [frame] at ran
    exact .inr ⟨r, _, ran, ⟨joined.records, joined.index, joined.distinct, joined.drawn⟩, rfl⟩

/-- The index mirrors the logs. -/
theorem mirrors (h : s.Holds logs) : s.index.Mirrors logs :=
  ⟨h.index.2, h.distinct, fun _ mem => h.id_ne_empty mem⟩

/-- A deletion fails, and nothing changes; or the logs stay that it does not select. -/
theorem deleteDoomed (h : s.Holds logs) (batches : 0 ≤ s.settings.deleteBatchSize)
    (pages : 0 ≤ s.settings.collectPageSize) (d : Doomed) :
    (∃ f, Site.deleteDoomed d s = (.error f, s)) ∨
      ∃ n s', Site.deleteDoomed d s = (.ok n, s') ∧
        s'.Holds (logs.filter (!d.selection.takes ·)) ∧ s'.settings = s.settings := by
  have unique : (s.primary.records.map (·.id)).Nodup := h.ids_records ▸ h.distinct
  rcases Primary.deleteDoomed_records (show 0 ≤ s.deletionLimits.batchSize from batches) d unique
    with ⟨f, failed⟩ | ⟨n, left⟩
  · exact .inl ⟨f, deleteDoomed_of_error failed⟩
  · obtain ⟨healthy, rest⟩ := h.mirrors.eraseFound_healthy h.index.1 d pages
    simp only [decide_not, d.decide_names] at rest
    refine .inr ⟨n, _, deleteDoomed_of_ok left, ⟨?_, ⟨healthy, rest.documents⟩, rest.distinct, ?_⟩,
      rfl⟩
    · simp only [h.records, List.filter_map]
      rfl
    · intro r mem
      exact h.drawn r (List.mem_of_mem_filter mem)

end Holds

end Site

end Logbook
