import Logbook.Proofs.Site.History

/-!
# An index that mirrors the records

Whatever calls a site serves, its index holds one document for each record of the primary store and
no other, under the identifier of the record (`Site.served_mirrored`). The document was made of the
log as it was sent, and the record is read back from its columns. They agree but for a request that
is a number alone: a column of JSON does not keep every number as it is.
-/

namespace Logbook

/-- Does a column of JSON keep a value as it is, whatever its value? Of the numbers it does so with
the integers of a word. -/
def Json.isSteady : Json → Bool
  | .int n => Word.holds n
  | .float x => !x.isFinite
  | _ => true

theorem Column.json_of_isSteady {v : Json} (steady : v.isSteady) : Column.json v = v := by
  cases v with
  | int n => exact if_pos steady
  | float x =>
    cases x with
    | finite negative m e => cases steady
    | infinite negative => rfl
    | nan => rfl
  | _ => rfl

/-- A document mirrors a record as it is read back: it is under the identifier of the record, and it
is the document of the record with the request that was sent. -/
structure LogEntry.MirroredBy (row : LogEntry) (d : String × Fields) : Prop where
  key : d.1 = row.id
  document : ∃ request, row.request = Column.json request ∧
    d.2 = documentOf { row with request := request }.toFields ∧
    (request.isSteady → d.2 = documentOf row.toFields)

theorem LogEntry.mirroredBy_kept (r : LogEntry) : r.kept.MirroredBy (r.id, documentOf r.toFields) where
  key := rfl
  document := by
    refine ⟨r.request, rfl, rfl, fun steady => ?_⟩
    have same : r.kept = r := by rw [kept, Column.json_of_isSteady steady]
    rw [same]

/-- A call of the service: one that stores or deletes, a search, or the raising of the alarms for a
log under an identifier, at a time in microseconds. -/
inductive ServiceCall where
  | change (c : StoreCall)
  | search (p : SearchParams)
  | alarm (now : Int) (log : Fields) (logId : String)

namespace Site

/-- The site after a call of the service. -/
def serve (s : Site) : ServiceCall → Site
  | .change c => s.next c
  | .search p => (search p s).2
  | .alarm now log logId => (raiseAlarms log logId { s with now := now }).2

/-- The site after calls of the service. -/
def served (s : Site) (calls : List ServiceCall) : Site :=
  calls.foldl serve s

/-- The index holds one document for each record and no other, which mirrors it. -/
structure Mirrored (s : Site) : Prop where
  distinct : (s.primary.records.map (·.id)).Nodup
  documents : List.Forall₂ LogEntry.MirroredBy s.primary.records s.index.documents

/-- A search leaves nothing but records of calls in the index. -/
theorem search_frame (p : SearchParams) (s : Site) :
    ∃ ix, s.index.Asked ix ∧ (search p s).2 = { s with index := ix } := by
  have asked : s.index.Asked (searchProject s.primary s.scanLimits p s.index).2 := by
    have start : s.index.Asked s.index := ⟨_, _, rfl⟩
    unfold searchProject
    rw [Act.bind_apply]
    cases s.primary.project p.projectId with
    | error f => exact start
    | ok project =>
      have answered := searchIndexed_keeps SearchIndex.search_keeps s.scanLimits p s.index start
      simp only [Act.ofExcept_ok, searchEither]
      split
      · rcases ran : searchIndexed SearchIndex.search s.scanLimits p s.index with ⟨f | page, ix⟩ <;>
          simpa only [ran] using answered
      · exact start
  exact ⟨_, asked, rfl⟩

namespace Holds

variable {s : Site} {logs : List LogEntry}

/-- A search and the raising of alarms keep the stores in step, with the same logs. -/
theorem search (h : s.Holds logs) (p : SearchParams) : (Site.search p s).2.Holds logs := by
  obtain ⟨ix, ⟨calls, received, rfl⟩, left⟩ := search_frame p s
  rw [left]
  exact ⟨h.records, ⟨⟨h.index.1.connected, h.index.1.steady⟩, h.index.2⟩, h.distinct, h.drawn⟩

theorem raiseAlarms (h : s.Holds logs) (log : Fields) (logId : String) :
    (Site.raiseAlarms log logId s).2.Holds logs := by
  obtain ⟨desk, left⟩ := raiseAlarms_frame log logId s
  rw [left]
  exact ⟨h.records, h.index, h.distinct, h.drawn⟩

/-- Every call of the service keeps the stores in step. -/
theorem serve (h : s.Holds logs) (batches : 0 ≤ s.settings.deleteBatchSize)
    (pages : 0 ≤ s.settings.collectPageSize) {c : ServiceCall}
    (plain : ∀ now payload, c = .change (.ingest now payload) → PlainPayload payload) :
    (∃ logs', (s.serve c).Holds logs') ∧ (s.serve c).settings = s.settings := by
  cases c with
  | change c =>
    obtain ⟨logs', held, same, -⟩ := h.next batches pages (c := c) fun now payload e =>
      plain now payload (by rw [e])
    exact ⟨⟨logs', held⟩, same⟩
  | search p =>
    obtain ⟨ix, -, left⟩ := search_frame p s
    exact ⟨⟨logs, h.search p⟩, by rw [Site.serve, left]⟩
  | alarm now log logId =>
    obtain ⟨desk, left⟩ := raiseAlarms_frame log logId { s with now := now }
    exact ⟨⟨logs, (h.at now).raiseAlarms log logId⟩, by rw [Site.serve, left]⟩

theorem served (h : s.Holds logs) (batches : 0 ≤ s.settings.deleteBatchSize)
    (pages : 0 ≤ s.settings.collectPageSize) {calls : List ServiceCall}
    (plain : ∀ now payload, .change (.ingest now payload) ∈ calls → PlainPayload payload) :
    ∃ logs', (s.served calls).Holds logs' := by
  induction calls generalizing s logs with
  | nil => exact ⟨logs, h⟩
  | cons c rest ih =>
    obtain ⟨⟨logs', held⟩, same⟩ := h.serve batches pages (c := c) fun now payload first =>
      plain now payload (by simp [first])
    exact ih held (same ▸ batches) (same ▸ pages) fun now payload mem =>
      plain now payload (List.mem_cons_of_mem c mem)

theorem mirrored (h : s.Holds logs) : s.Mirrored where
  distinct := h.ids_records ▸ h.distinct
  documents := by
    rw [h.records, h.index.2, List.forall₂_map_left_iff, List.forall₂_map_right_iff,
      List.forall₂_same]
    exact fun r _ => r.mirroredBy_kept

end Holds

/-- After any calls of the service the index holds one document for each record, and no other: that
of the record as it is read back, with the request that was sent. -/
theorem served_mirrored {s : Site} (empty : s.Empty) (batches : 0 ≤ s.settings.deleteBatchSize)
    (pages : 0 ≤ s.settings.collectPageSize) {calls : List ServiceCall}
    (plain : ∀ now payload, .change (.ingest now payload) ∈ calls → PlainPayload payload) :
    (s.served calls).Mirrored := by
  have start : s.Holds [] :=
    ⟨empty.records, ⟨empty.healthy, empty.documents⟩, List.nodup_nil, nofun⟩
  obtain ⟨logs, held⟩ := start.served batches pages plain
  exact held.mirrored

/-- The calls in the shop, with a search and an alarm between them. -/
def shopService : List ServiceCall :=
  shopCalls.map .change ++ [.search timeoutSearch, .alarm 1711886403000000 [] "log-2"]

theorem served_mirrored_shopService :
    (shopSite.served shopService).index.documents.map (·.1) = ["log-2", "log-3"] ∧
      (shopSite.served shopService).Mirrored := by
  refine ⟨by decide +kernel, ?_⟩
  refine served_mirrored ⟨rfl, rfl, rfl, fun _ _ => rfl⟩ (by decide) (by decide) ?_
  intro now payload mem
  exact shopCalls_plain now payload (by simpa [shopService] using mem)

/-- The payload of a log whose request is a number. -/
def numberedPayload (request : Json) : Json :=
  .obj [("level", .str "ERROR"), ("environment", .str "production"), ("projectId", .str "shop"),
    ("message", .str "Gateway timeout"), ("timestampMS", .int 5000), ("request", request)]

/-- The shop with other sizes of batches and pages for deletions. -/
def sizedShop (batch page : Int) : Site :=
  { shopSite with settings := { deleteBatchSize := batch, collectPageSize := page } }

/-- A log in the shop is stored, and all its logs are deleted. -/
def shortLived : List ServiceCall :=
  [.change (.ingest 1711886400000000 (shopPayload "Gateway timeout" 5000)),
    .change (.delete { projectId := "shop" })]

/-- A number that no word holds is read back as another one. And with batches of a size below zero a
deletion leaves a log whose document it removes, with pages of such a size a document whose log it
removes. -/
theorem served_unmirrored :
    (shopSite.Empty ∧ PlainPayload (numberedPayload (.int 12345678901234567890)) ∧
      ∃ row doc, (shopSite.served [.change (.ingest 1711886400000000
          (numberedPayload (.int 12345678901234567890)))]).primary.records = [row] ∧
        (shopSite.served [.change (.ingest 1711886400000000
          (numberedPayload (.int 12345678901234567890)))]).index.documents = [(row.id, doc)] ∧
        ¬(Json.obj doc).equal (.obj (documentOf row.toFields))) ∧
    ((sizedShop (-1) 250).Empty ∧
      ((sizedShop (-1) 250).served shortLived).primary.records.map (·.id) = ["log-1"] ∧
      ((sizedShop (-1) 250).served shortLived).index.documents = []) ∧
    ((sizedShop 500 (-1)).Empty ∧
      ((sizedShop 500 (-1)).served shortLived).primary.records = [] ∧
      ((sizedShop 500 (-1)).served shortLived).index.documents.map (·.1) = ["log-1"]) := by
  have plain : PlainPayload (numberedPayload (.int 12345678901234567890)) := by
    intro fs whole
    cases whole
    decide
  refine ⟨⟨⟨rfl, rfl, rfl, fun _ _ => rfl⟩, plain, ?_⟩, ⟨⟨rfl, rfl, rfl, fun _ _ => rfl⟩, ?_, ?_⟩,
    ⟨rfl, rfl, rfl, fun _ _ => rfl⟩, ?_, ?_⟩
  · refine ⟨_, _, rfl, rfl, ?_⟩
    decide +kernel
  · decide +kernel
  · decide +kernel
  · decide +kernel
  · decide +kernel

end Site

end Logbook
