import Logbook.Proofs.Alarm.Renaming
import Logbook.Proofs.Site.LostAlarms
import Logbook.Proofs.Store.Mirror
import Logbook.Proofs.Store.Outages

/-!
# Sites under other identifiers

Two sites are twins if they agree but for the identifiers of logs, which stand for each other one to
one, and neither will draw an identifier that it knows. What becomes of a payload does not depend on
the identifier that is drawn for it, so twins stay twins when the same payload is ingested at both,
however many identifiers each of them has drawn before (`Site.Twin.ingest`).
-/

namespace Logbook

/-- No identifier stands for two. -/
structure Renaming.OneToOne (ids : Renaming) : Prop where
  left : (ids.map (·.1)).Nodup
  right : (ids.map (·.2)).Nodup

/-- Where related things have identifiers that stand for each other, these are all known. -/
theorem Renaming.subset_of_forall₂ {α : Type} {ids : Renaming} (key : α → String) {xs ys : List α}
    (related : List.Forall₂ (fun x y => (key x, key y) ∈ ids) xs ys) :
    xs.map key ⊆ ids.map (·.1) ∧ ys.map key ⊆ ids.map (·.2) := by
  induction related with
  | nil => exact ⟨List.nil_subset _, List.nil_subset _⟩
  | cons named _ ih =>
    exact ⟨List.cons_subset.2 ⟨List.mem_map.2 ⟨_, named, rfl⟩, ih.1⟩,
      List.cons_subset.2 ⟨List.mem_map.2 ⟨_, named, rfl⟩, ih.2⟩⟩

/-- The same document, or the documents of one log, under identifiers that stand for each other. -/
structure DocumentRenamed (ids : Renaming) (d d' : String × Fields) : Prop where
  key : (d.1, d'.1) ∈ ids
  content : d' = d ∨ ∃ r r', LogEntry.Renamed ids r r' ∧ d = r.mirrored ∧ d' = r'.mirrored

/-- The same index, but for the identifiers of logs. -/
structure SearchIndex.Renamed (ids : Renaming) (ix ix' : SearchIndex) : Prop where
  frame : ix' = { ix with documents := ix'.documents }
  documents : List.Forall₂ (DocumentRenamed ids) ix.documents ix'.documents

/-- An index that takes the document of a log, or fails to. -/
theorem withDocument_eq (r : LogEntry) (ix : SearchIndex) : withDocument r.toFields ix =
    if ix.isOpen then { ix with
      calls := ix.calls + 1
      documents := if (ix.outage ix.calls .put).isSome then ix.documents
        else Keyed.put r.id (documentOf r.toFields) ix.documents } else ix := by
  unfold withDocument
  split
  case isFalse => rfl
  case isTrue connected =>
    have key : ((documentOf r.toFields).get "id").display = r.id := rfl
    unfold SearchIndex.put
    simp only [Act.bind_of_ok (SearchIndex.require_of_open connected), key, Act.bind_apply,
      SearchIndex.explaining_apply]
    cases fault : ix.outage ix.calls .put with
    | some f =>
      rw [SearchIndex.call_of_some fault]
      rfl
    | none =>
      rw [SearchIndex.call_of_none fault]
      rfl

section Index

variable {ids ids' : Renaming} {ix ix' : SearchIndex} {r r' : LogEntry}

theorem SearchIndex.Renamed.withDocument (h : Renamed ids ix ix') (more : ids ⊆ ids')
    (same : r.Renamed ids' r') (fresh : r.id ∉ ids.map (·.1)) (fresh' : r'.id ∉ ids.map (·.2)) :
    Renamed ids' (withDocument r.toFields ix) (withDocument r'.toFields ix') := by
  obtain ⟨frame, documents⟩ := h
  generalize ix'.documents = docs at frame documents
  subst frame
  obtain ⟨known, known'⟩ := Renaming.subset_of_forall₂ Prod.fst
    (documents.imp fun _ _ related => related.key)
  have later : List.Forall₂ (DocumentRenamed ids') ix.documents docs := by
    refine documents.imp fun d d' related => ⟨more related.key, ?_⟩
    rcases related.content with same | ⟨r, r', named, mirrors⟩
    · exact .inl same
    · exact .inr ⟨r, r', named.mono more, mirrors⟩
  have new : DocumentRenamed ids' r.mirrored r'.mirrored :=
    ⟨same.1, .inr ⟨r, r', same, rfl, rfl⟩⟩
  have open' : ({ ix with documents := docs } : SearchIndex).isOpen = ix.isOpen := rfl
  rw [withDocument_eq, withDocument_eq, open']
  cases ix.isOpen with
  | false => exact ⟨rfl, later⟩
  | true =>
    rw [Keyed.put_of_notMem (fun mem => fresh (known mem)),
      Keyed.put_of_notMem (fun mem => fresh' (known' mem))]
    cases (ix.outage ix.calls .put).isSome with
    | true => exact ⟨rfl, later⟩
    | false => exact ⟨rfl, List.rel_append later (.cons new .nil)⟩

end Index

/-- The record of a payload has the identifier that was drawn for it in no other place. -/
theorem Draft.record_renamed {d : Draft} {id createdAt : String} {r : LogEntry}
    (recorded : d.record id createdAt = .ok r) (id' : String) :
    d.record id' createdAt = .ok { r with id := id' } := by
  unfold Draft.record at recorded ⊢
  cases time : readTimestamp (d.payload.get "timestampMS") with
  | error f =>
    rw [time] at recorded
    cases recorded
  | ok t =>
    rw [time] at recorded
    cases recorded
    rfl

/-- The columns take a log alike under each identifier. -/
theorem LogEntry.inColumns_renamed (r : LogEntry) (id : String) :
    ({ r with id := id } : LogEntry).inColumns =
      r.inColumns.map fun row => { row with id := id } := by
  unfold inColumns
  dsimp only
  cases Column.text r.hostname <;> cases Column.text r.rawStackTrace <;>
    cases Column.text r.detailString <;> cases Column.integer r.timestampMs <;> rfl

namespace Site

variable {ids : Renaming} {s t : Site}

/-- The stores of a site and its desk are the same as those of another but for the identifiers of
logs. -/
structure Renamed (ids : Renaming) (s t : Site) : Prop where
  projects : t.primary.projects = s.primary.projects
  widths : t.primary.holdsWidths = s.primary.holdsWidths
  records : List.Forall₂ (LogEntry.Renamed ids) s.primary.records t.primary.records
  index : SearchIndex.Renamed ids s.index t.index
  desk : Desk.Renamed ids s.desk t.desk

/-- Sites that agree but for the identifiers of logs, and that draw none they know. -/
structure Twin (ids : Renaming) (s t : Site) : Prop where
  settings : t.settings = s.settings
  mail : t.mail = s.mail
  now : t.now = s.now
  stores : s.Renamed ids t
  oneToOne : ids.OneToOne
  new : ∀ n, s.drawn < n → "log-" ++ toString n ∉ ids.map (·.1)
  new' : ∀ n, t.drawn < n → "log-" ++ toString n ∉ ids.map (·.2)

/-- Where one site accepts a payload, another one with the same projects and columns and the same time
accepts it under the identifier that it draws. -/
theorem Accepts.renamed {payload : Json} {r : LogEntry} {db : Primary} (h : s.Accepts payload r db)
    (projects : t.primary.projects = s.primary.projects)
    (widths : t.primary.holdsWidths = s.primary.holdsWidths) (now : t.now = s.now)
    (fresh : t.nextId ∉ t.primary.records.map (·.id)) : ∃ row,
      db = { s.primary with records := s.primary.records ++ [row] } ∧ r.inColumns = .ok row ∧
      t.Accepts payload { r with id := t.nextId }
        { t.primary with records := t.primary.records ++ [{ row with id := t.nextId }] } := by
  obtain ⟨⟨d, r₀, project, drafted, recorded, named, rfl⟩, stored⟩ := h
  obtain ⟨row, kept, wide, -, rfl⟩ := Primary.insert_eq_ok stored
  refine ⟨row, rfl, kept, ⟨d, { r₀ with id := t.nextId }, project, drafted, ?_, ?_, rfl⟩, ?_⟩
  · have text : t.nowText = s.nowText := by rw [nowText, nowText, now]
    rw [text]
    exact Draft.record_renamed recorded t.nextId
  · rw [← named]
    unfold Primary.project
    rw [projects]
  · have wide' : t.primary.fits ({ row with id := t.nextId } : LogEntry).widths = true := by
      unfold Primary.fits
      rw [widths]
      exact wide
    rw [Primary.insert_of_fresh fresh, LogEntry.inColumns_renamed, kept]
    exact if_pos wide'

namespace Twin

/-- The identifiers of the records and of the documents are known. -/
theorem nextId_notMem (h : Twin ids s t) :
    s.nextId ∉ s.primary.records.map (·.id) ∧ t.nextId ∉ t.primary.records.map (·.id) := by
  obtain ⟨known, known'⟩ := Renaming.subset_of_forall₂ LogEntry.id
    (h.stores.records.imp fun _ _ same => same.1)
  exact ⟨fun mem => h.new _ (Nat.lt_succ_self _) (known mem),
    fun mem => h.new' _ (Nat.lt_succ_self _) (known' mem)⟩

/-- Raising the alarms for a log that each twin knows under its own identifier. -/
theorem raiseAlarms (h : Twin ids s t) {r r' : LogEntry} (same : r.Renamed ids r') :
    Twin ids (Site.raiseAlarms r.toFields r.id s).2 (Site.raiseAlarms r'.toFields r'.id t).2 := by
  have slug : r'.projectId = r.projectId := by rw [same.2]
  have policy : t.policy = s.policy := by
    rw [Site.policy, Site.policy, h.settings, h.mail]
  have clock : t.clockMs = s.clockMs := by
    rw [clockMs, clockMs, h.now]
  rw [raiseAlarms_toFields, raiseAlarms_toFields, slug,
    Primary.projectOf_congr h.stores.projects, policy, clock]
  cases s.primary.projectOf (.str r.projectId) with
  | error f => exact h
  | ok project =>
    have alike : Alert.Renamed ids ⟨r, r.id, project, s.clockMs⟩ ⟨r', r'.id, project, s.clockMs⟩ :=
      ⟨same.2, same.1, rfl, rfl⟩
    have desk := (h.stores.desk.raiseAlarms s.policy alike).2
    exact { h with stores := { h.stores with desk := desk } }

/-- A payload that is rejected uses up identifiers at most. -/
theorem used (h : Twin ids s t) {m n : Nat} (more : s.drawn ≤ m) (more' : t.drawn ≤ n) :
    Twin ids { s with drawn := m } { t with drawn := n } :=
  { h with
    stores := { h.stores with }
    new := fun k above => h.new k (Nat.lt_of_le_of_lt more above)
    new' := fun k above => h.new' k (Nat.lt_of_le_of_lt more' above) }

/-- The records of one payload join the twins, each under the identifier drawn for it. -/
theorem withRecord (h : Twin ids s t) {r r' row row' : LogEntry} (named : r.id = s.nextId)
    (named' : r'.id = t.nextId) (same : r.Renamed ((s.nextId, t.nextId) :: ids) r')
    (kept : row.Renamed ((s.nextId, t.nextId) :: ids) row') :
    Twin ((s.nextId, t.nextId) :: ids)
      (s.withRecord r { s.primary with records := s.primary.records ++ [row] })
      (t.withRecord r' { t.primary with records := t.primary.records ++ [row'] }) := by
  have more : ids ⊆ (s.nextId, t.nextId) :: ids := List.subset_cons_self _ _
  have fresh : s.nextId ∉ ids.map (·.1) := h.new _ (Nat.lt_succ_self _)
  have fresh' : t.nextId ∉ ids.map (·.2) := h.new' _ (Nat.lt_succ_self _)
  have later (k : Nat) {m : Nat} (above : m + 1 < k) :
      "log-" ++ toString k ≠ "log-" ++ toString (m + 1) := by
    intro same
    have equal := drawnId_inj same
    omega
  exact {
    settings := h.settings
    mail := h.mail
    now := h.now
    stores := {
      projects := h.stores.projects
      widths := h.stores.widths
      records := List.rel_append (h.stores.records.imp fun _ _ old => old.mono more)
        (.cons kept .nil)
      index := h.stores.index.withDocument more same (named ▸ fresh) (named' ▸ fresh')
      desk := h.stores.desk.mono more }
    oneToOne :=
      ⟨List.nodup_cons.2 ⟨fresh, h.oneToOne.left⟩, List.nodup_cons.2 ⟨fresh', h.oneToOne.right⟩⟩
    new := fun k above mem => (List.mem_cons.1 mem).elim (later k above)
      (h.new k (Nat.lt_of_succ_lt above))
    new' := fun k above mem => (List.mem_cons.1 mem).elim (later k above)
      (h.new' k (Nat.lt_of_succ_lt above)) }

/-- What becomes of a payload does not depend on the identifiers that are drawn for it. -/
theorem ingest (h : Twin ids s t) (payload : Json) : ∃ ids', ids ⊆ ids' ∧
    Twin ids' (Site.ingest payload s).2 (Site.ingest payload t).2 := by
  obtain ⟨fresh, fresh'⟩ := h.nextId_notMem
  rcases ingest_cases payload s with ⟨f, drawn, more, ran⟩ | ⟨r, db, accepted, ran⟩
  · rcases ingest_cases payload t with ⟨f', drawn', more', ran'⟩ | ⟨r', db', accepted', -⟩
    · rw [ran, ran']
      exact ⟨ids, List.Subset.refl ids, h.used more more'⟩
    · -- Acceptance carries over in both directions, so both reject.
      obtain ⟨row, -, -, also⟩ := accepted'.renamed h.stores.projects.symm h.stores.widths.symm
        h.now.symm fresh
      rw [ingest_of_accepts also] at ran
      cases ran
  · obtain ⟨row, rfl, kept, also⟩ := accepted.renamed h.stores.projects h.stores.widths h.now fresh'
    have named : r.id = s.nextId := accepted.id
    have named' : row.id = s.nextId := (LogEntry.id_of_inColumns kept).trans named
    have pair (x : LogEntry) (under : x.id = s.nextId) :
        x.Renamed ((s.nextId, t.nextId) :: ids) { x with id := t.nextId } :=
      ⟨under ▸ List.mem_cons_self, rfl⟩
    rw [ran, ingest_of_accepts also]
    exact ⟨_, List.subset_cons_self (s.nextId, t.nextId) ids,
      (h.withRecord named rfl (pair r named) (pair row named')).raiseAlarms (pair r named)⟩

end Twin

end Site

end Logbook
