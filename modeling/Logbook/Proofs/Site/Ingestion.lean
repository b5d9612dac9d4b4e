import Logbook.Site.Ingestion

/-!
# What ingestion does

A payload is rejected, and then at most an identifier has been used up; or it is accepted as a
record (`Site.Accepts`), and then the record is in the primary store, its document has been offered
to the index, and its alarms have been raised on the site with both. Raising alarms changes nothing
but the desk.
-/

namespace Logbook

/-- The record of a payload has the identifier that was drawn for it. -/
theorem Draft.id_of_record {d : Draft} {id createdAt : String} {r : LogEntry}
    (recorded : d.record id createdAt = .ok r) : r.id = id := by
  unfold Draft.record at recorded
  cases time : readTimestamp (d.payload.get "timestampMS") <;> rw [time] at recorded <;>
    cases recorded
  rfl

/-- A row is the record of a payload, as the columns keep it. -/
def LogEntry.IsRecordOf (row : LogEntry) (payload : Fields) : Prop :=
  ∃ id createdAt objectId r, LogEntry.ofPayload (.obj payload) id createdAt = .ok r ∧
    ({ r with projectObjectId := objectId } : LogEntry).inColumns = .ok row

namespace Site

variable {s : Site}

/-- The identifier that is drawn next. -/
def nextId (s : Site) : String :=
  "log-" ++ toString (s.drawn + 1)

/-- No identifier that is drawn is empty. -/
theorem drawnId_ne_empty (n : Nat) : "log-" ++ toString n ≠ "" := by
  intro empty
  have first := congrArg (fun t => t.toList) empty
  simp at first

/-- Different draws give different identifiers. -/
theorem drawnId_inj {m n : Nat} (same : "log-" ++ toString m = "log-" ++ toString n) : m = n :=
  Text.toString_nat_inj ((String.append_right_inj "log-").1 same)

/-- A payload is accepted as the record `r`, with which the primary store becomes `db`. -/
structure Accepts (s : Site) (payload : Json) (r : LogEntry) (db : Primary) : Prop where
  recorded : ∃ d r₀ project, Draft.ofPayload payload = .ok d ∧
    d.record s.nextId s.nowText = .ok r₀ ∧ s.primary.project r₀.projectId = .ok project ∧
    r = { r₀ with projectObjectId := project.id }
  stored : s.primary.insert r = .ok db

/-- A payload is accepted under the identifier drawn next. -/
theorem Accepts.id {payload : Json} {r : LogEntry} {db : Primary} (h : s.Accepts payload r db) :
    r.id = s.nextId := by
  obtain ⟨d, r₀, project, -, recorded, -, rfl⟩ := h.recorded
  exact show r₀.id = s.nextId from Draft.id_of_record recorded

theorem Accepts.isRecordOf {payload : Fields} {r row : LogEntry} {db : Primary}
    (h : s.Accepts (.obj payload) r db) (kept : r.inColumns = .ok row) : row.IsRecordOf payload := by
  obtain ⟨d, r₀, project, drafted, recorded, -, rfl⟩ := h.recorded
  refine ⟨s.nextId, s.nowText, project.id, r₀, ?_, kept⟩
  rw [LogEntry.ofPayload, drafted]
  exact recorded

/-- The site with the record of an accepted payload, before its alarms are raised. -/
def withRecord (s : Site) (r : LogEntry) (db : Primary) : Site :=
  { s with drawn := s.drawn + 1, primary := db, index := withDocument r.toFields s.index }

/-- Alarms change nothing but the desk. -/
theorem raiseAlarms_frame (log : Fields) (logId : String) (s : Site) :
    ∃ d, (raiseAlarms log logId s).2 = { s with desk := d } := by
  unfold raiseAlarms
  cases log.lookup "project_id" with
  | none => exact ⟨s.desk, rfl⟩
  | some slug =>
    dsimp only
    rw [Act.bind_apply]
    cases named : s.primary.projectOf slug with
    | error f => exact ⟨s.desk, by simp [ask, named]⟩
    | ok project =>
      simp only [ask, named, Act.bind_apply, Act.get_apply, onDesk, Act.onPart_apply]
      exact ⟨_, rfl⟩

/-- What follows the storing of a record succeeds whatever becomes of its alarms. -/
theorem follow_apply (r : LogEntry) (s : Site) :
    follow r s = (.ok (), (raiseAlarms r.toFields r.id
      { s with index := withDocument r.toFields s.index }).2) := by
  simp [follow, Act.bind_apply, Except.map]

/-- Of what follows the storing of a record, all but the document stays with the desk. -/
theorem follow_frame (r : LogEntry) (s : Site) : ∃ desk, follow r s =
    (.ok (), { s with index := withDocument r.toFields s.index, desk := desk }) := by
  obtain ⟨desk, left⟩ := raiseAlarms_frame r.toFields r.id
    { s with index := withDocument r.toFields s.index }
  exact ⟨desk, by rw [follow_apply, left]⟩

theorem prepare_apply (payload : Json) (s : Site) :
    prepare payload s = match Draft.ofPayload payload with
      | .error p => (.error (.problem p), s)
      | .ok d => (d.record s.nextId s.nowText, { s with drawn := s.drawn + 1 }) := by
  unfold prepare
  cases Draft.ofPayload payload <;> rfl

theorem insert_apply (r : LogEntry) (s : Site) :
    insert r s = match s.primary.project r.projectId with
      | .error f => (.error f, s)
      | .ok project => match s.primary.insert { r with projectObjectId := project.id } with
        | .error f => (.error f, s)
        | .ok db => (.ok { r with projectObjectId := project.id }, { s with primary := db }) := by
  unfold insert
  rw [Act.bind_apply]
  cases named : s.primary.project r.projectId with
  | error f => simp [ask, named]
  | ok project =>
    simp only [ask, named, Act.bind_apply]
    cases s.primary.insert { r with projectObjectId := project.id } <;> rfl

/-- Stores the record of a payload, without what follows. -/
def accept (payload : Json) : Act Site LogEntry := do
  insert (← prepare payload)

theorem ingest_eq (payload : Json) : ingest payload = do
    let r ← accept payload
    follow r
    return r := by
  unfold ingest accept
  rw [bind_assoc]

/-- The record of a payload that is accepted is stored. -/
theorem accept_of_accepts {payload : Json} {r : LogEntry} {db : Primary}
    (h : s.Accepts payload r db) :
    accept payload s = (.ok r, { s with drawn := s.drawn + 1, primary := db }) := by
  obtain ⟨⟨d, r₀, project, drafted, recorded, named, rfl⟩, stored⟩ := h
  unfold accept
  rw [Act.bind_apply, prepare_apply, drafted]
  simp only [recorded, insert_apply, named, stored]

/-- A payload is rejected or accepted. -/
theorem accept_cases (payload : Json) (s : Site) :
    (∃ f drawn, s.drawn ≤ drawn ∧ accept payload s = (.error f, { s with drawn := drawn })) ∨
      ∃ r db, s.Accepts payload r db ∧
        accept payload s = (.ok r, { s with drawn := s.drawn + 1, primary := db }) := by
  cases drafted : Draft.ofPayload payload with
  | error p =>
    refine .inl ⟨.problem p, s.drawn, Nat.le_refl _, ?_⟩
    simp only [accept, Act.bind_apply, prepare_apply, drafted]
  | ok d =>
    cases recorded : d.record s.nextId s.nowText with
    | error f =>
      refine .inl ⟨f, s.drawn + 1, Nat.le_succ _, ?_⟩
      simp only [accept, Act.bind_apply, prepare_apply, drafted, recorded]
    | ok r₀ =>
      cases named : s.primary.project r₀.projectId with
      | error f =>
        refine .inl ⟨f, s.drawn + 1, Nat.le_succ _, ?_⟩
        simp only [accept, Act.bind_apply, prepare_apply, drafted, recorded, insert_apply, named]
      | ok project =>
        cases stored : s.primary.insert { r₀ with projectObjectId := project.id } with
        | error f =>
          refine .inl ⟨f, s.drawn + 1, Nat.le_succ _, ?_⟩
          simp only [accept, Act.bind_apply, prepare_apply, drafted, recorded, insert_apply, named,
            stored]
        | ok db =>
          have accepted : s.Accepts payload { r₀ with projectObjectId := project.id } db :=
            ⟨⟨d, r₀, project, drafted, recorded, named, rfl⟩, stored⟩
          exact .inr ⟨_, db, accepted, accept_of_accepts accepted⟩

/-- What becomes of a payload that is accepted. -/
theorem ingest_of_accepts {payload : Json} {r : LogEntry} {db : Primary}
    (h : s.Accepts payload r db) :
    ingest payload s = (.ok r, (raiseAlarms r.toFields r.id (s.withRecord r db)).2) := by
  rw [ingest_eq, Act.bind_of_ok (accept_of_accepts h), Act.bind_of_ok (follow_apply r _)]
  rfl

/-- What becomes of a payload that is rejected or accepted. -/
theorem ingest_cases (payload : Json) (s : Site) :
    (∃ f drawn, s.drawn ≤ drawn ∧
        ingest payload s = (.error f, { s with drawn := drawn })) ∨
      ∃ r db, s.Accepts payload r db ∧
        ingest payload s = (.ok r, (raiseAlarms r.toFields r.id (s.withRecord r db)).2) := by
  rcases accept_cases payload s with ⟨f, drawn, more, rejected⟩ | ⟨r, db, accepted, -⟩
  · exact .inl ⟨f, drawn, more, by rw [ingest_eq, Act.bind_of_error rejected]⟩
  · exact .inr ⟨r, db, accepted, ingest_of_accepts accepted⟩

/-- Ingestion changes the stores and the desk, and draws identifiers, and nothing else. -/
theorem ingest_frame (payload : Json) (s : Site) : ∃ drawn primary index desk,
    s.drawn ≤ drawn ∧ (ingest payload s).2 =
      { s with drawn := drawn, primary := primary, index := index, desk := desk } := by
  rcases ingest_cases payload s with ⟨f, drawn, more, ran⟩ | ⟨r, db, -, ran⟩
  · exact ⟨drawn, s.primary, s.index, s.desk, more, by rw [ran]⟩
  · obtain ⟨desk, left⟩ := raiseAlarms_frame r.toFields r.id (s.withRecord r db)
    refine ⟨s.drawn + 1, db, withDocument r.toFields s.index, desk, Nat.le_succ _, ?_⟩
    rw [ran, left]
    rfl

end Site

end Logbook
