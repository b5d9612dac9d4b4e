import Logbook.Proofs.Act
import Logbook.Proofs.Site.Alarms

/-!
# Ingestion is all or nothing

What becomes of a payload is decided by the primary store. From sites that are alike in that, in the
time and in the number of identifiers drawn, ingestion ends in the same way, however they stand with
the index, the cache and those who are notified (`Site.respects_ingest`). If it fails, it has
changed nothing but this number (`Site.ingestion_atomic`).
-/

namespace Logbook.Site

/-- The sites have the same logs and projects, the same time and the same number of identifiers
drawn. All services may differ. -/
structure AlikeButServices (s t : Site) : Prop where
  primary : t.primary = s.primary
  now : t.now = s.now
  drawn : t.drawn = s.drawn

theorem respects_prepare (payload : Json) : (prepare payload).Respects AlikeButServices := by
  intro s t alike
  have id : t.nextId = s.nextId := by rw [nextId, nextId, alike.drawn]
  have text : t.nowText = s.nowText := by rw [nowText, nowText, alike.now]
  rw [prepare_apply, prepare_apply, id, text]
  cases Draft.ofPayload payload with
  | error p => exact ⟨rfl, alike⟩
  | ok d => exact ⟨rfl, alike.primary, alike.now, congrArg (· + 1) alike.drawn⟩

theorem respects_insert (r : LogEntry) : (insert r).Respects AlikeButServices := by
  intro s t alike
  rw [insert_apply, insert_apply, alike.primary]
  cases s.primary.project r.projectId with
  | error f => exact ⟨rfl, alike⟩
  | ok project =>
    dsimp only
    cases s.primary.insert { r with projectObjectId := project.id } with
    | error f => exact ⟨rfl, alike⟩
    | ok db => exact ⟨rfl, rfl, alike.now, alike.drawn⟩

/-- What follows the storing of a record stays with the services. -/
theorem respects_follow (r : LogEntry) : (follow r).Respects AlikeButServices := by
  intro s t alike
  obtain ⟨desk, left⟩ := follow_frame r s
  obtain ⟨desk', left'⟩ := follow_frame r t
  rw [left, left']
  exact ⟨rfl, alike.primary, alike.now, alike.drawn⟩

/-- What becomes of a payload does not depend on the services. -/
theorem respects_ingest (payload : Json) : (ingest payload).Respects AlikeButServices :=
  (respects_prepare payload).bind fun r => (respects_insert r).bind fun r =>
    (respects_follow r).bind fun _ => Act.respects_pure r

/-- From sites that are alike but for their services, in whatever state these are, ingestion raises
the same fault or returns the same record, and leaves the same primary store. Where it raises a
fault, nothing has changed but the number of identifiers drawn. -/
theorem ingestion_atomic {s t : Site} (alike : s.AlikeButServices t) (payload : Json) :
    (ingest payload s).1 = (ingest payload t).1 ∧
      (ingest payload s).2.primary = (ingest payload t).2.primary ∧
      ∀ f, (ingest payload s).1 = .error f →
        (ingest payload s).2 = { s with drawn := (ingest payload s).2.drawn } := by
  obtain ⟨same, left⟩ := respects_ingest payload s t alike
  refine ⟨same, left.primary.symm, ?_⟩
  intro f failed
  rcases ingest_cases payload s with ⟨g, drawn, -, ran⟩ | ⟨r, db, -, ran⟩
  · rw [ran]
  · rw [ran] at failed
    cases failed

/-- The shop while every call of the index and of the cache fails and no one can be notified. -/
def strickenShop : Site :=
  { alarmedShop with
    index := { outage := fun _ _ => some .crash }
    desk := {
      cache := { outage := fun _ _ => some .transport }
      outbox := { replies := fun _ => .crash } } }

/-- An error that the shop is notified of, with its time as it is given. -/
def notifiedError (timestampMs : Json) : Json :=
  .obj [("level", .str "ERROR"), ("environment", .str "production"), ("projectId", .str "shop"),
    ("message", .str "Gateway timeout"), ("timestampMS", timestampMs)]

theorem ingestion_atomic_strickenShop :
    (ingest (notifiedError (.int 5000)) alarmedShop).1 =
        (ingest (notifiedError (.int 5000)) strickenShop).1 ∧
      (ingest (notifiedError (.int 5000)) strickenShop).2.primary.records.map (·.id) = ["log-1"] ∧
      (ingest (notifiedError (.int 5000)) strickenShop).2.index.documents = [] ∧
      (ingest (notifiedError (.str "now")) strickenShop).2.primary = strickenShop.primary := by
  have alike : alarmedShop.AlikeButServices strickenShop := ⟨rfl, rfl, rfl⟩
  have stored : (ingest (notifiedError (.int 5000)) alarmedShop).2.primary.records.map (·.id) =
      ["log-1"] := by decide +kernel
  obtain ⟨same, left, -⟩ := ingestion_atomic alike (notifiedError (.int 5000))
  obtain ⟨-, -, kept⟩ := ingestion_atomic (s := strickenShop) ⟨rfl, rfl, rfl⟩
    (notifiedError (.str "now"))
  refine ⟨same, left ▸ stored, by decide +kernel, ?_⟩
  rw [kept (.problem .badTimestamp) (by decide +kernel)]

end Logbook.Site
