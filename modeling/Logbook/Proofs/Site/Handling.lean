import Logbook.Proofs.Site.Ingestion
import Logbook.Proofs.Store.Primary
import Logbook.Proofs.Store.Stream
import Logbook.Site.Worker

/-!
# Handling a message

Handling a message comes to a verdict on it, and that alone decides what follows (`Site.conclude`):
the message is acknowledged and counted as processed or dropped, or left pending and counted as an
error.
-/

namespace Logbook

/-- A fault is final if it is a problem of the input or of what that names. -/
theorem Fault.isFinal_iff {f : Fault} : f.isFinal ↔
    ∃ p, f = .problem p ∧ (p.category = .input ∨ p.category = .notFound) := by
  cases f <;> simp [isFinal]

/-- What the handling of a message came to. -/
inductive Verdict where
  | unreadable
  | stored
  | rejected (f : Fault)
  | failed (f : Fault)
  deriving DecidableEq

namespace Verdict

/-- The verdict on a message whose ingestion ended in this way. -/
def of : Except Fault Unit → Verdict
  | .ok _ => stored
  | .error f => if f.isFinal then rejected f else failed f

def isStored : Verdict → Bool
  | stored => true
  | _ => false

/-- Is the message one that can never be stored? -/
def isDropped : Verdict → Bool
  | unreadable | rejected _ => true
  | _ => false

end Verdict

namespace Site

section Ingest

variable {fs : LoadedFields}

/-- A payload is prepared, its project is looked up if the name can be written, and its record is
stored if all of its texts can. -/
theorem ingestQueued_apply (fs : LoadedFields) (s : Site) : ingestQueued fs s =
    match prepare (.obj fs.payload) s with
    | (.error f, s) => (.error f, s)
    | (.ok r, s) =>
      if fs.isTorn "projectId" then (.error .torn, s)
      else match s.primary.project r.projectId with
        | .error f => (.error f, s)
        | .ok _ => if fs.isUnwritable then (.error .torn, s) else (insert r >>= follow) s := by
  unfold ingestQueued
  rw [Act.bind_apply]
  rcases prepare (.obj fs.payload) s with ⟨f | r, s'⟩
  · rfl
  · dsimp only
    split
    · rfl
    · rw [Act.bind_apply, ask]
      cases s'.primary.project r.projectId with
      | error f => rfl
      | ok project =>
        dsimp only
        split <;> rfl

/-- A payload whose texts can be written is ingested like one that comes by another way. -/
theorem ingestQueued_of_writable (writable : fs.isUnwritable = false) (s : Site) :
    ingestQueued fs s =
      ((ingest (.obj fs.payload) s).1.map fun _ => (), (ingest (.obj fs.payload) s).2) := by
  have named : fs.isTorn "projectId" = false := by
    unfold LoadedFields.isUnwritable at writable
    rw [Bool.or_eq_false_iff, List.any_eq_false] at writable
    exact Bool.eq_false_iff.2 (writable.1 "projectId" (by decide))
  unfold ingest
  rw [ingestQueued_apply, Act.bind_apply]
  rcases prepare (.obj fs.payload) s with ⟨f | r, s'⟩
  · rfl
  · simp only [named, writable, Bool.false_eq_true, if_false, Act.bind_apply]
    cases known : s'.primary.project r.projectId with
    | error f =>
      rw [insert_apply, known]
      rfl
    | ok project =>
      dsimp only
      rcases insert r s' with ⟨f | stored, s''⟩
      · rfl
      · dsimp only
        rw [follow_apply]
        rfl

/-- A payload with a text that cannot be written is not ingested. -/
theorem ingestQueued_of_isUnwritable (unwritable : fs.isUnwritable = true) (s : Site) :
    ∃ f drawn, ingestQueued fs s = (.error f, { s with drawn := drawn }) := by
  rw [ingestQueued_apply, prepare_apply]
  cases Draft.ofPayload (.obj fs.payload) with
  | error p => exact ⟨_, _, rfl⟩
  | ok d =>
    dsimp only
    cases d.record s.nextId s.nowText with
    | error f => exact ⟨_, _, rfl⟩
    | ok r =>
      dsimp only
      split
      · exact ⟨_, _, rfl⟩
      · cases s.primary.project r.projectId with
        | error f => exact ⟨_, _, rfl⟩
        | ok project => exact ⟨_, _, rfl⟩

/-- The log of a payload from the stream is not stored, and then at most an identifier has been used
up; or its record is one more. -/
theorem ingestQueued_cases (fs : LoadedFields) (s : Site) :
    (∃ f drawn, ingestQueued fs s = (.error f, { s with drawn := drawn })) ∨
      ∃ row drawn index desk, row.IsRecordOf fs.payload ∧ row ∉ s.primary.records ∧
        ingestQueued fs s = (.ok (), { s with
          drawn := drawn
          primary := { s.primary with records := s.primary.records ++ [row] }
          index := index
          desk := desk }) := by
  cases writable : fs.isUnwritable with
  | true => exact .inl (ingestQueued_of_isUnwritable writable s)
  | false =>
    rw [ingestQueued_of_writable writable]
    rcases ingest_cases (.obj fs.payload) s with ⟨f, drawn, -, ran⟩ | ⟨r, db, accepted, ran⟩
    · exact .inl ⟨f, drawn, by rw [ran]; rfl⟩
    · obtain ⟨row, kept, -, fresh, rfl⟩ := Primary.insert_eq_ok accepted.stored
      obtain ⟨desk, frame⟩ := raiseAlarms_frame r.toFields r.id (s.withRecord r
        { s.primary with records := s.primary.records ++ [row] })
      refine .inr ⟨row, s.drawn + 1, withDocument r.toFields s.index, desk,
        accepted.isRecordOf kept, ?_, ?_⟩
      · intro mem
        exact fresh (LogEntry.id_of_inColumns kept ▸ List.mem_map_of_mem mem)
      · rw [ran, frame]
        rfl

end Ingest

/-- Concludes a message: it is acknowledged and counted, or left as it is and counted. -/
def conclude (id : String) (v : Verdict) (s : Site) : Site :=
  match v with
  | .unreadable | .rejected _ => s.drop id
  | .stored =>
    let s := s.settle id
    { s with stats := { s.stats with processed := s.stats.processed + 1 } }
  | .failed _ => { s with stats := { s.stats with errors := s.stats.errors + 1 } }

/-- Handling a message is trying to store its log, and concluding. -/
theorem handleBy_eq (ingest : LoadedFields → Act Site Unit) (m : Message) (s : Site) :
    (handleBy ingest m s).2 = match m.data with
      | none => s.conclude m.id .unreadable
      | some payload => (ingest payload s).2.conclude m.id (.of (ingest payload s).1) := by
  unfold handleBy
  cases m.data with
  | none => rfl
  | some payload =>
    rcases ran : ingest payload s with ⟨f | _, s'⟩
    · simp only [ran, Verdict.of]
      split <;> rfl
    · simp only [ran, Verdict.of]
      rfl

section Conclude

variable (id : String) (v : Verdict) (s : Site)

theorem primary_conclude : (s.conclude id v).primary = s.primary := by
  cases v <;> rfl

/-- An entry is held no longer after a message is concluded, or nothing has become of it. -/
theorem stream_conclude_cases :
    (∃ calls, (s.conclude id v).stream = { s.stream with calls := calls }) ∨
      (∀ f, v ≠ .failed f) ∧ ∃ calls, (s.conclude id v).stream = { s.stream with
        calls := calls, pending := s.stream.pending.filter fun p => p.entry.id ≠ id } := by
  have settled (final : ∀ f, v ≠ .failed f)
      (left : (s.conclude id v).stream = (s.stream.acknowledge [id]).2) :
      (∃ calls, (s.conclude id v).stream = { s.stream with calls := calls }) ∨
        (∀ f, v ≠ .failed f) ∧ ∃ calls, (s.conclude id v).stream = { s.stream with
          calls := calls, pending := s.stream.pending.filter fun p => p.entry.id ≠ id } := by
    rw [left]
    cases fault : s.stream.fault? .acknowledge with
    | some f => exact .inl ⟨_, by rw [Stream.acknowledge_of_some _ fault]; rfl⟩
    | none => exact .inr ⟨final, _, Stream.acknowledge_of_none _ fault id⟩
  cases v with
  | failed f => exact .inl ⟨s.stream.calls, rfl⟩
  | unreadable => exact settled nofun rfl
  | stored => exact settled nofun rfl
  | rejected f => exact settled nofun rfl

/-- Where the acknowledgement does not fail, an entry is held no longer once it is stored or can
never be. -/
theorem stream_conclude_of_none (well : s.stream.fault? .acknowledge = none)
    (final : ∀ f, v ≠ .failed f) : (s.conclude id v).stream = { s.stream.called with
      pending := s.stream.pending.filter fun p => p.entry.id ≠ id } := by
  rw [← Stream.acknowledge_of_none s.stream well]
  cases v with
  | failed f => exact absurd rfl (final f)
  | _ => rfl

/-- Of the stream a conclusion changes no more than which entries are pending. -/
theorem conclude_frame : ∃ calls pending stats, pending ⊆ s.stream.pending ∧
    s.conclude id v = { s with
      stream := { s.stream with calls := calls, pending := pending }
      stats := stats } := by
  have left : s.conclude id v =
      { s with stream := (s.conclude id v).stream, stats := (s.conclude id v).stats } := by
    cases v <;> rfl
  rcases stream_conclude_cases id v s with ⟨calls, stream⟩ | ⟨-, calls, stream⟩
  · exact ⟨calls, s.stream.pending, _, List.Subset.refl _, by rw [left, stream]⟩
  · exact ⟨calls, _, _, List.filter_subset_self _, by rw [left, stream]⟩

theorem held_conclude_of_none (well : s.stream.fault? .acknowledge = none)
    (final : ∀ f, v ≠ .failed f) :
    (s.conclude id v).stream.held = s.stream.held.filter (·.id ≠ id) := by
  rw [stream_conclude_of_none id v s well final]
  exact Stream.held_filter s.stream _ id

/-- What is stored is counted as processed, what can never be stored as dropped. -/
theorem stats_conclude :
    (s.conclude id v).stats.processed = s.stats.processed + (if v.isStored then 1 else 0) ∧
      (s.conclude id v).stats.dropped = s.stats.dropped + (if v.isDropped then 1 else 0) := by
  cases v <;> exact ⟨rfl, rfl⟩

end Conclude

end Site

end Logbook
