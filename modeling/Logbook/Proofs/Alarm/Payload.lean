import Logbook.Alarm.Payload
import Logbook.Proofs.Log.Entry
import Logbook.Proofs.Time.Stamp

/-!
# The payload of a stored log

A stored log has all that its alarm tells, so only its time can keep the alarm from being put into
words: there is a payload exactly if the time lies in the calendar (`LogEntry.exists_payload_iff`), and
its fields are then those of the log and the texts that are made of them (`LogEntry.payload`).
-/

namespace Logbook.LogEntry

/-- The payload of an alarm for a log, whose time is shown as a text. -/
def payload (r : LogEntry) (logId name base stamp : String) : Fields :=
  [("logId", .str logId), ("projectId", .str r.projectId), ("projectName", .str name),
    ("level", .str r.level), ("environment", .str r.environment), ("logType", .str r.logType.name),
    ("message", .str r.message), ("timestamp", .str stamp),
    ("hostname", r.hostname.orElse (.str "")), ("stackTrace", .str (stackTraceText r.toFields)),
    ("link", .str (logLink base (.str r.projectId) logId)),
    ("request", .obj ((metadataLeaves r.request).map fun (k, v) => (k, .str v)))]

theorem alarmPayload_toFields (r : LogEntry) (logId name base : String) :
    alarmPayload r.toFields logId name base =
      r.payload logId name base <$> stampText (.int r.timestampMs) := by
  have time : r.toFields.get "timestamp_ms" = .int r.timestampMs := rfl
  rw [alarmPayload, time, r.messageValue_toFields]
  cases stampText (.int r.timestampMs) <;> rfl

/-- The payload for a stored log has its fields. -/
theorem exists_stamp {r : LogEntry} {logId name base : String} {payload : Fields}
    (written : alarmPayload r.toFields logId name base = .ok payload) :
    ∃ stamp, payload = r.payload logId name base stamp := by
  rw [alarmPayload_toFields] at written
  cases shown : stampText (.int r.timestampMs) with
  | error f =>
    rw [shown] at written
    cases written
  | ok stamp =>
    rw [shown] at written
    cases written
    exact ⟨stamp, rfl⟩

/-- There is a payload exactly if the time of the log lies in the calendar. -/
theorem exists_payload_iff (r : LogEntry) (logId name base : String) :
    (∃ payload, alarmPayload r.toFields logId name base = .ok payload) ↔
      InCalendar r.timestampMs := by
  rw [← stampText_int_iff, alarmPayload_toFields]
  cases stampText (.int r.timestampMs) <;> simp

end Logbook.LogEntry
