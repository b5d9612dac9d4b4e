import Logbook.Alarm.Metadata
import Logbook.Phrase.Surface
import Logbook.Time.Stamp

/-!
# Alarm payloads

What an alarm says, whatever the way of its delivery: a few fields of the log, the name of its
project, its texts, a link and the flattened metadata of its request.
-/

namespace Logbook

/-- A text without slashes at its end. -/
def withoutSlashes (s : String) : String :=
  String.ofList (Text.dropTail (· == '/') s.toList)

/-- The link to a log. -/
def logLink (baseUrl : String) (projectId : Json) (logId : String) : String :=
  withoutSlashes baseUrl ++ "/projects/" ++ projectId.display ++ "/logs/" ++ logId

/-- The payload of an alarm for a log. -/
def alarmPayload (log : Fields) (logId projectName baseUrl : String) : Except Fault Fields := do
  let timestamp ← stampText (log.get "timestamp_ms")
  return [("logId", .str logId), ("projectId", log.get "project_id"),
    ("projectName", .str projectName), ("level", log.get "level"),
    ("environment", log.get "environment"), ("logType", log.get "log_type"),
    ("message", messageValue log), ("timestamp", .str timestamp),
    ("hostname", (log.get "hostname").orElse (.str "")), ("stackTrace", .str (stackTraceText log)),
    ("link", .str (logLink baseUrl (log.get "project_id") logId)),
    ("request", .obj ((metadataLeaves (log.get "request")).map fun (k, v) => (k, .str v)))]

end Logbook
