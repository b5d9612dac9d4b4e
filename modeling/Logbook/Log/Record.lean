import Logbook.Json.Basic

/-!
# Log records

A log as it is stored. Its fields by name are `LogEntry.toFields`; filters, alarms and the search
index work on those.
-/

namespace Logbook

/-- Who writes a log. -/
inductive LogType where
  | application
  | system
  deriving DecidableEq, Repr

namespace LogType

/-- The name of a log type. -/
def name : LogType → String
  | application => "application"
  | system => "system"

/-- The log type with this name. -/
def ofJson? : Json → Option LogType
  | .str s => [("application", application), ("system", system)].lookup s
  | _ => none

end LogType

/-- A log. The host name, the raw stack trace, the detail text and the request are kept as they
were sent. -/
structure LogEntry where
  id : String
  projectId : String
  projectObjectId : String := ""
  logType : LogType
  level : String
  environment : String
  hostname : Json
  message : String
  stackTrace : List Json
  rawStackTrace : Json
  details : Fields
  detailString : Json
  request : Json
  timestampMs : Int
  createdAt : String
  deriving DecidableEq, Repr

namespace LogEntry

/-- The fields of a log by name. -/
def toFields (r : LogEntry) : Fields :=
  [("id", .str r.id), ("project_id", .str r.projectId),
    ("project_object_id", .str r.projectObjectId), ("log_type", .str r.logType.name),
    ("level", .str r.level), ("environment", .str r.environment), ("hostname", r.hostname),
    ("message", .str r.message), ("stack_trace", .arr r.stackTrace),
    ("raw_stack_trace", r.rawStackTrace), ("details", .obj r.details),
    ("detail_string", r.detailString), ("request", r.request),
    ("timestamp_ms", .int r.timestampMs), ("created_at", .str r.createdAt)]

/-- The log as it is answered. -/
def toJson (r : LogEntry) : Json :=
  .obj r.toFields

end LogEntry

end Logbook
