import Logbook.Fault
import Logbook.Log.Record
import Logbook.Phrase.Surface
import Logbook.Text.Integer

/-!
# Taking in logs

A payload becomes a record in two steps. `Draft.ofPayload` tests its parts one after the other;
`Draft.record` reads the time stamp. An identifier is drawn between the two, so a payload whose
time stamp is rejected has used one up.
-/

namespace Logbook

/-- The fields that every payload has, neither `null` nor empty. -/
def neededFields : List String := ["level", "environment", "projectId", "message", "timestampMS"]

/-- Is a field of a payload missing? -/
def isBlankValue (v : Json) : Bool :=
  v == .null || v == .str ""

/-- A payload whose parts have passed their tests, but for the time stamp. -/
structure Draft where
  payload : Fields
  logType : LogType
  details : Fields
  stackTrace : List Json

namespace Draft

/-- The tests of a payload, in the order in which they are reported. -/
def ofPayload (payload : Json) : Except Problem Draft :=
  match payload with
  | .obj fs =>
    match neededFields.filter fun f => isBlankValue (Fields.get fs f) with
    | [] =>
      match LogType.ofJson? ((Fields.get fs "logType").orElse (.str "application")) with
      | some logType =>
        match (Fields.get fs "details").orElse (.obj []) with
        | .obj details =>
          match (Fields.get fs "stackTrace").orElse (.arr []) with
          | .arr stackTrace => .ok ⟨fs, logType, details, stackTrace⟩
          | _ => .error .badStackTrace
        | _ => .error .badDetails
      | none => .error .badLogType
    | missing => .error (.missingFields missing)
  | _ => .error .payloadNotObject

end Draft

/-- The number of milliseconds that a time stamp stands for: an integer, a truth value, a number
cut off toward zero, or a text that writes an integer. -/
def readTimestamp : Json → Except Fault Int
  | .bool b => .ok (if b then 1 else 0)
  | .int n => .ok n
  | .float (.infinite _) => .error .outOfRange
  | .float x => match x.truncate? with
    | some n => .ok n
    | none => .error (.problem .badTimestamp)
  | .str s => match Text.integer? s.toList with
    | some n => .ok n
    | none => .error (.problem .badTimestamp)
  | _ => .error (.problem .badTimestamp)

namespace Draft

/-- The record of a payload under an identifier, written at a given time. -/
def record (d : Draft) (id createdAt : String) : Except Fault LogEntry := do
  let timestampMs ← readTimestamp (d.payload.get "timestampMS")
  return {
    id := id
    projectId := (d.payload.get "projectId").display
    logType := d.logType
    level := (d.payload.get "level").display
    environment := (d.payload.get "environment").display
    hostname := d.payload.get "hostname"
    message := (d.payload.get "message").display
    stackTrace := d.stackTrace
    rawStackTrace := d.payload.get "rawStackTrace"
    details := d.details
    detailString := (d.payload.get "detailString").orElse (.str (compactDetails (.obj d.details)))
    request := d.payload.get "request"
    timestampMs := timestampMs
    createdAt := createdAt }

end Draft

/-- The record of a payload. -/
def LogEntry.ofPayload (payload : Json) (id createdAt : String) : Except Fault LogEntry :=
  match Draft.ofPayload payload with
  | .ok d => d.record id createdAt
  | .error p => .error (.problem p)

end Logbook
