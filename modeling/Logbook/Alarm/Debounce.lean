import Logbook.Digest.Sha256
import Logbook.Phrase.Condition

/-!
# Debounce keys

Logs that report the same event have the same key: the project, the log type, the environment
and the level, whatever their case, and a digest of the message.
-/

namespace Logbook

/-- The first sixteen digits of the digest of a message; a word where there is no message. -/
def messageDigest (message : String) : String :=
  if message = "" then "no-message"
  else String.ofList ((Digest.sha256Hex message.toUTF8.data.toList).take 16)

/-- The key of an event. -/
def eventKey (projectId logType environment level message : String) : String :=
  ":".intercalate ["alarm", projectId, logType, lowered environment, uppered level,
    messageDigest message]

/-- The key of values that ought to be texts. -/
def keyOfValues (projectId logType environment level message : Json) : Except Fault String := do
  let environment ← environment.needText .noOperation
  let level ← level.needText .noOperation
  let message ← message.asText
  let projectId ← projectId.needText .wrongType
  let logType ← logType.needText .wrongType
  return eventKey projectId logType environment level message

/-- The key of a log. -/
def keyOfLog (log : Fields) : Except Fault String :=
  match log.lookup "project_id" with
  | none => .error .missingKey
  | some projectId =>
    keyOfValues projectId ((log.get "log_type").orElse (.str "application"))
      ((log.get "environment").orElse (.str "")) ((log.get "level").orElse (.str ""))
      (log.get "message")

end Logbook
