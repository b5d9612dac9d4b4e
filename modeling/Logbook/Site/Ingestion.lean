import Logbook.Site.Basic

/-!
# Ingestion

A payload becomes a record of a project in the primary store. Only then is its document put into
the search index and are alarms raised about it. What fails there changes nothing in the result.
-/

namespace Logbook

/-- The index with the document of a stored log, if it is available and takes it. -/
def withDocument (log : Fields) (ix : SearchIndex) : SearchIndex :=
  if ix.isOpen then (SearchIndex.put log ix).2 else ix

namespace Site

/-- Draws an identifier. -/
def draw : Act Site String :=
  fun s => (.ok ("log-" ++ toString (s.drawn + 1)), { s with drawn := s.drawn + 1 })

/-- The record of a payload. An identifier is drawn for every payload but those that are rejected
before their time stamp is read. -/
def prepare (payload : Json) : Act Site LogEntry := do
  match Draft.ofPayload payload with
  | .error p => throw (.problem p)
  | .ok d =>
    let id ← draw
    ask fun s => d.record id s.nowText

/-- Puts a record into the primary store, under its project. -/
def insert (r : LogEntry) : Act Site LogEntry := do
  let project ← ask fun s => s.primary.project r.projectId
  let r := { r with projectObjectId := project.id }
  let db ← ask fun s => s.primary.insert r
  modify fun s => { s with primary := db }
  return r

/-- Raises the alarms for a log under an identifier; how many rules sent theirs? -/
def raiseAlarms (log : Fields) (logId : String) : Act Site Nat := do
  match log.lookup "project_id" with
  | none => throw .missingKey
  | some slug =>
    let project ← ask fun s => s.primary.projectOf slug
    let s ← get
    onDesk (Desk.raiseAlarms s.policy ⟨log, logId, project, s.clockMs⟩)

/-- What follows the storing of a record. -/
def follow (r : LogEntry) : Act Site Unit := do
  modify fun s => { s with index := withDocument r.toFields s.index }
  let _ ← Act.attempt (raiseAlarms r.toFields r.id)

/-- Stores the log of a payload. -/
def ingest (payload : Json) : Act Site LogEntry := do
  let r ← insert (← prepare payload)
  follow r
  return r

end Site

end Logbook
