import Logbook.Log.Record
import Logbook.Query.Lowering
import Logbook.Query.Params
import Logbook.Sorting
import Logbook.Store.Column
import Logbook.Time.Window

/-!
# The primary store

Projects and logs. It has the last word on which logs there are: everything else is derived
from it. A selection names logs of one project by values and by time.
-/

namespace Logbook

/-- A project. Its alarm rules are kept as they were given. -/
structure Project where
  id : String
  slug : String
  name : String
  alarms : Json
  deriving DecidableEq, Repr

namespace Project

/-- The fields of a project. -/
def fieldNames : List String := ["id", "project_id", "name", "alarms", "created_at"]

/-- The project that is stored for some fields. Every column takes what it can, and those of the
texts may not be left empty. -/
def ofFields (fs : Fields) : Except Fault Project := do
  if !(fs.all fun (k, _) => k ∈ fieldNames) then throw .wrongType
  let id ← Column.text (fs.get "id")
  let slug ← Column.text (fs.get "project_id")
  let name ← Column.text (fs.get "name")
  match id, slug, name with
  | .str id, .str slug, .str name =>
    return ⟨id, slug, name, Column.json ((fs.lookup "alarms").getD (.arr []))⟩
  | _, _, _ => throw .constraint

end Project

/-- The projects and logs, in order of insertion. -/
structure Primary where
  projects : List Project := []
  records : List LogEntry := []
  /-- Does the database hold texts to the widths of their columns? Not every one does. -/
  holdsWidths : Bool := false
  deriving DecidableEq, Repr

/-- Logs of one project. -/
structure Selection where
  projectId : String
  level : Option Wanted := none
  environment : Option Wanted := none
  hostname : Option Wanted := none
  logType : Option Wanted := none
  bounds : TimeSpan := {}
  deriving DecidableEq, Repr

namespace Wanted

/-- Does the wish for a value put a condition on a column? An empty text or list does not. -/
def isGiven : Wanted → Bool
  | one s => s != ""
  | many ss => !ss.isEmpty

/-- Is a value of a column wanted? -/
def takes (w : Wanted) (v : Json) : Bool :=
  match w with
  | one s => v == .str s
  | many ss => ss.any fun s => v == .str s

/-- Does a column satisfy the wish for a value, if there is one? -/
def admits (w : Option Wanted) (v : Json) : Bool :=
  match w.filter isGiven with
  | none => true
  | some w => w.takes v

end Wanted

namespace Selection

/-- Is a log selected? -/
def takes (s : Selection) (r : LogEntry) : Bool :=
  r.projectId == s.projectId && Wanted.admits s.level (.str r.level) &&
    Wanted.admits s.environment (.str r.environment) && Wanted.admits s.hostname r.hostname &&
    Wanted.admits s.logType (.str r.logType.name) && s.bounds.contains r.timestampMs

/-- The bounds have to fit into the column of the time. -/
def check (s : Selection) : Except Fault Unit :=
  if s.bounds.least.all Word.holds && s.bounds.greatest.all Word.holds then .ok ()
  else .error .outOfRange

end Selection

/-- The logs that a search selects by values and time. -/
def SearchParams.selection (p : SearchParams) : Selection where
  projectId := p.projectId
  level := p.level
  environment := p.environment
  hostname := p.hostname
  logType := p.logType.map .one
  bounds := ⟨p.minTimestampMs, p.maxTimestampMs⟩

/-- The log as its columns keep it. -/
def LogEntry.inColumns (r : LogEntry) : Except Fault LogEntry := do
  let hostname ← Column.text r.hostname
  let rawStackTrace ← Column.text r.rawStackTrace
  let detailString ← Column.text r.detailString
  let timestampMs ← Column.integer r.timestampMs
  return { r with
    hostname := hostname
    rawStackTrace := rawStackTrace
    detailString := detailString
    request := Column.json r.request
    timestampMs := timestampMs }

/-- The texts of a project with the widths of their columns. -/
def Project.widths (p : Project) : List (String × Nat) :=
  [(p.id, 32), (p.slug, 100), (p.name, 255)]

/-- The texts of a log with the widths of their columns, but for its identifier, whose column has
just the width of one. -/
def LogEntry.widths (r : LogEntry) : List (String × Nat) :=
  let hostname := match r.hostname with
    | .str s => s
    | _ => ""
  [(r.projectId, 100), (r.projectObjectId, 32), (r.logType.name, 20), (r.level, 20),
    (r.environment, 50), (hostname, 255)]

namespace Primary

/-- Texts that are no longer than their columns are wide, where that counts. -/
def fits (widths : List (String × Nat)) (db : Primary) : Bool :=
  !db.holdsWidths || widths.all fun (s, n) => s.length ≤ n

/-- The store with one more project, whose identifier and slug have to be new. -/
def insertProject (p : Project) (db : Primary) : Except Fault Primary :=
  if !db.fits p.widths then .error .column
  else if db.projects.any fun q => q.id == p.id || q.slug == p.slug then .error .constraint
  else .ok { db with projects := db.projects ++ [p] }

/-- The project with a slug. -/
def project (slug : String) (db : Primary) : Except Fault Project :=
  match db.projects.find? (·.slug == slug) with
  | some p => .ok p
  | none => .error (.problem (.noProject slug))

/-- The project that a value names. Only a text column's value can name one. -/
def projectOf (slug : Json) (db : Primary) : Except Fault Project :=
  match Column.text slug with
  | .ok (.str s) => match db.project s with
    | .ok p => .ok p
    | .error _ => .error (.problem (.noProject slug.display))
  | .ok _ => .error (.problem (.noProject slug.display))
  | .error f => .error f

/-- The store with one more log. -/
def insert (r : LogEntry) (db : Primary) : Except Fault Primary := do
  let r ← r.inColumns
  if !db.fits r.widths then throw .column
  if db.records.any (·.id == r.id) then throw .constraint
  return { db with records := db.records ++ [r] }

/-- The log with an identifier. -/
def get? (id : String) (db : Primary) : Option LogEntry :=
  db.records.find? (·.id == id)

/-- The selected logs in order of insertion. -/
def selected (s : Selection) (db : Primary) : List LogEntry :=
  db.records.filter s.takes

/-- The selected logs, the newest first; of those of one time the one stored last. -/
def find (s : Selection) (db : Primary) : Except Fault (List LogEntry) := do
  s.check
  return sortBy (fun a b => b.timestampMs ≤ a.timestampMs) (db.selected s).reverse

/-- The identifiers of the selected logs. -/
def findIds (s : Selection) (db : Primary) : Except Fault (List String) := do
  s.check
  return (db.selected s).map (·.id)

/-- The number of logs with one of these identifiers, and the store without them. -/
def deleteIds (ids : List String) (db : Primary) : Nat × Primary :=
  ((db.records.filter fun r => ids.contains r.id).length,
    { db with records := db.records.filter fun r => !ids.contains r.id })

end Primary

end Logbook
