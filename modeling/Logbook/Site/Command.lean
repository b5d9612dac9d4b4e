import Logbook.Site.Http
import Logbook.Site.Worker

/-!
# Commands

Everything that can be asked of a site, one command for each: the operations of the service and of
its parts, and what happens around it, such as the passing of time or the failing of a backing
service. `Site.report` runs one and says what it left behind.
-/

namespace Logbook

/-- The backing services that can be disconnected. -/
inductive Backing where
  | index
  | cache
  deriving DecidableEq, Repr

/-- What can be asked of a site. -/
inductive Command where
  | insertProject (fields : Fields)
  | ingest (payload : Json)
  | getLog (id : String)
  | findLogs (conditions : Fields)
  | findIds (conditions : Fields)
  | deleteIds (ids : List String)
  | search (params : SearchParams) (primaryOnly idsOnly : Bool)
  | delete (conditions : Fields)
  | purge (conditions : Fields)
  | eraseFound (query : GivenQuery)
  | alarm (log : Fields) (logId : String)
  | putDocument (key : String) (doc : Fields)
  | documents
  | bodies
  | indexLog (log : Fields)
  | eraseDocument (id : String)
  | searchIndex (received : Json) (body : Except Fault SearchBody)
  | ensureIndex
  | disconnect (backing : Backing)
  | indexOutage (outage : Outage IndexCall)
  | cacheOutage (outage : Outage CacheCall)
  | streamOutage (outage : Outage StreamCall)
  | replies (replies : String → Reply)
  | advance (seconds : Json)
  | cacheGet (key : String)
  | cacheSet (key : String) (value : Json) (seconds : Int)
  | cachePutNew (key : String) (value : Json) (seconds : Int)
  | cacheErase (key : String)
  | request (request : HttpRequest)
  | append (fields : Fields)
  | enqueue (payload : Json)
  | entries
  | receive (count : Nat)
  | acknowledge (ids : List String)
  | claim (minIdle : Int)
  | handle (id : String) (data : Option Fields)
  | work (rounds : Nat)

namespace Stats

/-- The statistics as they are answered. -/
def toJson (s : Stats) : Json :=
  .obj [("processed", .int s.processed), ("dropped", .int s.dropped), ("errors", .int s.errors)]

end Stats

namespace HttpReply

/-- The reply as it is answered. -/
def toJson (r : HttpReply) : Json :=
  .obj [("status", .int r.status), ("body", r.body)]

end HttpReply

namespace StreamEntry

/-- The entry as it is answered. -/
def toJson (e : StreamEntry) : Json :=
  .arr [.str e.id, .obj e.fields]

end StreamEntry

/-- A page as it is answered, with its source and on demand with identifiers alone. -/
def ResultPage.answer (page : ResultPage) (idsOnly : Bool) : Except Fault Json := do
  let logs := page.logs.map fun log => if idsOnly then log.get "id" else .obj log
  return .obj [("logs", .arr logs), ("pagination", ← page.pagination),
    ("source", .str page.source.name)]

namespace Site

variable {α : Type}

/-- An operation on the index of a site that has one. -/
def usingIndex (a : Act SearchIndex α) : Act Site α :=
  onIndex fun ix => if ix.link = .absent then (.error .noOperation, ix) else a ix

/-- A change of the index. -/
def changeIndex (f : SearchIndex → SearchIndex) : Act Site Unit :=
  modify fun s => { s with index := f s.index }

/-- An operation on the cache of a site that has one. -/
def usingCache (f : Cache → α × Cache) : Act Site α :=
  onDesk fun desk =>
    if desk.cache.link = .absent then (.error .noOperation, desk)
    else let (r, cache) := f desk.cache; (.ok r, { desk with cache := cache })

/-- A change of the cache. -/
def changeCache (f : Cache → Cache) : Act Site Unit :=
  modify fun s => { s with desk := { s.desk with cache := f s.desk.cache } }

/-- A change of the stream. -/
def changeStream (f : Stream → α × Stream) : Act Site α :=
  onStream fun t => let (r, t) := f t; (.ok r, t)

/-- The documents with their keys in order. -/
def documentsByKey (s : Site) : List (String × Fields) :=
  sortBy (fun a b => a.1 ≤ b.1) s.index.documents

/-- Runs a command; its result is what is answered to it. -/
def perform : Command → Act Site Json
  | .insertProject fields => do
    let p ← Act.ofExcept (Project.ofFields fields)
    let db ← ask fun s => s.primary.insertProject p
    modify fun s => { s with primary := db }
    return .null
  | .ingest payload => return (← ingest payload).toJson
  | .getLog id => return .orNull LogEntry.toJson ((← get).primary.get? id)
  | .findLogs conditions => do
    let selection ← Act.ofExcept (Selection.ofFields conditions)
    return Json.strings ((← ask fun s => s.primary.find selection).map (·.id))
  | .findIds conditions => do
    let selection ← Act.ofExcept (Selection.ofFields conditions)
    return Json.strings (sortBy (fun a b => a ≤ b) (← ask fun s => s.primary.findIds selection))
  | .deleteIds ids => do
    let (n, db) := (← get).primary.deleteIds ids
    modify fun s => { s with primary := db }
    return .int n
  | .search p primaryOnly idsOnly => do
    let page ← if primaryOnly then ask fun s => s.primary.search p else search p
    Act.ofExcept (page.answer idsOnly)
  | .delete conditions => return .int (← deleteGiven conditions)
  | .purge conditions => return .int (← purgeGiven conditions)
  | .eraseFound q => return .int (← eraseGiven q)
  | .alarm log logId => return .int (← raiseAlarms log logId)
  | .putDocument key doc => do
    changeIndex (SearchIndex.putDocument key doc)
    return .null
  | .documents => return .arr ((← get).documentsByKey.map fun (_, doc) => .obj doc)
  | .bodies => do
    let bodies := (← get).index.received.reverse
    changeIndex fun ix => { ix with received := [] }
    return .arr bodies
  | .indexLog log => do
    usingIndex (SearchIndex.put log)
    return .null
  | .eraseDocument id => return .bool (← usingIndex (SearchIndex.erase id))
  | .searchIndex received body => do
    let hits ← usingIndex (SearchIndex.searchAs received body)
    return .obj [("total", .int hits.total), ("hits", .arr (hits.documents.map .obj))]
  | .ensureIndex => do
    return Json.strings (← usingIndex SearchIndex.ensure)
  | .disconnect .index => do
    usingIndex (modify fun ix => { ix with link := ix.link.disconnected })
    return .null
  | .disconnect .cache => do
    usingCache fun c => ((), { c with link := c.link.disconnected })
    return .null
  | .indexOutage o => do
    changeIndex fun ix => { ix with outage := o }
    return .null
  | .cacheOutage o => do
    changeCache fun c => { c with outage := o }
    return .null
  | .streamOutage o => do
    changeStream fun t => ((), { t with outage := o })
    return .null
  | .replies f => do
    modify fun s => { s with desk := { s.desk with outbox := { s.desk.outbox with replies := f } } }
    return .null
  | .advance seconds => do
    let now ← ask fun s => momentAfter s.now seconds
    modify fun s => { s with now := now }
    return .null
  | .cacheGet key => do
    let s ← get
    usingCache (Cache.get s.clockMs key)
  | .cacheSet key value seconds => do
    let s ← get
    usingCache fun c => (.null, c.set s.clockMs key value seconds)
  | .cachePutNew key value seconds => do
    let s ← get
    return .bool (← usingCache (Cache.putNew s.clockMs key value seconds))
  | .cacheErase key => usingCache fun c => (.null, c.erase key)
  | .request r => return (← respond r).toJson
  | .append fields => return .str (← changeStream (Stream.push fields))
  | .enqueue payload => return .str (← onStream (Stream.enqueue payload))
  | .entries => return .arr ((← get).stream.entries.map (·.toJson))
  | .receive count => do
    let s ← get
    return .arr ((← onStream (Stream.receive s.clockMs count)).map (·.toJson))
  | .acknowledge ids => return .int (← changeStream (Stream.acknowledge ids))
  | .claim minIdle => do
    let s ← get
    return .arr ((← changeStream (Stream.claim s.clockMs minIdle)).map (·.toJson))
  | .handle id data => fun s =>
    let (stored, s) := s.handle ⟨id, data.map Loaded.ofFields⟩
    (.ok (.obj [("handled", .bool stored), ("stats", s.stats.toJson)]), s)
  | .work n => fun s =>
    let (naps, s) := rounds n s
    (.ok (.obj [("sleeps", .arr (naps.map (·.seconds))), ("stats", s.stats.toJson)]), s)

/-- What a command left behind. -/
structure Report where
  result : Except Fault Json
  /-- The identifiers of the stored logs in order. -/
  logs : List String
  /-- The keys of the documents in order. -/
  documents : List String
  /-- The live keys of the cache in order. -/
  keys : List String
  /-- The identifiers of the pending entries. -/
  pending : List String
  /-- The requests sent, by address. -/
  sent : List Request

/-- What an action leaves behind; the outbox is empty before it. -/
def report (a : Act Site Json) (s : Site) : Report × Site :=
  let outbox := { s.desk.outbox with sent := [] }
  let (result, s) := a { s with desk := { s.desk with outbox := outbox } }
  ({ result := result
     logs := sortBy (fun a b => a ≤ b) (s.primary.records.map (·.id))
     documents := s.documentsByKey.map (·.1)
     keys := sortBy (fun a b => a ≤ b) (s.desk.cache.liveKeys s.clockMs)
     pending := s.stream.pending.map (·.entry.id)
     sent := sortBy (fun a b => a.url ≤ b.url) s.desk.outbox.sent }, s)

/-- Actions one after the other, and what each left behind. -/
def reports : List (Act Site Json) → Site → List Report
  | [], _ => []
  | a :: r, s =>
    let (rep, s) := s.report a
    rep :: reports r s

end Site

end Logbook
