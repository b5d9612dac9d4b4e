import Logbook.Query.Request
import Logbook.Site.Deletion
import Logbook.Site.Ingestion
import Logbook.Web.Address

/-!
# The HTTP interface

Four routes: the health of the service, the creation of a log, a search in a project and the purge
of a project. A problem becomes an answer with the status of its category, a malformed request one
with its issues; every other fault is left to the server. What is answered is JSON, so an answer with
an infinity or a NaN is no answer at all; a body is read as generously as all JSON.
-/

namespace Logbook

/-- A request. Its path is an address, of which the path and the query count; pairs that are given
stand for the query. -/
structure HttpRequest where
  method : String
  path : String
  query : Option (List (String × String)) := none
  body : Option Json := none
  deriving DecidableEq, Repr

/-- An answer. -/
structure HttpReply where
  status : Nat
  body : Json
  deriving DecidableEq, Repr

/-- The routes. -/
inductive Route where
  | health
  | create
  | search (projectId : String)
  | purge (projectId : String)
  deriving DecidableEq, Repr

namespace Route

/-- Is the last piece of a path a word? A line break may follow it. -/
def isLast (word piece : String) : Bool :=
  piece == word || piece == word ++ "\n"

/-- The route of a path. -/
def ofPath? (path : List Char) : Option Route :=
  match (Text.splitOn ['/'] path).map String.ofList with
  | ["", h] => if isLast "health" h then some .health else none
  | ["", "api", "v1", l] => if isLast "logs" l then some .create else none
  | ["", "api", "v1", "logs", p] => if p = "" then none else some (.purge p)
  | ["", "api", "v1", "logs", p, s] =>
    if p != "" && isLast "search" s then some (.search p) else none
  | _ => none

/-- The method of a route. -/
def method : Route → String
  | .health => "GET"
  | .create => "POST"
  | .search _ => "POST"
  | .purge _ => "DELETE"

end Route

namespace HttpRequest

/-- The path of a request with its escapes resolved, and the pairs of its query. -/
def target (r : HttpRequest) : Except Fault (List Char × List (String × String)) := do
  let a ← WebAddress.ofText r.path
  let path := Web.straight (if a.isAbsolute then a else a.fromRoot).path
  return (Web.unescaped (if path.isEmpty then ['/'] else path),
    r.query.getD (Web.queryPairs (a.query.getD [])))

end HttpRequest

mutual

/-- A value without the fields that stores keep for themselves, whose names begin with `_sa`. -/
def Json.published : Json → Json
  | .arr xs => .arr (publishedItems xs)
  | .obj fs => .obj (publishedFields fs)
  | v => v

/-- `Json.published` on lists. -/
def publishedItems : List Json → List Json
  | [] => []
  | v :: r => v.published :: publishedItems r

/-- `Json.published` on fields. -/
def publishedFields : Fields → Fields
  | [] => []
  | (k, v) :: r =>
    if ['_', 's', 'a'].isPrefixOf k.toList then publishedFields r
    else (k, v.published) :: publishedFields r

end

namespace HttpReply

/-- The answer of a request that succeeds. -/
def success (status : Nat) (body : Json) : HttpReply :=
  ⟨status, body.published⟩

/-- A step of a path as it is answered. -/
def stepJson : Step → Json
  | .field name => .str name
  | .item i => .int i

/-- An issue as it is answered, seen from the request. -/
def issueJson (i : Issue) : Json :=
  .obj [("loc", .arr (.str "body" :: i.path.map stepJson)), ("msg", .str i.complaint.message)]

/-- The answer to a malformed request. -/
def rejected (issues : List Issue) : HttpReply where
  status := 400
  body := .obj [("error", .str Category.input.code), ("message", .str "Invalid request"),
    ("detail", .arr (issues.map issueJson))]

/-- The answer that explains a problem. -/
def explained (p : Problem) : HttpReply where
  status := p.category.status
  body := .obj [("error", .str p.category.code), ("message", .str p.message),
    ("detail", .orNull .str p.detail)]

/-- The answer where there is no route. -/
def notFound : HttpReply :=
  ⟨404, .obj [("detail", .str "Not Found")]⟩

/-- The answer where there is a route for another method. -/
def notAllowed : HttpReply :=
  ⟨405, .obj [("detail", .str "Method Not Allowed")]⟩

end HttpReply

namespace Site

/-- The state of a service that can be done without. -/
def stateWord (available : Bool) : Json :=
  .str (if available then "connected" else "disabled")

/-- The health of the service. -/
def health (s : Site) : Json :=
  .obj [("status", .str "healthy"), ("services", .obj [("primary_store", .str "connected"),
    ("search_index", stateWord s.index.isOpen),
    ("cache", stateWord s.desk.cache.isOpen)])]

/-- Creates a log, or queues it. A payload that would be rejected is not queued. -/
def create (payload : Json) : Act Site HttpReply := do
  let s ← get
  if s.queued then
    let _ ← prepare payload
    let id ← onStream (Stream.enqueue payload)
    return ⟨202, .obj [("message", .str "Log queued"), ("messageId", .str id)]⟩
  else
    let r ← ingest payload
    return .success 201 (.obj [("message", .str "Log created successfully"), ("log", r.toJson)])

/-- Answers a search. -/
def search (p : SearchParams) : Act Site ResultPage := do
  let s ← get
  onIndex (searchProject s.primary s.scanLimits p)

/-- Answers a search request in a project. -/
def answerSearch (projectId : String) (r : SearchRequest) : Act Site HttpReply := do
  let bounds ← ask fun s => requireBounds s.now r.lookbackTime r.timeRange
  let page ← search (r.params projectId bounds)
  return .success 200 (← Act.ofExcept page.toJson)

/-- The value of a name in a query: the last one counts. -/
def lastOf (query : List (String × String)) (name : String) : Option String :=
  query.reverse.lookup name

/-- Purges a project. -/
def answerPurge (projectId : String) (query : List (String × String)) : Act Site HttpReply := do
  let value := lastOf query
  let n ← purge projectId ((value "level").map .one) ((value "environment").map .one)
    (value "lookbackTime") (value "timeRange")
  return .success 200 (.obj [("deletedCount", .int n)])

/-- The body of a request that satisfies a check. -/
def withBody {α : Type} (body : Option Json) (check : Check α) (f : α → Act Site HttpReply) :
    Act Site HttpReply :=
  match body with
  | none => return .rejected [⟨[], .missing⟩]
  | some v => match check v with
    | .good a => f a
    | .bad is => return .rejected is

/-- Any object. -/
def payloadCheck : Check Json
  | .obj fs => .good (.obj fs)
  | _ => .wrong .notMapping

/-- What a route does with the pairs of a query and a body. -/
def follows (query : List (String × String)) (body : Option Json) : Route → Act Site HttpReply
  | .health => return .success 200 (← get).health
  | .create => withBody body payloadCheck create
  | .search projectId => withBody body SearchRequest.check (answerSearch projectId)
  | .purge projectId => answerPurge projectId query

/-- Answers a request on a route. -/
def respondOn (route : Route) (query : List (String × String)) (body : Option Json) :
    Act Site HttpReply := do
  let reply ← tryCatch (follows query body route) fun
    | .problem p => return .explained p
    | f => throw f
  if reply.body.hasUnbounded then throw .badValue
  return reply

/-- Answers a request. -/
def respond (r : HttpRequest) : Act Site HttpReply := do
  let (path, query) ← Act.ofExcept r.target
  match Route.ofPath? path with
  | none => return .notFound
  | some route =>
    if route.method ≠ uppered r.method then return .notAllowed
    respondOn route query r.body

end Site

end Logbook
