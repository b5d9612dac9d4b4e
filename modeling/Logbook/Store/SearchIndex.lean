import Logbook.Act
import Logbook.Log.Document
import Logbook.Query.Page
import Logbook.Query.Search
import Logbook.Sorting
import Logbook.Store.Link

/-!
# The search index

Documents by key, in the order in which their keys came. A search keeps the documents that
satisfy its clauses, sorts them if it is asked to, and answers their number and a window of them;
its text query may let through more than it asks for, and here it lets everything through. Calls
fail as an `Outage` says, which is none for a healthy index.
-/

namespace Logbook

/-- What the index may be asked. -/
inductive IndexCall where
  | search
  | put
  | erase
  deriving DecidableEq, Repr

/-- The index and the connection to it. -/
structure SearchIndex where
  link : Link := .ready
  /-- The name of the index that the logs are in. -/
  name : String := "logs"
  documents : List (String × Fields) := []
  /-- The searches received since they were last asked for, latest first. -/
  received : List Json := []
  /-- The names of the indexes that exist. -/
  names : List String := ["logs"]
  calls : Nat := 0
  outage : Outage IndexCall := fun _ _ => none

/-- The answer to a search: how many documents were found, and some of them. -/
structure Hits where
  total : Int
  documents : List Fields
  deriving DecidableEq, Repr

/-- The value of a field that documents are sorted by; zero where it does not count as given. -/
def sortValue (field : String) (doc : Fields) : Json :=
  (doc.get field).orElse (.int 0)

/-- Do all values lie on one scale: are all numbers, and none NaN, or all texts? -/
def onOneScale (vs : List Json) : Bool :=
  (vs.all fun v => v.magnitude?.isSome) || vs.all fun v => match v with
    | .str _ => true
    | _ => false

/-- Is the first value not after the second, on one scale? -/
def Json.atMost (v w : Json) : Bool :=
  match w.isBelow v with
  | .ok b => !b
  | .error _ => true

namespace SearchIndex

/-- Is the index in use and connected? -/
def isOpen (ix : SearchIndex) : Bool :=
  ix.link.isOpen

/-- The documents among some that satisfy all clauses. -/
def passing (clauses : List Clause) : List Fields → Except Fault (List Fields)
  | [] => .ok []
  | doc :: r => do
    let keep ← Clause.acceptsAll doc clauses
    let rest ← passing clauses r
    return if keep then doc :: rest else rest

/-- Documents in the order that a search asks for. Documents with equal values keep their order,
downward as well. Values that lie on no one scale are compared pair by pair, as far as that can be
done. -/
def sorted (sort : Option (String × String)) (docs : List Fields) : Except Fault (List Fields) :=
  match sort with
  | none => .ok docs
  | some (field, direction) =>
    let value := sortValue field
    if onOneScale (docs.map value) then
      if direction = "desc" then .ok (sortBy (fun a b => (value b).atMost (value a)) docs)
      else .ok (sortBy (fun a b => (value a).atMost (value b)) docs)
    else
      let before (a b : Fields) := (value a).isBelow (value b)
      if direction = "desc" then List.reverse <$> trySort before docs.reverse
      else trySort before docs

/-- The answer to a search among some documents. -/
def answer (body : SearchBody) (docs : List Fields) : Except Fault Hits := do
  let found ← sorted body.sort (← passing body.clauses docs)
  return ⟨found.length, window found body.start (body.start + body.size)⟩

/-- The documents without their keys. -/
def contents (ix : SearchIndex) : List Fields :=
  ix.documents.map (·.2)

/-- The connection; without one no call is made. -/
def require : Act SearchIndex Unit := do
  if !(← get).isOpen then throw (.problem .indexClosed)

/-- One call of the index, which may fail. -/
def call (c : IndexCall) : Act SearchIndex Unit := do
  let ix ← get
  set { ix with calls := ix.calls + 1 }
  match ix.outage ix.calls c with
  | some f => throw f
  | none => pure ()

/-- The fault of a call as users of the index see it: `p` for what a network may do. -/
def explained (p : Problem) (f : Fault) : Fault :=
  match f with
  | .unreachable | .transport => .problem p
  | f => f

/-- Runs a call of the index, with network faults explained. -/
def explaining {α : Type} (p : Problem) (a : Act SearchIndex α) : Act SearchIndex α :=
  tryCatch a fun f => throw (explained p f)

/-- A search that is recorded as it is given, and then read. -/
def searchAs (received : Json) (body : Except Fault SearchBody) : Act SearchIndex Hits := do
  require
  explaining .indexQueryFailed do
    call .search
    modify fun ix => { ix with received := received :: ix.received }
    let body ← Act.ofExcept body
    Act.ofExcept (answer body (← get).contents)

/-- A search. -/
def search (body : SearchBody) : Act SearchIndex Hits :=
  searchAs body.toJson (.ok body)

/-- Puts a document under a key. -/
def putDocument (key : String) (doc : Fields) (ix : SearchIndex) : SearchIndex :=
  { ix with documents := Keyed.put key doc ix.documents }

/-- Puts the document of a log under the identifier of the log. -/
def put (log : Fields) : Act SearchIndex Unit := do
  require
  let doc := documentOf log
  let id := (doc.get "id").display
  explaining (.notIndexed id) (call .put)
  modify (putDocument id doc)

/-- Removes a document; was there one? -/
def erase (id : String) : Act SearchIndex Bool := do
  require
  call .erase
  let ix ← get
  set { ix with documents := Keyed.erase id ix.documents }
  return (ix.documents.lookup id).isSome

/-- Creates the index unless it exists. -/
def ensure : Act SearchIndex (List String) := do
  require
  let ix ← get
  let names := if ix.name ∈ ix.names then ix.names else ix.names ++ [ix.name]
  set { ix with names := names }
  return names

end SearchIndex

end Logbook
