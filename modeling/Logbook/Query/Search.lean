import Logbook.Phrase.Surface
import Logbook.Query.Clause

/-!
# Index queries

A query has a text part, a conjunction of values and bounds, a sort directive and a page.
`IndexQuery.body` turns it into the request that the index receives, `IndexQuery.clauseText`
into a line for people.
-/

namespace Logbook

/-- A bound on a field: the comparison as it is written, and the value. -/
structure Bound where
  field : String
  comparison : String
  value : Json
  deriving DecidableEq, Repr

namespace Bound

/-- Every comparison but `>=` bounds the field above. -/
def isLower (b : Bound) : Bool := b.comparison == ">="

end Bound

/-- A query of the search index. -/
structure IndexQuery where
  text : String := "*"
  textFields : List String := []
  equal : List (String × Json) := []
  bounds : List Bound := []
  sortBy : Option String := some "timestamp_ms:desc"
  page : Int := 1
  perPage : Int := 50
  allWords : Option Bool := none
  textFilter : Option SurfaceFilter := none
  deriving DecidableEq, Repr

/-- A text query as the index receives it. -/
structure TextQuery where
  text : String
  fields : List String
  allWords : Bool
  deriving DecidableEq, Repr

/-- A request to the search index. -/
structure SearchBody where
  text : Option TextQuery := none
  clauses : List Clause := []
  start : Int := 0
  size : Int := 10
  sort : Option (String × String) := none
  deriving DecidableEq, Repr

namespace TextQuery

/-- The text query as the index receives it. -/
def toJson (t : TextQuery) : Json :=
  .obj [("query_string", .obj [("query", .str t.text), ("fields", Json.strings t.fields),
    ("default_operator", .str (if t.allWords then "AND" else "OR")),
    ("analyze_wildcard", .bool true), ("allow_leading_wildcard", .bool true)])]

end TextQuery

namespace SearchBody

/-- The request as the index receives it. -/
def toJson (b : SearchBody) : Json :=
  let must := match b.text with
    | some t => t.toJson
    | none => .obj [("match_all", .obj [])]
  .obj ([("query", .obj [("bool", .obj [("must", .arr [must]),
      ("filter", .arr (b.clauses.map (·.toJson)))])]),
    ("from", .int b.start), ("size", .int b.size), ("track_total_hits", .bool true)] ++
    b.sort.toList.map fun (f, d) => ("sort", .arr [.obj [(f, .obj [("order", .str d)])]]))

end SearchBody

/-- A number that was given and is not zero, else another one. -/
def orPage (n : Option Int) (other : Int) : Int :=
  (n.filter (· ≠ 0)).getD other

namespace IndexQuery

/-- A value that a field must have, or the list of those that it may have. -/
def equalClause : String × Json → Clause
  | (f, .arr vs) => .terms f vs
  | (f, v) => .term f v

/-- Bounds on one field as one clause with the last lower and the last upper bound. -/
def rangeClause (bs : List Bound) (field : String) : Clause :=
  let own := bs.filter (·.field == field)
  .range field ((own.filter (·.isLower)).getLast?.map (·.value))
    ((own.filter (!·.isLower)).getLast?.map (·.value))

/-- The fields with bounds, in order. -/
def boundFields (bs : List Bound) : List String :=
  bs.foldl (fun acc b => if b.field ∈ acc then acc else acc ++ [b.field]) []

/-- The structured clauses of a query. -/
def clauses (q : IndexQuery) : List Clause :=
  q.equal.map equalClause ++ (boundFields q.bounds).map (rangeClause q.bounds)

/-- The field and direction of a sort directive. -/
def sortParts (directive : String) : Except Fault (String × String) :=
  match Text.splitOn [':'] directive.toList with
  | [f, d] => .ok (String.ofList f, String.ofList d)
  | _ => .error .badValue

/-- The request for a page. With a text query the index orders by relevance. -/
def body (q : IndexQuery) (page perPage : Option Int := none) : Except Fault SearchBody := do
  let page := orPage page q.page
  let perPage := orPage perPage q.perPage
  let sort ← match q.sortBy.filter (· ≠ ""), q.textFilter with
    | some directive, none => some <$> sortParts directive
    | _, _ => pure none
  return {
    text := q.textFilter.map fun _ => ⟨q.text, q.textFields, q.allWords.getD false⟩
    clauses := q.clauses
    start := (page - 1) * perPage
    size := perPage
    sort := sort }

/-- A wanted value for people. -/
def equalText : String × Json → String
  | (f, .arr vs) => f ++ ":[" ++ ",".intercalate (vs.map (·.display)) ++ "]"
  | (f, v) => f ++ ":" ++ v.display

/-- A bound for people. -/
def boundText (b : Bound) : String :=
  b.field ++ ":" ++ b.comparison ++ b.value.display

/-- The structured part of the query for people. -/
def clauseText (q : IndexQuery) : String :=
  " && ".intercalate (q.equal.map equalText ++ q.bounds.map boundText)

end IndexQuery

end Logbook
