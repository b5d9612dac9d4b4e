import Logbook.Json.Text
import Logbook.Query.Search

/-!
# Queries as they are given

A query of the index whose parts are any values. Nothing is tested before it is needed: a part that
is no list of entries, an entry of another size, a page that is no number or a sort directive that
is no text is found out when the line for people or the request for the index is written, and as it
is there that a query fails, both say in which order.
-/

namespace Logbook

namespace Json

/-- What a value consists of where it is gone through: the items of a list, the names of the fields
of an object, the characters of a text. -/
def elements : Json → Except Fault (List Json)
  | .arr xs => .ok xs
  | .obj fs => .ok (fs.map fun (k, _) => .str k)
  | .str s => .ok (s.toList.map fun c => .str (String.singleton c))
  | _ => .error .wrongType

/-- The name of a field that a value stands for. -/
def fieldName : Json → Except Fault String
  | .str s => .ok s
  | .null => .ok "null"
  | .bool b => .ok (if b then "true" else "false")
  | .arr _ => .error .wrongType
  | .obj _ => .error .wrongType
  | v => .ok v.display

/-- A truth value as the integer that it counts as; other values as they are. -/
def counted : Json → Json
  | .bool b => .int (if b then 1 else 0)
  | v => v

/-- The number before a number. -/
def predecessor (v : Json) : Except Fault Json :=
  match v.counted with
  | .int n => .ok (.int (n - 1))
  | .float x => .ok (.float (x.minus 1))
  | _ => .error .wrongType

/-- The double nearest to an integer. -/
def toDouble (n : Int) : Except Fault Double :=
  let x := Double.ofQuotient n 1
  if x.isFinite then .ok x else .error .outOfRange

/-- The product of a number and a value; that of an integer and a text or list repeats it. -/
def product (v w : Json) : Except Fault Json :=
  match v.counted, w.counted with
  | .int n, .int k => .ok (.int (n * k))
  | .int n, .float x => do return .float ((← toDouble n).product x)
  | .float x, .int n => do return .float (x.product (← toDouble n))
  | .float x, .float y => .ok (.float (x.product y))
  | .int n, .str s => .ok (.str (String.ofList (List.replicate n.toNat s.toList).flatten))
  | .int n, .arr xs => .ok (.arr (List.replicate n.toNat xs).flatten)
  | _, _ => .error .wrongType

end Json

/-- A query of the index as it is given. -/
structure GivenQuery where
  text : Json := .str "*"
  textFields : Json := .arr []
  equal : Json := .arr []
  bounds : Json := .arr []
  sortBy : Json := .str "timestamp_ms:desc"
  page : Json := .int 1
  perPage : Json := .int 50
  allWords : Json := .null
  textFilter : Option SurfaceFilter := none

/-- The parts of an entry that has to have `n` of them. -/
def entryParts (n : Nat) (entry : Json) : Except Fault (List Json) := do
  let parts ← entry.elements
  if parts.length = n then return parts else throw .badValue

/-- What becomes of a wanted value: of the name of a field and the value. -/
def onEqual {α : Type} (f : Json → Json → Except Fault α) (entry : Json) : Except Fault α := do
  match ← entryParts 2 entry with
  | [name, value] => f name value
  | _ => throw .badValue

/-- What becomes of a bound: of the name of a field, the comparison and the value. -/
def onBound {α : Type} (f : Json → Json → Json → Except Fault α) (entry : Json) :
    Except Fault α := do
  match ← entryParts 3 entry with
  | [name, comparison, value] => f name comparison value
  | _ => throw .badValue

namespace GivenQuery

/-- The names that the parts of a query have. -/
def partNames : List String := ["q", "query_by", "filter_by", "range_by", "sort_by", "page",
  "per_page", "use_boolean_and", "text_filter"]

/-- The query of some parts by name; its text filter is given beside them. -/
def ofFields (fs : Fields) (textFilter : Option SurfaceFilter) : Except Fault GivenQuery := do
  if !(fs.all fun (k, _) => k ∈ partNames) then throw .wrongType
  let d : GivenQuery := {}
  let part (name : String) (absent : Json) := (fs.lookup name).getD absent
  return ⟨part "q" d.text, part "query_by" d.textFields, part "filter_by" d.equal,
    part "range_by" d.bounds, part "sort_by" d.sortBy, part "page" d.page,
    part "per_page" d.perPage, part "use_boolean_and" d.allWords, textFilter⟩

/-- A query as one that is given. -/
def ofQuery (q : IndexQuery) : GivenQuery where
  text := .str q.text
  textFields := Json.strings q.textFields
  equal := .arr (q.equal.map fun (f, v) => .arr [.str f, v])
  bounds := .arr (q.bounds.map fun b => .arr [.str b.field, .str b.comparison, b.value])
  sortBy := .orNull .str q.sortBy
  page := .int q.page
  perPage := .int q.perPage
  allWords := .orNull .bool q.allWords
  textFilter := q.textFilter

/-- The structured part of the query for people. -/
def clauseText (q : GivenQuery) : Except Fault String := do
  let equal ← (← q.equal.elements).mapM (onEqual fun name value =>
    return IndexQuery.equalText (name.display, value))
  let bounds ← (← q.bounds.elements).mapM (onBound fun name comparison value =>
    return IndexQuery.boundText ⟨name.display, comparison.display, value⟩)
  return " && ".intercalate (equal ++ bounds)

/-- The wanted values of the query. -/
def equalities (q : GivenQuery) : Except Fault (List (String × Json)) := do
  (← q.equal.elements).mapM (onEqual fun name value => return (← name.fieldName, value))

/-- The bounds of the query. -/
def boundList (q : GivenQuery) : Except Fault (List Bound) := do
  (← q.bounds.elements).mapM (onBound fun name comparison value =>
    return ⟨← name.fieldName, comparison.display, value⟩)

/-- The text part of the request. -/
def textPart (q : GivenQuery) : Json :=
  if q.textFilter.isNone then .obj [("match_all", .obj [])]
  else .obj [("query_string", .obj [("query", q.text), ("fields", q.textFields),
    ("default_operator", .str (if q.allWords.truthy then "AND" else "OR")),
    ("analyze_wildcard", .bool true), ("allow_leading_wildcard", .bool true)])]

/-- The sort directive that the request has, if it has one. -/
def sortPart (q : GivenQuery) : Except Fault (Option (String × String)) :=
  if q.textFilter.isSome || !q.sortBy.truthy then .ok none
  else match q.sortBy with
    | .str s => some <$> IndexQuery.sortParts s
    | _ => .error .noOperation

/-- The request for a page. -/
def body (q : GivenQuery) (page perPage : Json) : Except Fault Json := do
  let page := page.orElse q.page
  let perPage := perPage.orElse q.perPage
  let equal ← q.equalities
  let bounds ← q.boundList
  let clauses := ({ equal := equal, bounds := bounds } : IndexQuery).clauses
  let start ← (← page.predecessor).product perPage
  let sort ← q.sortPart
  return .obj ([("query", .obj [("bool", .obj [("must", .arr [q.textPart]),
      ("filter", .arr (clauses.map (·.toJson)))])]),
    ("from", start), ("size", perPage), ("track_total_hits", .bool true)] ++
    sort.toList.map fun (f, d) => ("sort", .arr [.obj [(f, .obj [("order", .str d)])]]))

/-- The query as it is answered, with the request for a page. -/
def answer (q : GivenQuery) (page perPage : Json) : Except Fault Json := do
  let clause ← q.clauseText
  let body ← q.body page perPage
  return .obj [("q", q.text), ("query_by", q.textFields), ("filter_by", q.equal),
    ("range_by", q.bounds), ("sort_by", q.sortBy), ("page", q.page), ("per_page", q.perPage),
    ("use_boolean_and", q.allWords), ("text_filter", .orNull SurfaceFilter.toJson q.textFilter),
    ("clause", .str clause), ("body", body)]

/-- A number of pages or of items on them, if it is an integer. -/
def count (absent : Int) : Json → Int
  | .int n => n
  | _ => absent

/-- The query, if its requests can be written. -/
def query (q : GivenQuery) (pageSize : Int) : Except Fault IndexQuery := do
  let _ ← q.body (.int 1) (.int pageSize)
  return {
    text := q.text.display
    textFields := match q.textFields with
      | .arr xs => xs.map (·.display)
      | _ => []
    equal := ← q.equalities
    bounds := ← q.boundList
    sortBy := match q.sortBy with
      | .str s => some s
      | _ => none
    page := count 1 q.page
    perPage := count 50 q.perPage
    allWords := some q.allWords.truthy
    textFilter := q.textFilter }

end GivenQuery

end Logbook
