import Logbook.Query.Params
import Logbook.Query.Search
import Logbook.Query.Text

/-!
# From parameters to an index query

Values that were not given, and empty texts among several values, put no condition on a field. A
filter on a surface becomes the text query; without one the results are sorted.
-/

namespace Logbook

/-- The fields that results may be sorted by. -/
inductive SortField where
  | timestamp
  | created
  | level
  | environment
  deriving DecidableEq, Repr

/-- The names of the sort fields. -/
def SortField.names : List (String × SortField) :=
  [("timestamp_ms", .timestamp), ("created_at", .created), ("level", .level),
    ("environment", .environment)]

/-- What results are sorted by: a field, upward or downward. -/
structure SortOrder where
  field : SortField
  descending : Bool
  deriving DecidableEq, Repr

/-- The directive for the newest first. -/
def newestFirst : String := "timestamp_ms:desc"

/-- The order that a directive names. -/
def SortOrder.ofText? (directive : String) : Option SortOrder :=
  match Text.splitOn [':'] directive.toList with
  | [f, d] => do
    let field ← SortField.names.lookup (String.ofList f)
    let descending ← [("asc", false), ("desc", true)].lookup (String.ofList d)
    return ⟨field, descending⟩
  | _ => none

/-- A directive that names an order; the default where none is given. -/
def sortDirective (directive : Option String) : Except Fault String :=
  match directive.filter (· ≠ "") with
  | none => .ok newestFirst
  | some d => if (SortOrder.ofText? d).isSome then .ok d else .error (.problem (.badSort d))

/-- The condition on a field that wanted values stand for, if they stand for one. -/
def Wanted.condition? : Wanted → Option Json
  | .one s => if s = "" then none else some (.str s)
  | .many ss => match ss.filter (· ≠ "") with
    | [] => none
    | kept => some (Json.strings kept)

namespace SearchParams

/-- The values that fields must have. -/
def equalities (p : SearchParams) : List (String × Json) :=
  ("project_id", .str p.projectId) ::
    [("level", p.level), ("environment", p.environment), ("hostname", p.hostname),
      ("log_type", p.logType.map .one)].filterMap fun (f, w) =>
        (w.bind Wanted.condition?).map (f, ·)

/-- The bounds on the time. -/
def timeBounds (p : SearchParams) : List Bound :=
  (p.minTimestampMs.toList.map fun t => ⟨"timestamp_ms", ">=", .int t⟩) ++
    p.maxTimestampMs.toList.map fun t => ⟨"timestamp_ms", "<=", .int t⟩

/-- The query of the index that answers a search. -/
def query (p : SearchParams) : Except Fault IndexQuery := do
  let q : IndexQuery := {
    equal := p.equalities, bounds := p.timeBounds, page := p.page, perPage := p.pageSize }
  match p.textFilter? with
  | none => return { q with sortBy := some (← sortDirective p.sortBy) }
  | some t => return { q with
      text := String.ofList (QueryText.ofFilter t.filter)
      textFields := t.surface.indexFields
      allWords := some (t.filter.connective == .and)
      textFilter := some t
      sortBy := none }

end SearchParams

end Logbook
