import Logbook.Phrase.Surface

/-!
# Search parameters

What a search asks for: a project, a page, values that fields must have, bounds on the time, up to
one filter for each surface, and a sort directive. The filter on the whole document wins over the
others, of which the first in the order message, stack trace, details counts.
-/

namespace Logbook

/-- The wanted values of a field. -/
inductive Wanted where
  | one (value : String)
  | many (values : List String)
  deriving DecidableEq, Repr

namespace Wanted

/-- A text or a list of texts in a request. -/
def check : Check Wanted
  | .str s => .good (.one s)
  | .arr xs => match Check.list Check.text (.arr xs) with
    | .good ss => .good (.many ss)
    | .bad is =>
      .bad (⟨[.field "str"], .notText⟩ ::
        is.map fun i => { i with path := .field "list[str]" :: i.path })
  | _ => .bad [⟨[.field "str"], .notText⟩, ⟨[.field "list[str]"], .notList⟩]

/-- The wanted values as they are answered. -/
def toJson : Wanted → Json
  | one s => .str s
  | many ss => Json.strings ss

end Wanted

/-- What a search asks for. -/
structure SearchParams where
  projectId : String
  page : Int := 1
  pageSize : Int := 50
  level : Option Wanted := none
  environment : Option Wanted := none
  hostname : Option Wanted := none
  logType : Option String := none
  minTimestampMs : Option Int := none
  maxTimestampMs : Option Int := none
  docFilter : Option Condition := none
  messageFilter : Option PhraseFilter := none
  stackTraceFilter : Option PhraseFilter := none
  detailsFilter : Option PhraseFilter := none
  sortBy : Option String := none
  deriving DecidableEq, Repr

namespace SearchParams

/-- Parameters in a request. -/
def check : Check SearchParams :=
  Check.object fun fs => SearchParams.mk <$> Check.required "project_id" Check.text fs <*>
    Check.defaulted "page" 1 (Check.integerFrom 1) fs <*>
    Check.defaulted "page_size" 50 (Check.integerFrom 1) fs <*>
    Check.optionalField "level" Wanted.check fs <*>
    Check.optionalField "environment" Wanted.check fs <*>
    Check.optionalField "hostname" Wanted.check fs <*>
    Check.optionalField "log_type" Check.text fs <*>
    Check.optionalField "min_timestamp_ms" Check.integer fs <*>
    Check.optionalField "max_timestamp_ms" Check.integer fs <*>
    Check.optionalField "doc_filter" Condition.check fs <*>
    Check.optionalField "message_filter" PhraseFilter.check fs <*>
    Check.optionalField "stack_trace_filter" PhraseFilter.check fs <*>
    Check.optionalField "details_filter" PhraseFilter.check fs <*>
    Check.optionalField "sort_by" Check.text fs

/-- The parameters as they are answered. -/
def toJson (p : SearchParams) : Json :=
  .obj [("project_id", .str p.projectId), ("page", .int p.page), ("page_size", .int p.pageSize),
    ("level", .orNull Wanted.toJson p.level), ("environment", .orNull Wanted.toJson p.environment),
    ("hostname", .orNull Wanted.toJson p.hostname), ("log_type", .orNull .str p.logType),
    ("min_timestamp_ms", .orNull .int p.minTimestampMs),
    ("max_timestamp_ms", .orNull .int p.maxTimestampMs),
    ("doc_filter", .orNull Condition.toJson p.docFilter),
    ("message_filter", .orNull PhraseFilter.toJson p.messageFilter),
    ("stack_trace_filter", .orNull PhraseFilter.toJson p.stackTraceFilter),
    ("details_filter", .orNull PhraseFilter.toJson p.detailsFilter),
    ("sort_by", .orNull .str p.sortBy)]

/-- The first filter with conditions among those on one surface. -/
def surfaceFilter? (p : SearchParams) : Option SurfaceFilter :=
  [(Surface.message, p.messageFilter), (.stackTrace, p.stackTraceFilter),
    (.details, p.detailsFilter)].findSome? fun (s, f) =>
      (f.filter (!·.conditions.isEmpty)).map (⟨s, ·⟩)

/-- The filter that the search applies. -/
def textFilter? (p : SearchParams) : Option SurfaceFilter :=
  match p.docFilter with
  | some c => some ⟨.document, ⟨.and, [c]⟩⟩
  | none => p.surfaceFilter?

/-- Is there a filter on the whole document beside one on a surface? -/
def supersedes (p : SearchParams) : Bool :=
  p.docFilter.isSome &&
    (p.messageFilter.isSome || p.stackTraceFilter.isSome || p.detailsFilter.isSome)

/-- What the choice of the filter gives cause to warn of. -/
def warnings (p : SearchParams) : List String :=
  if p.supersedes then
    ["⚠ docFilter supersedes message/stackTrace/details filters for project " ++ p.projectId]
  else []

end SearchParams

end Logbook
