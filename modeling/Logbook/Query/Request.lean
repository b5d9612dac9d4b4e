import Logbook.Query.Params
import Logbook.Time.Window

/-!
# Search requests

A search as it arrives over HTTP: the parameters of a search under their public names, with a page
of limited size and a time window instead of bounds.
-/

namespace Logbook

/-- The size of pages where none is asked for. -/
def defaultPageSize : Int := 50

/-- The largest size of pages. -/
def maxPageSize : Int := 1000

/-- A search as it arrives. -/
structure SearchRequest where
  page : Int
  pageSize : Int
  level : Option Wanted
  environment : Option Wanted
  hostname : Option Wanted
  logType : Option String
  lookbackTime : Option String
  timeRange : Option String
  docFilter : Option Condition
  message : Option PhraseFilter
  stackTrace : Option PhraseFilter
  details : Option PhraseFilter
  sortBy : Option String
  deriving DecidableEq, Repr

namespace SearchRequest

/-- A search in the body of a request. -/
def check : Check SearchRequest :=
  Check.object fun fs => SearchRequest.mk <$>
    Check.defaulted "page" 1 (Check.integerFrom 1) fs <*>
    Check.defaulted "pageSize" defaultPageSize (Check.integerWithin 1 maxPageSize) fs <*>
    Check.optionalField "level" Wanted.check fs <*>
    Check.optionalField "environment" Wanted.check fs <*>
    Check.optionalField "hostname" Wanted.check fs <*>
    Check.optionalField "logType" Check.text fs <*>
    Check.optionalField "lookbackTime" Check.text fs <*>
    Check.optionalField "timeRange" Check.text fs <*>
    Check.optionalField "docFilter" Condition.check fs <*>
    Check.optionalField "message" PhraseFilter.check fs <*>
    Check.optionalField "stackTrace" PhraseFilter.check fs <*>
    Check.optionalField "details" PhraseFilter.check fs <*>
    Check.optionalField "sortBy" Check.text fs

/-- The parameters of the search in a project and within bounds. -/
def params (r : SearchRequest) (projectId : String) (bounds : TimeSpan) : SearchParams where
  projectId := projectId
  page := r.page
  pageSize := r.pageSize
  level := r.level
  environment := r.environment
  hostname := r.hostname
  logType := r.logType
  minTimestampMs := bounds.least
  maxTimestampMs := bounds.greatest
  docFilter := r.docFilter
  messageFilter := r.message
  stackTraceFilter := r.stackTrace
  detailsFilter := r.details
  sortBy := r.sortBy

end SearchRequest

end Logbook
