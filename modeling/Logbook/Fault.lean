import Logbook.Validation.Issue

/-!
# What can go wrong

A `Problem` is a failure that the service explains to its callers: it belongs to a category,
which fixes the code and the status of an answer, and it has a message. A `Fault` is any
failure: a problem, a rejected value, or the failure of an operation or of a backing service,
of which callers learn no more than its kind.
-/

namespace Logbook

/-- The categories of problems. -/
inductive Category where
  | input
  | notFound
  | indexUnavailable
  | indexInconsistency
  | delivery
  deriving DecidableEq, Repr

namespace Category

/-- The code of a category in answers. -/
def code : Category → String
  | input => "invalid_input"
  | notFound => "not_found"
  | indexUnavailable => "index_unavailable"
  | indexInconsistency => "mirror_inconsistency"
  | delivery => "delivery_failed"

/-- The HTTP status of a category. -/
def status : Category → Nat
  | input => 400
  | notFound => 404
  | indexUnavailable => 503
  | indexInconsistency => 500
  | delivery => 502

end Category

/-- The failures that are explained. -/
inductive Problem where
  | payloadNotObject
  | missingFields (names : List String)
  | badLogType
  | badDetails
  | badStackTrace
  | badTimestamp
  | bothWindows
  | badWindow
  | badSort (directive : String)
  | noProject (slug : String)
  | indexClosed
  | indexQueryFailed
  | notIndexed (id : String)
  | deliveryFailed (channel : String)
  deriving DecidableEq, Repr

namespace Problem

/-- The category of a problem. -/
def category : Problem → Category
  | payloadNotObject | missingFields _ | badLogType | badDetails | badStackTrace | badTimestamp
  | bothWindows | badWindow | badSort _ => .input
  | noProject _ => .notFound
  | indexClosed | indexQueryFailed => .indexUnavailable
  | notIndexed _ => .indexInconsistency
  | deliveryFailed _ => .delivery

/-- A problem in words. -/
def message : Problem → String
  | payloadNotObject => "Log payload must be an object"
  | missingFields names => "Missing required fields: " ++ ", ".intercalate names
  | badLogType => "logType must be one of application, system"
  | badDetails => "details must be an object"
  | badStackTrace => "stackTrace must be an array"
  | badTimestamp => "timestampMS must be an integer number of milliseconds"
  | bothWindows => "lookbackTime and timeRange cannot both be specified"
  | badWindow => "Invalid time filter"
  | badSort directive => "Invalid sort directive: " ++ directive
  | noProject slug => "Project not found: " ++ slug
  | indexClosed => "Search index is disabled or not connected"
  | indexQueryFailed => "Search index query failed"
  | notIndexed id => "Failed to index log " ++ id
  | deliveryFailed channel => channel ++ " delivery failed"

/-- What a caller may do about it. -/
def detail : Problem → Option String
  | badWindow => some "Use a lookback like '5d' or a range like 'YYYY-MM-DD to YYYY-MM-DD'"
  | _ => none

end Problem

/-- Any failure. -/
inductive Fault where
  /-- A failure that is explained. -/
  | problem (p : Problem)
  /-- A value without the shape that a model asks for. -/
  | invalid (issues : List Issue)
  /-- A value outside the domain of an operation. -/
  | badValue
  /-- A number or date outside the range of its type. -/
  | outOfRange
  /-- A value of a kind that an operation is not made for. -/
  | wrongType
  /-- A text operation on a value that is no text, or an operation on a part that is not there. -/
  | noOperation
  /-- A field or a key that is not there. -/
  | missingKey
  /-- A backing service or a library broke down in an unforeseen way. -/
  | crash
  /-- A backing service cannot be reached. -/
  | unreachable
  /-- The search index refused a request. -/
  | transport
  /-- The stream refused a command. -/
  | response
  /-- A key or slug that is already taken, or a column left empty that may not be. -/
  | constraint
  /-- A value that a column cannot hold. -/
  | column
  /-- The operating system's calendar gave up. -/
  | system
  /-- A setting whose text cannot be read. -/
  | settings
  /-- A text that is more than the machine can go through. -/
  | tooDeep
  /-- A text with half of a surrogate pair, which has no bytes. -/
  | torn
  /-- An address that names no place on the web. -/
  | address
  /-- A driver that is not installed. -/
  | noDriver
  /-- A kind of database that nobody knows. -/
  | noDialect
  /-- A driver that cannot be waited for. -/
  | blockingDriver
  /-- An address that names no database. -/
  | badArgument
  deriving DecidableEq, Repr

end Logbook
