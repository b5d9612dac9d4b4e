import Logbook.Json.Text
import Logbook.Phrase.Condition

/-!
# Text surfaces

The parts of a log that a phrase filter looks at: its message, its stack trace, its details, or
all three. The texts are taken from the fields of a stored log or of an index document in one and
the same way: a raw stack trace and a detail text count before the structured values.
-/

namespace Logbook

/-- A part of a log that has a text. -/
inductive Surface where
  | document
  | message
  | stackTrace
  | details
  deriving DecidableEq, Repr

namespace Surface

/-- The names of the surfaces. -/
def names : List (String × Surface) :=
  [("document", document), ("message", message), ("stackTrace", stackTrace), ("details", details)]

/-- The name of a surface. -/
def name : Surface → String
  | document => "document"
  | message => "message"
  | stackTrace => "stackTrace"
  | details => "details"

/-- The index fields that hold the texts of a surface. -/
def indexFields : Surface → List String
  | document => ["message", "stack_trace_text", "detail_string"]
  | message => ["message"]
  | stackTrace => ["stack_trace_text"]
  | details => ["detail_string"]

end Surface

/-- A field that holds a text with at least one character. -/
def filledField? (log : Fields) (name : String) : Option String :=
  match log.get name with
  | .str s => if s = "" then none else some s
  | _ => none

/-- The given parts of a stack frame, with blanks between them. -/
def frameText (frame : Fields) : String :=
  " ".intercalate
    (((["message", "line", "file", "function"].map frame.get).filter (·.truthy)).map (·.display))

/-- The frames that are objects. -/
def frames : List Json → List Fields
  | [] => []
  | .obj fs :: r => fs :: frames r
  | _ :: r => frames r

/-- The text of the stack trace of a log. -/
def stackTraceText (log : Fields) : String :=
  match filledField? log "raw_stack_trace" with
  | some s => s
  | none => match log.get "stack_trace" with
    | .arr xs => " | ".intercalate ((frames xs).map frameText)
    | _ => ""

/-- Details as text: an empty object stands for values that do not count as given. -/
def compactDetails (details : Json) : String :=
  (details.orElse (.obj [])).compact

/-- The text of the details of a log. -/
def detailsText (log : Fields) : String :=
  match filledField? log "detail_string" with
  | some s => s
  | none => match log.get "details" with
    | .obj fs => compactDetails (.obj fs)
    | _ => ""

/-- The message of a log as it is, or the empty text. -/
def messageValue (log : Fields) : Json :=
  (log.get "message").orElse (.str "")

/-- The texts that a filter on a surface looks at. -/
def textsOn (log : Fields) : Surface → List Json
  | .document => [messageValue log, .str (stackTraceText log), .str (detailsText log)]
  | .message => [messageValue log]
  | .stackTrace => [.str (stackTraceText log)]
  | .details => [.str (detailsText log)]

/-- Does one of the values satisfy the filter? The first that does ends the search. -/
def PhraseFilter.testAny (f : PhraseFilter) : List Json → Except Fault Bool
  | [] => .ok false
  | v :: r => do if ← f.test v then return true else f.testAny r

/-- A filter and the surface that it looks at. -/
structure SurfaceFilter where
  surface : Surface
  filter : PhraseFilter
  deriving DecidableEq, Repr

namespace SurfaceFilter

/-- Is a log accepted? One text of the surface is enough. -/
def accepts (t : SurfaceFilter) (log : Fields) : Except Fault Bool :=
  t.filter.testAny (textsOn log t.surface)

/-- The logs that are accepted, in order. -/
def verify (t : SurfaceFilter) : List Fields → Except Fault (List Fields)
  | [] => .ok []
  | log :: r => do
    let accepted ← t.accepts log
    let rest ← t.verify r
    return if accepted then log :: rest else rest

/-- The filter as it is answered. -/
def toJson (t : SurfaceFilter) : Json :=
  .obj [("surface", .str t.surface.name), ("filter", t.filter.toJson)]

end SurfaceFilter

/-- The logs that an optional filter accepts. -/
def acceptedHits (t : Option SurfaceFilter) (hits : List Fields) : Except Fault (List Fields) :=
  match t with
  | none => .ok hits
  | some t => t.verify hits

end Logbook
