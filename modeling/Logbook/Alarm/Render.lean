import Logbook.Fault
import Logbook.Json.Text

/-!
# Alarms as text

A payload as a subject line, as a chat message and as an HTML page. A page is a list of pieces, of
which the texts are escaped when they are written. Empty parts are left out of the message and the
page.
-/

namespace Logbook.Render

/-- A field of a payload, which has to be there. -/
def part (payload : Fields) (name : String) : Except Fault Json :=
  match payload.lookup name with
  | some v => .ok v
  | none => .error .missingKey

/-- A field of a payload as it is put into a text. -/
def shown (payload : Fields) (name : String) : Except Fault String :=
  Json.display <$> part payload name

/-- The first `n` characters of a text or items of a list, as they are put into a text. -/
def firstOf (n : Nat) : Json → Except Fault String
  | .str s => .ok (String.ofList (s.toList.take n))
  | .arr xs => .ok (Json.display (.arr (xs.take n)))
  | _ => .error .wrongType

/-- The metadata of a payload. -/
def metadata (payload : Fields) : Except Fault Fields := do
  match ← part payload "request" with
  | .obj fs => return fs
  | _ => throw .noOperation

/-- A line that stands only if a field counts as given. -/
def lineIf (payload : Fields) (name : String) (line : Json → Except Fault String) :
    Except Fault (List String) := do
  let v ← part payload name
  if v.truthy then return [← line v] else return []

/-- The subject of an alarm. -/
def subject (payload : Fields) : Except Fault String := do
  let project ← shown payload "projectName"
  let level ← shown payload "level"
  let environment ← shown payload "environment"
  let message ← firstOf 80 (← part payload "message")
  return "[" ++ project ++ "] " ++ level ++ " in " ++ environment ++ ": " ++ message

/-- The chat message of an alarm. -/
def text (payload : Fields) : Except Fault String := do
  let level ← shown payload "level"
  let project ← shown payload "projectName"
  let environment ← shown payload "environment"
  let message ← shown payload "message"
  let timestamp ← shown payload "timestamp"
  let host ← lineIf payload "hostname" fun v => return "*Host*: `" ++ v.display ++ "`"
  let stack ← lineIf payload "stackTrace" fun v => return "```" ++ (← firstOf 1500 v) ++ "```"
  let pairs ← metadata payload
  let link ← shown payload "link"
  return "\n".intercalate
    ([":rotating_light: *" ++ level ++ "* alarm in *" ++ project ++ "* (" ++ environment ++ ")",
      "*Message*: " ++ message, "*Time*: " ++ timestamp] ++ host ++ stack ++
      (pairs.map fun (k, v) => "• " ++ k ++ ": " ++ v.display) ++ ["<" ++ link ++ "|View log>"])

/-- A character in HTML text or in a quoted attribute. -/
def escapeChar : Char → List Char
  | '&' => "&amp;".toList
  | '<' => "&lt;".toList
  | '>' => "&gt;".toList
  | '"' => "&quot;".toList
  | '\'' => "&#x27;".toList
  | c => [c]

/-- A text in HTML. -/
def escape (s : String) : String :=
  String.ofList (s.toList.flatMap escapeChar)

/-- A piece of a page: markup that stands as it is, or a text that is shown. -/
inductive Piece where
  | markup (s : String)
  | shown (s : String)
  deriving DecidableEq, Repr

/-- A piece as it is written. -/
def Piece.write : Piece → String
  | markup s => s
  | shown s => escape s

/-- A value that has to be a text, to be shown. -/
def shownText : Json → Except Fault Piece
  | .str s => .ok (.shown s)
  | _ => .error .noOperation

/-- A row of the table. -/
def row (name : String) (value : Json) : List Piece :=
  [.markup "<tr><th>", .shown name, .markup "</th><td>", .shown value.display,
    .markup "</td></tr>"]

/-- The rows of the table whose values count as given. -/
def table (rows : List (String × Json)) : List Piece :=
  (rows.filter (·.2.truthy)).flatMap fun (k, v) => row k v

/-- The block of the stack trace, if there is one. -/
def stackBlock (payload : Fields) : Except Fault (List Piece) := do
  let v ← part payload "stackTrace"
  if v.truthy then return [.markup "<pre>", ← shownText v, .markup "</pre>"] else return []

/-- The page of an alarm. -/
def page (payload : Fields) : Except Fault (List Piece) := do
  let project ← part payload "projectName"
  let level ← part payload "level"
  let environment ← part payload "environment"
  let logType ← part payload "logType"
  let timestamp ← part payload "timestamp"
  let host ← part payload "hostname"
  let pairs ← metadata payload
  let rows := [("Project", project), ("Level", level), ("Environment", environment),
    ("Type", logType), ("Time", timestamp), ("Host", host)] ++ pairs
  let stack ← stackBlock payload
  let message ← shownText (← part payload "message")
  let link ← shownText (← part payload "link")
  return [.markup "<h2>", message, .markup "</h2>", .markup "<table>"] ++ table rows ++
    [.markup "</table>"] ++ stack ++
    [.markup "<p>", .markup "<a href=\"", link, .markup "\">", .shown "View log", .markup "</a>",
      .markup "</p>"]

/-- The HTML page of an alarm. -/
def html (payload : Fields) : Except Fault String := do
  return String.join ((← page payload).map (·.write))

end Logbook.Render
