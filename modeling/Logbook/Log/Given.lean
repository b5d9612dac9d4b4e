import Logbook.Log.Deletion
import Logbook.Phrase.Condition
import Logbook.Query.Params
import Logbook.Validation.Scalar

/-!
# Selections as they are given

The values and bounds by which logs are selected may be given as any values. What does not count as
given is no condition, a text is one wanted value and a list several; a bound may have a fraction or
be written as a text. The columns compare as they store: texts with texts, times with numbers.
-/

namespace Logbook

/-- The texts that a column makes of values; what it leaves empty wants nothing. -/
def columnTexts (vs : List Json) : Except Fault (List String) := do
  return (← vs.mapM Column.text).filterMap fun
    | .str s => some s
    | _ => none

/-- The wish for a value of a field, if one is given. -/
def Wanted.ofValue (v : Json) : Except Fault (Option Wanted) :=
  if !v.truthy then .ok none
  else match v with
    | .str s => .ok (some (.one s))
    | .arr vs => do
      let ss ← columnTexts vs
      return some (.many (if ss.isEmpty then [""] else ss))
    | .obj fs => .ok (some (.many (fs.map (·.1))))
    | _ => .error .wrongType

/-- The number that a text writes in decimal, with blanks around it or without. -/
def decimalText? (s : List Char) : Option Json :=
  let (negative, ds) := Text.unsigned (Text.trim s)
  match Check.asciiDigits? ds with
  | some n => some (.int (Text.signed negative n))
  | none => (Check.decimal? negative ds).map .float

namespace TimeSpan

/-- The bounds between which no time lies. -/
def nothing : TimeSpan := ⟨some 1, some 0⟩

/-- The times from a number on. -/
def fromDouble (x : Double) : TimeSpan :=
  match x, x.ceil? with
  | _, some n =>
    if n < Word.least then {} else if Word.greatest < n then nothing else { least := some n }
  | .infinite true, none => {}
  | _, none => nothing

/-- The times up to a number. -/
def upToDouble (x : Double) : TimeSpan :=
  match x, x.floor? with
  | _, some n =>
    if n < Word.least then nothing else if Word.greatest < n then {} else { greatest := some n }
  | .infinite false, none => {}
  | _, none => nothing

/-- A bound of a kind of spans that integers, doubles and texts of no number stand for. -/
def ofBound (ofInt : Int → TimeSpan) (ofDouble : Double → TimeSpan) (ofText : TimeSpan)
    (v : Json) : Except Fault TimeSpan :=
  match v with
  | .null => .ok {}
  | .bool b => .ok (ofInt (if b then 1 else 0))
  | .int n => .ok (ofInt n)
  | .float x => .ok (ofDouble x)
  | .str s => match decimalText? s.toList with
    | some (.int n) => .ok (if Word.holds n then ofInt n else ofDouble (.ofQuotient n 1))
    | some (.float x) => .ok (ofDouble x)
    | _ => .ok ofText
  | _ => .error .column

/-- The times between two bounds, where a text of no number is greater than every number. -/
def ofValues (least greatest : Json) : Except Fault TimeSpan := do
  let a ← ofBound (fun n => { least := some n }) fromDouble nothing least
  let b ← ofBound (fun n => { greatest := some n }) upToDouble {} greatest
  return if a = nothing ∨ b = nothing then nothing else ⟨a.least, b.greatest⟩

/-- Bounds in the parameters of a search. -/
def check (least greatest : Json) : Checked TimeSpan :=
  TimeSpan.mk <$>
    (Check.optional Check.integer least).under (.field "min_timestamp_ms") <*>
    (Check.optional Check.integer greatest).under (.field "max_timestamp_ms")

end TimeSpan

/-- Are all fields among those with these names? -/
def Fields.areAmong (fs : Fields) (names : List String) : Bool :=
  fs.all fun (k, _) => k ∈ names

/-- The text of a value that names a project; no project has the empty name. -/
def projectText (v : Json) : Except Fault String := do
  match ← Column.text v with
  | .str s => return s
  | _ => return ""

/-- The logs that some conditions select. -/
def Selection.ofFields (fs : Fields) : Except Fault Selection := do
  if !fs.areAmong ["project_id", "level", "environment", "hostname", "log_type",
    "min_timestamp_ms", "max_timestamp_ms"] then throw .wrongType
  let level ← Wanted.ofValue (fs.get "level")
  let environment ← Wanted.ofValue (fs.get "environment")
  let hostname ← Wanted.ofValue (fs.get "hostname")
  let logType ← Wanted.ofValue (fs.get "log_type")
  let bounds ← TimeSpan.ofValues (fs.get "min_timestamp_ms") (fs.get "max_timestamp_ms")
  return ⟨← projectText (fs.get "project_id"), level, environment, hostname, logType, bounds⟩

/-- The logs of a project that some conditions doom. -/
def Doomed.ofFields (slug : String) (fs : Fields) : Except Fault Doomed := do
  let level ← Wanted.ofValue (fs.get "level")
  let environment ← Wanted.ofValue (fs.get "environment")
  let bounds ← TimeSpan.ofValues (fs.get "min_timestamp_ms") (fs.get "max_timestamp_ms")
  return ⟨slug, level, environment, bounds⟩

/-- The texts of a window that are given. Of two values that count as given neither is read. -/
def windowTexts (lookback range : Json) : Except Fault (Option String × Option String) := do
  if lookback.truthy && range.truthy then return (some lookback.display, some range.display)
  let text (v : Json) : Except Fault (Option String) :=
    if v.truthy then some <$> v.needText .noOperation else return none
  return (← text lookback, ← text range)

end Logbook
