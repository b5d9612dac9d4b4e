import Logbook.Fault
import Logbook.Json.Basic

/-!
# Pages

A page of a list is a window of it. The number of pages is the ceiling of a quotient that is taken
in doubles.
-/

namespace Logbook

/-- A place in a list of `n` items: counted from the end where it is negative, and moved to the
nearest end where it lies outside. -/
def clampPlace (n : Nat) (i : Int) : Nat :=
  min (if i < 0 then i + n else i).toNat n

/-- The items from one place up to below another. -/
def window {α : Type} (items : List α) (start stop : Int) : List α :=
  let a := clampPlace items.length start
  (items.drop a).take (clampPlace items.length stop - a)

/-- The items of a page. -/
def pageOf {α : Type} (items : List α) (page size : Int) : List α :=
  let start := (page - 1) * size
  window items start (start + size)

/-- The ceiling of the double nearest to a quotient; zero for pages of size zero. -/
def pageCount (total size : Int) : Except Fault Int :=
  if size = 0 then .ok 0
  else match (Double.ofQuotient (total * size.sign) size.natAbs).ceil? with
    | some n => .ok n
    | none => .error .outOfRange

/-- Where an answer came from. -/
inductive Source where
  | index
  | primary
  deriving DecidableEq, Repr

/-- The name of a source. -/
def Source.name : Source → String
  | index => "index"
  | primary => "primary"

/-- A page of logs and the number of all logs found. -/
structure ResultPage where
  logs : List Fields := []
  total : Int := 0
  page : Int := 1
  pageSize : Int := 50
  source : Source := .index
  deriving DecidableEq, Repr

namespace ResultPage

/-- The pages that there are. -/
def pageTotal (p : ResultPage) : Except Fault Int :=
  pageCount p.total p.pageSize

/-- The place of a page among all pages, as it is answered. -/
def pagination (p : ResultPage) : Except Fault Json := do
  return .obj [("page", .int p.page), ("pageSize", .int p.pageSize), ("total", .int p.total),
    ("totalPages", .int (← p.pageTotal))]

/-- The page as it is answered. -/
def toJson (p : ResultPage) : Except Fault Json := do
  return .obj [("logs", .arr (p.logs.map .obj)), ("pagination", ← p.pagination)]

end ResultPage

end Logbook
