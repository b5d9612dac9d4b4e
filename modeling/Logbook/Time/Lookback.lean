import Logbook.Fault
import Logbook.Text.Case
import Logbook.Text.Integer
import Logbook.Time.Epoch

/-!
# Lookback windows

A lookback is a number and a unit, such as `5d` or `3 months` without the blank. It stands for
the moment that lies so long before the current one. Seconds to weeks are of fixed length; months
and years keep the day of the month where the month has it and take its last day elsewhere.
-/

namespace Logbook

/-- The units of a lookback: a number of microseconds or a number of months. -/
inductive LookbackUnit where
  | micros (n : Nat)
  | months (n : Nat)
  deriving DecidableEq, Repr

namespace LookbackUnit

/-- The unit of some seconds. -/
def seconds (n : Nat) : LookbackUnit := micros (n * 1000000)

/-- The names of the units. -/
def names : List (String × LookbackUnit) := [
  ("s", seconds 1), ("sec", seconds 1), ("second", seconds 1), ("seconds", seconds 1),
  ("m", seconds 60), ("min", seconds 60), ("minute", seconds 60), ("minutes", seconds 60),
  ("h", seconds 3600), ("hr", seconds 3600), ("hour", seconds 3600), ("hours", seconds 3600),
  ("d", seconds 86400), ("day", seconds 86400), ("days", seconds 86400),
  ("w", seconds 604800), ("week", seconds 604800), ("weeks", seconds 604800),
  ("month", months 1), ("months", months 1),
  ("y", months 12), ("yr", months 12), ("year", months 12), ("years", months 12)]

/-- The unit with this name, in letters of any case. -/
def ofText? (s : List Char) : Option LookbackUnit :=
  names.lookup (String.ofList (Text.lower s))

/-- The moment `n` units before a moment, both in microseconds; none before year 1. -/
def before? (now : Int) (n : Nat) : LookbackUnit → Option Int
  | micros k =>
    let t := now - n * k
    if t < -epochDay * microsPerDay then none else some t
  | months k => do
    let m ← Moment.ofMicros? now
    let d ← m.date.minusMonths? (n * k)
    return { m with date := d }.micros

end LookbackUnit

/-- A letter that a unit may have, whatever its case: those of the alphabet and four others
that agree with one of them but for case. -/
def isUnitLetter (c : Char) : Bool :=
  c.isAlpha || c == '\u0130' || c == '\u0131' || c == '\u017F' || c == '\u212A'

/-- The digits and the unit of a lookback. -/
def lookbackParts? (s : List Char) : Option (List Char × List Char) :=
  let (ds, unit) := (Text.trim s).span Text.isDigit
  if ds.isEmpty || unit.isEmpty || !unit.all isUnitLetter then none else some (ds, unit)

/-- The milliseconds of the moment that a lookback stands for; none if the text is no lookback
or goes back before year 1. -/
def lookbackMs? (now : Int) (text : String) : Except Fault (Option Int) :=
  match lookbackParts? text.toList with
  | none => .ok none
  | some (ds, unit) => match Text.limitedValue? ds with
    | none => .error .badValue
    | some n => .ok ((LookbackUnit.ofText? unit).bind fun u => (u.before? now n).map epochMs)

end Logbook
