import Logbook.Number.Word
import Logbook.Time.Span

/-!
# Time stamps for people

A number of milliseconds is shown as a date and time to the second. It is divided by a thousand in
doubles and rounded to whole microseconds, half to even, before the date is taken.
-/

namespace Logbook

/-- The first second of a year, counted from the start of 1970. -/
def secondsBeforeYear (year : Int) : Int :=
  (daysBeforeYear year - epochDay) * 86400

/-- The moment at a number of seconds. Seconds beyond 64 bits are out of range, years beyond 32
bits are refused by the system, and others outside the calendar have no date. -/
def momentAt (seconds : Double) : Except Fault Moment :=
  match seconds with
  | .nan => .error .badValue
  | .infinite _ => .error .outOfRange
  | x => match x.toMicros? with
    | none => .error .outOfRange
    | some n =>
      let s := n.fdiv 1000000
      if !Word.holds s then .error .outOfRange
      else if s < secondsBeforeYear (-2147481748) ∨ secondsBeforeYear 2147485548 ≤ s then
        .error .system
      else match Moment.ofMicros? n with
        | some m => .ok m
        | none => .error .badValue

/-- The seconds of a number of milliseconds. -/
def secondsOf : Json → Except Fault Double
  | .bool b => .ok (Double.ofQuotient (if b then 1 else 0) 1000)
  | .int n => match Double.ofQuotient n 1000 with
    | .infinite _ => .error .outOfRange
    | x => .ok x
  | .float x => .ok (x.quotient 1000)
  | _ => .error .wrongType

/-- A moment to the second, for people. -/
def Moment.stampText (m : Moment) : String :=
  toString m.date.year ++ "-" ++ padded 2 m.date.month ++ "-" ++ padded 2 m.date.day ++ " " ++
    m.clockText ++ " UTC"

/-- A number of milliseconds for people; nothing where there is none. -/
def stampText : Json → Except Fault String
  | .null => .ok ""
  | v => do return (← momentAt (← secondsOf v)).stampText

end Logbook
