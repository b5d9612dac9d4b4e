import Logbook.Fault
import Logbook.Json.Basic
import Logbook.Time.Moment

/-!
# Spans of time

A span is a number of seconds, taken in whole microseconds, half to even. It leads from one moment
to another, as far as the calendar reaches.
-/

namespace Logbook

/-- The number of microseconds in a number of seconds: the whole seconds, and the rest rounded to
a double before it is rounded to an integer. -/
def Double.toMicros? (seconds : Double) : Option Int :=
  seconds.ratio?.map fun (n, d) =>
    let rest := (Double.ofQuotient (n.tmod d) d).times 1000000
    let micros := match rest.ratio? with
      | some (p, q) => p.sign * roundQuotient p.natAbs q
      | none => 0
    n.tdiv d * 1000000 + micros

/-- The microseconds of a span. -/
def spanMicros : Json → Except Fault Int
  | .bool b => .ok (if b then 1000000 else 0)
  | .int n => .ok (n * 1000000)
  | .float .nan => .error .badValue
  | .float x => match x.toMicros? with
    | some n => .ok n
    | none => .error .outOfRange
  | _ => .error .wrongType

/-- The moment, in microseconds since the start of 1970, that a span leads to from another one. -/
def momentAfter (now : Int) (seconds : Json) : Except Fault Int := do
  let next := now + (← spanMicros seconds)
  if (Moment.ofMicros? next).isNone then throw .outOfRange
  return next

end Logbook
