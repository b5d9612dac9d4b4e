import Logbook.Number.Double
import Logbook.Time.Moment

/-!
# Milliseconds of a moment

The number of milliseconds since the start of 1970 that stands for a moment. It is computed in
doubles: the seconds as the double nearest to them, and a thousand times that, rounded again and
cut off toward zero.
-/

namespace Logbook

/-- The milliseconds of a moment that is given in microseconds. -/
def epochMs (micros : Int) : Int :=
  (((Double.ofQuotient micros 1000000).times 1000).truncate?).getD 0

/-- The milliseconds of a moment. -/
def Moment.epochMs (m : Moment) : Int :=
  Logbook.epochMs m.micros

end Logbook
