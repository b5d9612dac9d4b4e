/-!
# The calendar

Dates of the Gregorian calendar, extended to all years from 1 to 9999, and their number of days
from the first of January 1970. `ofDays?` undoes `days`.
-/

namespace Logbook

/-- A leap year has a 29th of February. -/
def isLeap (year : Nat) : Bool :=
  year % 4 = 0 && (year % 100 ≠ 0 || year % 400 = 0)

/-- The lengths of the months of a year. -/
def monthLengths (leap : Bool) : List Nat :=
  [31, if leap then 29 else 28, 31, 30, 31, 30, 31, 31, 30, 31, 30, 31]

/-- The number of days of a month. -/
def daysInMonth (year month : Nat) : Nat :=
  (monthLengths (isLeap year)).getD (month - 1) 0

/-- The number of days of the months before a month. -/
def daysBeforeMonth (year month : Nat) : Nat :=
  ((monthLengths (isLeap year)).take (month - 1)).foldr (· + ·) 0

/-- The number of days from the first day of year 1 to the first day of a year. -/
def daysBeforeYear (year : Int) : Int :=
  let y := year - 1
  365 * y + y.fdiv 4 - y.fdiv 100 + y.fdiv 400

/-- The number of days from the first day of year 1 to the first of January 1970. -/
def epochDay : Int := 719162

/-- A year, a month and a day. -/
structure Date where
  year : Nat
  month : Nat
  day : Nat
  deriving DecidableEq, Repr

namespace Date

/-- A date of the calendar in the years 1 to 9999. -/
def Valid (d : Date) : Prop :=
  1 ≤ d.year ∧ d.year ≤ 9999 ∧ 1 ≤ d.month ∧ d.month ≤ 12 ∧ 1 ≤ d.day ∧
    d.day ≤ daysInMonth d.year d.month

instance (d : Date) : Decidable d.Valid := by
  unfold Valid
  infer_instance

/-- The number of days from the first of January 1970. -/
def days (d : Date) : Int :=
  daysBeforeYear d.year - epochDay + daysBeforeMonth d.year d.month + d.day - 1

/-- The month and the day of the month with `n` days before them in the list of months. -/
def inMonths : List Nat → Nat → Nat → Nat × Nat
  | [], month, n => (month, n + 1)
  | len :: r, month, n => if n < len then (month, n + 1) else inMonths r (month + 1) (n - len)

/-- The year in which a day lies that has `n` days since the first day of year 1 before it, and
the number of those days that lie in that year. -/
def splitYear (n : Nat) : Nat × Nat :=
  let cycles := n / 146097
  let n := n % 146097
  let centuries := min (n / 36524) 3
  let n := n - centuries * 36524
  let quads := n / 1461
  let n := n % 1461
  let years := min (n / 365) 3
  (400 * cycles + 100 * centuries + 4 * quads + years + 1, n - years * 365)

/-- The date that lies `n` days after the first of January 1970. -/
def ofDays? (n : Int) : Option Date :=
  let n := n + epochDay
  if n < 0 ∨ daysBeforeYear 10000 ≤ n then none
  else
    let (year, rest) := splitYear n.toNat
    let (month, day) := inMonths (monthLengths (isLeap year)) 1 rest
    some ⟨year, month, day⟩

/-- The date `n` months earlier: the same day, or the last one of a shorter month. -/
def minusMonths? (d : Date) (n : Nat) : Option Date :=
  let months := 12 * d.year + (d.month - 1)
  if months < n + 12 then none
  else
    let year := (months - n) / 12
    let month := (months - n) % 12 + 1
    some ⟨year, month, min d.day (daysInMonth year month)⟩

end Date

end Logbook
