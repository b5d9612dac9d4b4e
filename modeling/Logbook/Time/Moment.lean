import Logbook.Time.Calendar

/-!
# Moments

A moment is a date and a time of day down to the microsecond, in UTC. Its place on the time line
is `micros`, the number of microseconds from the start of 1970; `ofMicros?` undoes it.
-/

namespace Logbook

/-- A number with at least `width` digits. -/
def padded (width n : Nat) : String :=
  let ds := Nat.toDigits 10 n
  String.ofList (List.replicate (width - ds.length) '0' ++ ds)

/-- The number of microseconds of a day. -/
def microsPerDay : Int := 86400000000

/-- A date and a time of day. -/
structure Moment where
  date : Date
  hour : Nat
  minute : Nat
  second : Nat
  micro : Nat
  deriving DecidableEq, Repr

namespace Moment

/-- A real date with a time between midnight and midnight. -/
def Valid (m : Moment) : Prop :=
  m.date.Valid ∧ m.hour < 24 ∧ m.minute < 60 ∧ m.second < 60 ∧ m.micro < 1000000

instance (m : Moment) : Decidable m.Valid := by
  unfold Valid
  infer_instance

/-- The number of microseconds since midnight. -/
def dayMicros (m : Moment) : Int :=
  ((m.hour * 60 + m.minute) * 60 + m.second) * 1000000 + m.micro

/-- The number of microseconds since the start of 1970. -/
def micros (m : Moment) : Int :=
  m.date.days * microsPerDay + m.dayMicros

/-- A date at a time of day given in microseconds. -/
def atMicros (d : Date) (n : Nat) : Moment :=
  let seconds := n / 1000000
  ⟨d, seconds / 3600, seconds / 60 % 60, seconds % 60, n % 1000000⟩

/-- The moment at this many microseconds since the start of 1970, in the years 1 to 9999. -/
def ofMicros? (n : Int) : Option Moment :=
  (Date.ofDays? (n.fdiv microsPerDay)).map fun d => atMicros d (n.fmod microsPerDay).toNat

/-- The time of day to the second. -/
def clockText (m : Moment) : String :=
  padded 2 m.hour ++ ":" ++ padded 2 m.minute ++ ":" ++ padded 2 m.second

/-- The moment as text, with microseconds where it has some. -/
def isoText (m : Moment) : String :=
  padded 4 m.date.year ++ "-" ++ padded 2 m.date.month ++ "-" ++ padded 2 m.date.day ++ "T" ++
    m.clockText ++ (if m.micro = 0 then "" else "." ++ padded 6 m.micro)

end Moment

end Logbook
