import Logbook.Fault
import Logbook.Text.Blank
import Logbook.Text.Digit
import Logbook.Text.Search
import Logbook.Time.Epoch

/-!
# Absolute windows

A range is two sides with ` to ` between them. A side is a date `YYYY-MM-DD` or a date and time
`YYYY-MM-DD-HH:mm:ss`. A date at the start stands for its first moment and a date at the end for
its last millisecond.
-/

namespace Logbook

/-- A side of a range. -/
structure RangeSide where
  date : Date
  /-- The hour, minute and second, unless the side is a date alone. -/
  time : Option (Nat × Nat × Nat)
  deriving DecidableEq, Repr

/-- The number of two digits of which the first lies between two ASCII digits and the second is a
digit of any script. -/
def mixedPair? (low high a b : Char) : Option Nat := do
  if low ≤ a && a ≤ high then return 10 * (a.toNat - 48) + (← Text.digitValue? b) else none

/-- The number of two ASCII digits, of which the second lies between two given ones. -/
def plainPair? (low high a b : Char) : Option Nat :=
  if a.isDigit && low ≤ b && b ≤ high then some (10 * (a.toNat - 48) + (b.toNat - 48)) else none

/-- The month that two digits write. -/
def month? (a b : Char) : Option Nat :=
  if a = '1' then plainPair? '0' '2' a b
  else if a = '0' then plainPair? '1' '9' a b
  else none

/-- The day that two digits write. -/
def day? (a b : Char) : Option Nat :=
  if a = '3' then plainPair? '0' '1' a b
  else if a = '0' then plainPair? '1' '9' a b
  else mixedPair? '1' '2' a b

/-- The hour that two digits write. -/
def hour? (a b : Char) : Option Nat :=
  if a = '2' then plainPair? '0' '3' a b else mixedPair? '0' '1' a b

/-- The minute or second that two digits write. -/
def sixtieth? (a b : Char) : Option Nat :=
  mixedPair? '0' '5' a b

/-- The real date of a text `YYYY-MM-DD`. -/
def rangeDate? (y₁ y₂ y₃ y₄ m₁ m₂ d₁ d₂ : Char) : Option Date := do
  let d : Date := ⟨← Text.digitsValue? [y₁, y₂, y₃, y₄], ← month? m₁ m₂, ← day? d₁ d₂⟩
  if d.Valid then some d else none

namespace RangeSide

/-- The side that a text writes. -/
def ofText? : List Char → Option RangeSide
  | [y₁, y₂, y₃, y₄, '-', m₁, m₂, '-', d₁, d₂] => do
    return ⟨← rangeDate? y₁ y₂ y₃ y₄ m₁ m₂ d₁ d₂, none⟩
  | [y₁, y₂, y₃, y₄, '-', m₁, m₂, '-', d₁, d₂, '-', h₁, h₂, ':', n₁, n₂, ':', s₁, s₂] => do
    let d ← rangeDate? y₁ y₂ y₃ y₄ m₁ m₂ d₁ d₂
    return ⟨d, some (← hour? h₁ h₂, ← sixtieth? n₁ n₂, ← sixtieth? s₁ s₂)⟩
  | _ => none

/-- The moment of the time of day of a side. -/
def atTime (d : Date) : Nat × Nat × Nat → Int
  | (h, m, s) => Moment.micros ⟨d, h, m, s, 0⟩

/-- The first moment of a side, in microseconds. -/
def start (r : RangeSide) : Int :=
  atTime r.date (r.time.getD (0, 0, 0))

/-- The last moment of a side, in microseconds. The calendar has no day after the last day of
year 9999, which would be needed for the end of that day. -/
def finish (r : RangeSide) : Except Fault Int :=
  match r.time with
  | some t => .ok (atTime r.date t)
  | none =>
    if r.date = ⟨9999, 12, 31⟩ then .error .outOfRange
    else .ok (atTime r.date (0, 0, 0) + microsPerDay - 1000)

end RangeSide

/-- The first and last millisecond of a range; none if the text is no range or ends before it
starts. -/
def rangeMs? (text : String) : Except Fault (Option (Int × Int)) :=
  match (Text.splitOn " to ".toList text.toList).map Text.trim with
  | [a, b] => do
    let finish ← match RangeSide.ofText? b with
      | some s => some <$> s.finish
      | none => pure none
    match RangeSide.ofText? a, finish with
    | some s, some t => return if s.start ≤ t then some (epochMs s.start, epochMs t) else none
    | _, _ => return none
  | _ => .ok none

end Logbook
