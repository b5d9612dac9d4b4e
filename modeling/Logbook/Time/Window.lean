import Logbook.Time.Lookback
import Logbook.Time.Range

/-!
# Time windows

A request names its window by a lookback or by a range, or not at all. A lookback bounds the
window above: it holds what is at least so old.
-/

namespace Logbook

/-- Inclusive bounds on the time of a log, in milliseconds. -/
structure TimeSpan where
  least : Option Int := none
  greatest : Option Int := none
  deriving DecidableEq, Repr, Inhabited

namespace TimeSpan

/-- No bound at all. -/
def isEmpty (b : TimeSpan) : Bool :=
  b.least.isNone && b.greatest.isNone

/-- Does a time lie within the bounds? -/
def contains (b : TimeSpan) (t : Int) : Bool :=
  b.least.all (· ≤ t) && b.greatest.all (t ≤ ·)

end TimeSpan

/-- A text that was given: neither missing nor empty. -/
def given (text : Option String) : Option String :=
  text.filter (· ≠ "")

/-- The bounds of a window; none if a text is malformed or both are given. -/
def windowBounds? (now : Int) (lookback range : Option String) :
    Except Fault (Option TimeSpan) :=
  match given lookback, given range with
  | some _, some _ => .ok none
  | some text, none => do return (← lookbackMs? now text).map fun t => ⟨none, some t⟩
  | none, some text => do return (← rangeMs? text).map fun (s, t) => ⟨some s, some t⟩
  | none, none => .ok (some {})

/-- The bounds of a window that a request names. -/
def requireBounds (now : Int) (lookback range : Option String) : Except Fault TimeSpan :=
  if (given lookback).isSome && (given range).isSome then .error (.problem .bothWindows)
  else do
    match ← windowBounds? now lookback range with
    | some b => return b
    | none => throw (.problem .badWindow)

end Logbook
