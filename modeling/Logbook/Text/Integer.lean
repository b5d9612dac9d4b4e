import Logbook.Text.Blank
import Logbook.Text.Digit

/-!
# Integers written as text

An optional sign and decimal digits of any script, with white space around them and single
underscores between digits. No more than `maxDigits` digits are read.
-/

namespace Logbook.Text

/-- The largest number of digits that is read as one integer. -/
def maxDigits : Nat := 4300

/-- The digits of a text in which single underscores may stand between digits. -/
def underscored? : List Char → Option (List Char)
  | [] => none
  | [c] => if isDigit c then some [c] else none
  | c :: '_' :: r => if isDigit c then (underscored? r).map (c :: ·) else none
  | c :: r => if isDigit c then (underscored? r).map (c :: ·) else none

/-- A text without its sign, and whether the sign was a minus. -/
def unsigned : List Char → Bool × List Char
  | '-' :: r => (true, r)
  | '+' :: r => (false, r)
  | r => (false, r)

/-- An integer with the given sign. -/
def signed (negative : Bool) (n : Nat) : Int :=
  if negative then -n else n

/-- The number of at most `maxDigits` digits. -/
def limitedValue? (ds : List Char) : Option Nat :=
  if ds.length ≤ maxDigits then digitsValue? ds else none

theorem digitsValue?_of_limitedValue? {ds : List Char} {n : Nat}
    (value : limitedValue? ds = some n) : digitsValue? ds = some n := by
  unfold limitedValue? at value
  split at value
  · exact value
  · cases value

/-- The integer that a text writes. -/
def integer? (s : List Char) : Option Int :=
  let (negative, r) := unsigned (trimBy isSpace s)
  ((underscored? r).bind limitedValue?).map (signed negative)

end Logbook.Text
