import Logbook.Text.Case
import Logbook.Validation.Checked

/-!
# Truth values and numbers in settings

A truth value may be one of a few words in any case. A number may be written with a sign, a
fraction and an exponent, as infinity or as no number at all, with blanks around it or with single
underscores between its characters.
-/

namespace Logbook.Check

/-- The words for truth values. -/
def truthWords : List (String × Bool) := [
  ("0", false), ("off", false), ("f", false), ("false", false), ("n", false), ("no", false),
  ("1", true), ("on", true), ("t", true), ("true", true), ("y", true), ("yes", true)]

/-- The truth value that an integer of 64 bits stands for. -/
def truthOf (n : Int) : Checked Bool :=
  if !Word.holds n then .wrong .notTruth
  else if n = 0 then .good false
  else if n = 1 then .good true
  else .wrong .unreadableTruth

/-- A truth value, or a number or word that stands for one. -/
def truth : Check Bool
  | .bool b => .good b
  | .str s => match truthWords.lookup (lowered s) with
    | some b => .good b
    | none => .wrong .unreadableTruth
  | .int n => truthOf n
  | .float x => match x.truncate? with
    | some n => if x.isWhole && n != Word.least then truthOf n else .wrong .notTruth
    | none => .wrong .notTruth
  | _ => .wrong .notTruth

/-- The exponent that a text consists of; zero for the empty text. -/
def exponentText? : List Char → Option Int
  | [] => some 0
  | c :: r =>
    if c = 'e' ∨ c = 'E' then
      let (negative, ds) := Text.unsigned r
      (asciiDigits? ds).map (Text.signed negative)
    else none

/-- The number that a text without a sign writes in decimal. -/
def decimal? (negative : Bool) (s : List Char) : Option Double :=
  let (ds, r) := s.span Char.isDigit
  let (fs, r') := match r with
    | '.' :: r => r.span Char.isDigit
    | r => ([], r)
  if ds.isEmpty && fs.isEmpty then none
  else do
    let e ← exponentText? r'
    let n ← asciiDigits? (ds ++ fs)
    return Double.ofDecimal negative n (e - fs.length)

/-- The number that a text without blanks around it writes. -/
def double? (s : List Char) : Option Double :=
  let (negative, r) := Text.unsigned s
  let word := String.ofList (Text.lower r)
  if word = "inf" ∨ word = "infinity" then some (.infinite negative)
  else if word = "nan" then some .nan
  else decimal? negative r

/-- The number that a text writes: with white space around it, or else with single underscores
between its characters. -/
def numberText? (s : List Char) : Option Double :=
  match double? (Text.trimBy Text.isSpace s) with
  | some x => some x
  | none => (withoutUnderscores? s).bind double?

/-- A number, or a truth value or text that stands for one. -/
def number : Check Double
  | .float x => .good x
  | .int n =>
    let x := Double.ofQuotient n 1
    if x.isFinite then .good x else .wrong .notNumber
  | .bool b => .good (Double.ofQuotient (if b then 1 else 0) 1)
  | .str s => match numberText? s.toList with
    | some x => .good x
    | none => .wrong .unreadableNumber
  | _ => .wrong .notNumber

/-- A list of any values. -/
def values : Check (List Json)
  | .arr xs => .good xs
  | _ => .wrong .notList

end Logbook.Check
