import Logbook.Fault
import Logbook.Json.Basic
import Logbook.Number.Word
import Logbook.Text.Blank
import Logbook.Text.Integer

/-!
# Checking values

A check turns a value into what it stands for or lists everything that is wrong with it. Checks
of several parts are put together with `seq`, which keeps the issues of all of them in order.
Fields that no check asks for are passed over.
-/

namespace Logbook

/-- The outcome of a check. -/
inductive Checked (α : Type) where
  | good (a : α)
  | bad (issues : List Issue)
  deriving Repr

namespace Checked

variable {α β : Type}

/-- The outcome with a function applied to what was found. -/
def map (f : α → β) : Checked α → Checked β
  | good a => good (f a)
  | bad is => bad is

/-- Two outcomes put together: the issues of both, or what was found. -/
def seq : Checked (α → β) → Checked α → Checked β
  | good f, good a => good (f a)
  | good _, bad js => bad js
  | bad is, good _ => bad is
  | bad is, bad js => bad (is ++ js)

/-- The outcome of a further check, if the first found something. -/
def andThen (c : Checked α) (f : α → Checked β) : Checked β :=
  match c with
  | good a => f a
  | bad is => bad is

/-- The outcome for a part, seen from the whole. -/
def under (s : Step) : Checked α → Checked α
  | good a => good a
  | bad is => bad (is.map fun i => { i with path := s :: i.path })

/-- A single issue with the value itself. -/
def wrong (c : Complaint) : Checked α :=
  bad [⟨[], c⟩]

/-- What was found, if nothing was wrong. -/
def get? : Checked α → Option α
  | good a => some a
  | bad _ => none

/-- What was found, or the issues as a fault. -/
def orFault : Checked α → Except Fault α
  | good a => .ok a
  | bad is => .error (.invalid is)

instance : Functor Checked where
  map := map

instance : Seq Checked where
  seq f a := seq f (a ())

/-- The outcomes for the items of a list, from the given index on. -/
def items (check : Json → Checked α) : Nat → List Json → Checked (List α)
  | _, [] => good []
  | i, v :: r => List.cons <$> (check v).under (.item i) <*> items check (i + 1) r

end Checked

/-- A test of a value. -/
abbrev Check (α : Type) := Json → Checked α

namespace Check

variable {α : Type}

/-- A text. -/
def text : Check String
  | .str s => .good s
  | _ => .wrong .notText

/-- A text with at least one character. -/
def filledText : Check String
  | .str s => if s = "" then .wrong .emptyText else .good s
  | _ => .wrong .notText

/-- One of some texts, each of which stands for a value. -/
def choice (choices : List (String × α)) (v : Json) : Checked α :=
  match v with
  | .str s => match choices.lookup s with
    | some a => .good a
    | none => .wrong (.notChoice (choices.map (·.1)))
  | _ => .wrong (.notChoice (choices.map (·.1)))

/-- A list of what `check` asks for. -/
def list (check : Check α) : Check (List α)
  | .arr xs => Checked.items check 0 xs
  | _ => .wrong .notList

/-- A list of what `check` asks for with at least one item. -/
def filledList (check : Check α) : Check (List α)
  | .arr [] => .wrong .noItems
  | v => list check v

/-- `null`, or what `check` asks for. -/
def optional (check : Check α) : Check (Option α)
  | .null => .good none
  | v => (check v).map some

/-- An object, whose fields are checked by `check`. -/
def object (check : Fields → Checked α) : Check α
  | .obj fs => check fs
  | _ => .wrong .notObject

/-- A field that has to be there. -/
def required (name : String) (check : Check α) (fs : Fields) : Checked α :=
  match fs.lookup name with
  | some v => (check v).under (.field name)
  | none => .bad [⟨[.field name], .missing⟩]

/-- A field that stands for `absent` where it is missing. -/
def defaulted (name : String) (absent : α) (check : Check α) (fs : Fields) : Checked α :=
  match fs.lookup name with
  | some v => (check v).under (.field name)
  | none => .good absent

/-- A field that may be missing or `null`. -/
def optionalField (name : String) (check : Check α) (fs : Fields) : Checked (Option α) :=
  defaulted name none (optional check) fs

/-- Decimal digits of ASCII. -/
def asciiDigits? (ds : List Char) : Option Nat :=
  if ds.isEmpty || !ds.all Char.isDigit then none else Text.digitsValue? ds

/-- A text without the single underscores between its characters; none if there is another one. -/
def withoutUnderscores? : List Char → Option (List Char)
  | [] => some []
  | ['_'] => none
  | '_' :: _ => none
  | c :: '_' :: d :: r => if d = '_' then none else (withoutUnderscores? (d :: r)).map (c :: ·)
  | c :: r => (withoutUnderscores? r).map (c :: ·)

/-- A text after a zero from its first digit other than zero, or its minus, on, past zeros and
underscores. The last of these stays before a point and at the end of the text. -/
def pastZeros? (last : Char) : List Char → Option (List Char)
  | [] => some [last]
  | c :: r =>
    if c = '0' ∨ c = '_' then pastZeros? c r
    else if c = '.' then some (last :: c :: r)
    else if c = '-' ∨ c.isDigit then some (c :: r)
    else none

/-- A text that starts with a minus or a digit, without leading zeros. -/
def withoutZeros? : List Char → Option (List Char)
  | [] => none
  | c :: r =>
    if c = '0' then pastZeros? c r
    else if c = '-' ∨ c.isDigit then some (c :: r)
    else none

/-- A text without its plus, which may not stand before a minus. -/
def withoutPlus? : List Char → Option (List Char)
  | '+' :: '-' :: _ => none
  | '+' :: r => some r
  | s => some s

/-- A text without the fraction of at least one zero at its end. A text with another fraction
stays as it is. -/
def withoutFraction (s : List Char) : List Char :=
  match s.span (· != '.') with
  | (ds, _ :: fs) => if !fs.isEmpty && fs.all (· == '0') then ds else s
  | _ => s

/-- The integer that a text writes: with white space around it, a plus, leading zeros and a
fraction of zeros, and otherwise as `Text.integer?` reads it. -/
def integerText? (s : List Char) : Option Int :=
  ((withoutPlus? (Text.trimBy Text.isSpace s)).bind withoutZeros?).bind fun t =>
    Text.integer? (withoutFraction t)

/-- An integer, or a truth value, number or text that stands for one. -/
def integer : Check Int
  | .bool b => .good (if b then 1 else 0)
  | .int n => .good n
  | .float x =>
    if !x.isFinite then .wrong .notFinite
    else if !x.isWhole then .wrong .fractional
    else match x.truncate? with
      | some n => if Word.holds n && Word.holds (-n) then .good n else .wrong .oversizeInteger
      | none => .wrong .notFinite
  | .str s => match integerText? s.toList with
    | some n => .good n
    | none => .wrong .unreadableInteger
  | _ => .wrong .notInteger

/-- An integer of at least `least`. -/
def integerFrom (least : Int) (v : Json) : Checked Int :=
  (integer v).andThen fun n => if n < least then .wrong (.below least) else .good n

/-- An integer from `least` to `greatest`. -/
def integerWithin (least greatest : Int) (v : Json) : Checked Int :=
  (integer v).andThen fun n =>
    if greatest < n then .wrong (.above greatest)
    else if n < least then .wrong (.below least)
    else .good n

end Check

end Logbook
