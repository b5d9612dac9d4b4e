import Logbook.Fault
import Logbook.Text.Case
import Logbook.Text.Search
import Logbook.Validation.Checked

/-!
# Phrase filters

A condition asks for a phrase anywhere in a text, at its start or at its end, whatever the case of
its letters. A filter joins conditions by `and` or `or`; without conditions it accepts every text.
-/

namespace Logbook

/-- Where a phrase has to stand. -/
inductive Place where
  | anywhere
  | atStart
  | atEnd
  deriving DecidableEq, Repr

/-- A phrase and its place. -/
structure Condition where
  phrase : String
  place : Place := .anywhere
  deriving DecidableEq, Repr

/-- How conditions are joined. -/
inductive Connective where
  | and
  | or
  deriving DecidableEq, Repr

/-- Conditions on one text. -/
structure PhraseFilter where
  connective : Connective := .and
  conditions : List Condition
  deriving DecidableEq, Repr

namespace Place

/-- The names of the places in requests. -/
def names : List (String × Place) :=
  [("contains", anywhere), ("startsWith", atStart), ("endsWith", atEnd)]

/-- The name of a place. -/
def name : Place → String
  | anywhere => "contains"
  | atStart => "startsWith"
  | atEnd => "endsWith"

/-- Does the phrase stand at this place of the text, character for character? -/
def holds (p : Place) (phrase text : List Char) : Bool :=
  match p with
  | anywhere => Text.occursIn phrase text
  | atStart => phrase.isPrefixOf text
  | atEnd => phrase.isSuffixOf text

theorem holds_iff {p : Place} {phrase text : List Char} : p.holds phrase text = true ↔
    match p with
    | anywhere => phrase <:+: text
    | atStart => phrase <+: text
    | atEnd => phrase <:+ text := by
  cases p
  · exact Text.occursIn_iff
  · exact List.isPrefixOf_iff_prefix
  · exact List.isSuffixOf_iff_suffix

end Place

namespace Connective

/-- The names of the connectives in requests. -/
def names : List (String × Connective) :=
  [("AND", and), ("OR", or)]

/-- The name of a connective. -/
def name : Connective → String
  | and => "AND"
  | or => "OR"

end Connective

namespace Condition

/-- A condition in a request. -/
def check : Check Condition :=
  Check.object fun fs => Condition.mk <$> Check.required "phrase" Check.filledText fs <*>
    Check.defaulted "matchType" .anywhere (Check.choice Place.names) fs

/-- Does a text satisfy the condition? -/
def holds (c : Condition) (text : String) : Bool :=
  c.place.holds (Text.lower c.phrase.toList) (Text.lower text.toList)

/-- The condition as it is answered. -/
def toJson (c : Condition) : Json :=
  .obj [("phrase", .str c.phrase), ("matchType", .str c.place.name)]

end Condition

/-- A value where a text is expected: what does not count as given is the empty text. -/
def Json.asText (v : Json) : Except Fault String :=
  match v with
  | .str s => .ok s
  | v => if v.truthy then .error .noOperation else .ok ""

/-- A value that has to be a text. -/
def Json.needText (v : Json) (f : Fault) : Except Fault String :=
  match v with
  | .str s => .ok s
  | _ => .error f

namespace PhraseFilter

/-- A filter in a request: at least one condition. -/
def check : Check PhraseFilter :=
  Check.object fun fs =>
    PhraseFilter.mk <$> Check.defaulted "operator" .and (Check.choice Connective.names) fs <*>
      Check.required "conditions" (Check.filledList Condition.check) fs

/-- Does a text satisfy the filter? -/
def holds (f : PhraseFilter) (text : String) : Bool :=
  f.conditions.isEmpty ||
    match f.connective with
    | .and => f.conditions.all (·.holds text)
    | .or => f.conditions.any (·.holds text)

/-- `holds` for a value that ought to be a text. -/
def test (f : PhraseFilter) (v : Json) : Except Fault Bool :=
  if f.conditions.isEmpty then .ok true else f.holds <$> v.asText

/-- The filter as it is answered. -/
def toJson (f : PhraseFilter) : Json :=
  .obj [("operator", .str f.connective.name), ("conditions", .arr (f.conditions.map (·.toJson)))]

end PhraseFilter

end Logbook
