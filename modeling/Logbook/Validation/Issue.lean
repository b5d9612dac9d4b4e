/-!
# Issues of a rejected value

A value that does not have the shape a model asks for is rejected with a list of issues. An issue
says where in the value it stands and what is wrong there.
-/

namespace Logbook

/-- A step from a value to one of its parts, or to one of the shapes that a field may have. -/
inductive Step where
  | field (name : String)
  | item (index : Nat)
  deriving DecidableEq, Repr

/-- What is wrong with a value. -/
inductive Complaint where
  | missing
  | unexpected
  | notText
  | emptyText
  | notChoice (choices : List String)
  | notObject
  | notMapping
  | notList
  | noItems
  | notInteger
  | unreadableInteger
  | oversizeInteger
  | fractional
  | notFinite
  | below (least : Int)
  | above (greatest : Int)
  | notTruth
  | unreadableTruth
  | notNumber
  | unreadableNumber
  deriving DecidableEq, Repr

/-- The choices in quotes, the last one behind `or`. -/
def choicesText : List String → String
  | [] => ""
  | [c] => "'" ++ c ++ "'"
  | [c, d] => "'" ++ c ++ "' or '" ++ d ++ "'"
  | c :: r => "'" ++ c ++ "', " ++ choicesText r

/-- The complaint in words. -/
def Complaint.message : Complaint → String
  | missing => "Field required"
  | unexpected => "Extra inputs are not permitted"
  | notText => "Input should be a valid string"
  | emptyText => "String should have at least 1 character"
  | notChoice choices => "Input should be " ++ choicesText choices
  | notObject => "Input should be a valid dictionary or object to extract fields from"
  | notMapping => "Input should be a valid dictionary"
  | notList => "Input should be a valid list"
  | noItems => "List should have at least 1 item after validation, not 0"
  | notInteger => "Input should be a valid integer"
  | unreadableInteger => "Input should be a valid integer, unable to parse string as an integer"
  | oversizeInteger => "Unable to parse input string as an integer, exceeded maximum size"
  | fractional => "Input should be a valid integer, got a number with a fractional part"
  | notFinite => "Input should be a finite number"
  | below least => "Input should be greater than or equal to " ++ toString least
  | above greatest => "Input should be less than or equal to " ++ toString greatest
  | notTruth => "Input should be a valid boolean"
  | unreadableTruth => "Input should be a valid boolean, unable to interpret input"
  | notNumber => "Input should be a valid number"
  | unreadableNumber => "Input should be a valid number, unable to parse string as a number"

/-- One thing that is wrong, and where. -/
structure Issue where
  path : List Step
  complaint : Complaint
  deriving DecidableEq, Repr

end Logbook
