import Logbook.Phrase.Condition
import Logbook.Text.Blank

/-!
# Query strings

The text query of the search index. A phrase that may stand anywhere is quoted; one at the start or
the end of a text becomes its words with a wildcard on the outer side. What the syntax reserves is
escaped with a backslash.
-/

namespace Logbook.QueryText

/-- The characters that the syntax of query strings reserves. -/
def reserved : List Char := "+-=&|><!()\x7b\x7d[]^\"~*?:\\/".toList

/-- A text with a backslash before each reserved character. -/
def escaped (s : List Char) : List Char :=
  s.flatMap fun c => if c ∈ reserved then ['\\', c] else [c]

/-- A text in quotes, in which backslashes and quotes are escaped. -/
def quoted (s : List Char) : List Char :=
  '"' :: s.flatMap (fun c => if c = '\\' ∨ c = '"' then ['\\', c] else [c]) ++ ['"']

/-- The words of a phrase, escaped; a phrase of blanks is a word. -/
def terms (phrase : List Char) : List (List Char) :=
  match Text.words phrase with
  | [] => [escaped phrase]
  | ws => ws.map escaped

/-- The words with a wildcard behind the last. -/
def starLast : List (List Char) → List (List Char)
  | [] => []
  | [w] => [w ++ ['*']]
  | w :: ws => w :: starLast ws

/-- The words with a wildcard before the first. -/
def starFirst : List (List Char) → List (List Char)
  | [] => []
  | w :: ws => ('*' :: w) :: ws

/-- Words joined so that each is asked for. -/
def conjunction : List (List Char) → List Char
  | [] => []
  | [w] => w
  | ws => '(' :: (List.intercalate " AND ".toList ws) ++ [')']

/-- The query of a condition. -/
def ofCondition (c : Condition) : List Char :=
  match c.place with
  | .anywhere => quoted c.phrase.toList
  | .atStart => conjunction (starLast (terms c.phrase.toList))
  | .atEnd => conjunction (starFirst (terms c.phrase.toList))

/-- The query of a filter: those of its conditions with blanks between them. -/
def ofFilter (f : PhraseFilter) : List Char :=
  List.intercalate [' '] (f.conditions.map ofCondition)

end Logbook.QueryText
