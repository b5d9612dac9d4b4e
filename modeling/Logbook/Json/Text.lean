import Logbook.Json.Basic
import Logbook.Number.Shortest
import Logbook.Text.Quoted

/-!
# Values as text

`Json.write` lays a value out in a given style. There are three: `compact` is JSON without
blanks that keeps every character, `spaced` is JSON with blanks after its separators in ASCII
alone, and `shown` is the form for people, with `None`, `True` and `False` and literals for
texts. `Json.display` shows a text as it is and every other value in the last style.
-/

namespace Logbook.Json

/-- What a style decides: the words for `null` and the truth values, the form of numbers and
texts, and the two separators. -/
structure Style where
  nothing : List Char
  no : List Char
  yes : List Char
  number : Double → String
  quote : List Char → List Char
  comma : List Char
  colon : List Char

mutual

/-- A value in a style. -/
def write (st : Style) : Json → List Char
  | .null => st.nothing
  | .bool b => if b then st.yes else st.no
  | .int n => (toString n).toList
  | .float x => (st.number x).toList
  | .str s => st.quote s.toList
  | .arr xs => '[' :: writeItems st xs ++ [']']
  | .obj fs => '{' :: writeFields st fs ++ ['}']

/-- The items of a list with separators between them. -/
def writeItems (st : Style) : List Json → List Char
  | [] => []
  | [x] => write st x
  | x :: y :: r => write st x ++ st.comma ++ writeItems st (y :: r)

/-- The fields of an object with separators between them. -/
def writeFields (st : Style) : Fields → List Char
  | [] => []
  | [(k, v)] => st.quote k.toList ++ st.colon ++ write st v
  | (k, v) :: f :: r =>
    st.quote k.toList ++ st.colon ++ write st v ++ st.comma ++ writeFields st (f :: r)

end

/-- JSON without blanks. -/
def compactStyle : Style where
  nothing := ['n', 'u', 'l', 'l']
  no := ['f', 'a', 'l', 's', 'e']
  yes := ['t', 'r', 'u', 'e']
  number := Double.textWith "Infinity" "NaN"
  quote := Text.jsonString false
  comma := [',']
  colon := [':']

/-- JSON in ASCII with a blank after each separator. -/
def spacedStyle : Style :=
  { compactStyle with quote := Text.jsonString true, comma := [',', ' '], colon := [':', ' '] }

/-- The form for people. -/
def shownStyle : Style where
  nothing := ['N', 'o', 'n', 'e']
  no := ['F', 'a', 'l', 's', 'e']
  yes := ['T', 'r', 'u', 'e']
  number := Double.text
  quote := Text.literal
  comma := [',', ' ']
  colon := [':', ' ']

/-- A value as JSON without blanks. -/
def compact (v : Json) : String :=
  String.ofList (write compactStyle v)

/-- A value as JSON in ASCII. -/
def spaced (v : Json) : String :=
  String.ofList (write spacedStyle v)

/-- A value as it is put into a text. -/
def display : Json → String
  | .str s => s
  | v => String.ofList (write shownStyle v)

@[simp] theorem display_str (s : String) : display (.str s) = s := rfl

end Logbook.Json
