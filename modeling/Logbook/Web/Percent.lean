import Logbook.Text.Digit
import Logbook.Text.Search
import Logbook.Text.Utf8

/-!
# Percent escapes

An address consists of ASCII characters. Every other character, and those that would be taken for
part of its structure, are written as the escapes of their bytes. In the query of an address, pairs
of names and values stand between ampersands.
-/

namespace Logbook.Web

/-- A digit of base sixteen. -/
def hexDigit (n : Nat) : Char :=
  Char.ofNat (if n < 10 then 48 + n else 55 + n)

/-- The escape of a byte. -/
def escape (b : UInt8) : List Char :=
  ['%', hexDigit (b.toNat / 16), hexDigit (b.toNat % 16)]

/-- A text with escapes for the characters that may not be kept. -/
def escaped (keeps : Char → Bool) (s : List Char) : List Char :=
  s.flatMap fun c => if keeps c then [c] else (Text.toUtf8 [c]).flatMap escape

/-- The bytes of a text with its escapes resolved. -/
def unescapedBytes : List Char → List UInt8
  | '%' :: a :: b :: r => match Text.hexValue? a, Text.hexValue? b with
    | some m, some n => UInt8.ofNat (16 * m + n) :: unescapedBytes r
    | _, _ => 37 :: unescapedBytes (a :: b :: r)
  | c :: r => Text.toUtf8 [c] ++ unescapedBytes r
  | [] => []

/-- A text with its escapes resolved. -/
def unescaped (s : List Char) : List Char :=
  Text.ofUtf8 (unescapedBytes s)

/-- A name or value of a query, where a plus stands for a blank. -/
def unescapedField (s : List Char) : String :=
  String.ofList (unescaped (s.map fun c => if c = '+' then ' ' else c))

/-- The pair that a part of a query writes; a name without an equals sign has the empty value. -/
def queryPair (s : List Char) : String × String :=
  let (name, value) := s.span (· != '=')
  (unescapedField name, unescapedField (value.drop 1))

/-- The pairs of a query. -/
def queryPairs (query : List Char) : List (String × String) :=
  ((Text.splitOn ['&'] query).filter (!·.isEmpty)).map queryPair

end Logbook.Web
