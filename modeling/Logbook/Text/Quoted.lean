import Logbook.Text.Printable

/-!
# Quoted text

Two ways of putting a text between quotes. A literal, as it stands inside a shown list, has
single quotes unless that would need an escape and double quotes would not; what cannot be shown
is written by its code point. A JSON string has double quotes and escapes what JSON forbids, and
on demand everything outside printable ASCII.
-/

namespace Logbook.Text

/-- A number in base 16 with at least `width` digits. -/
def hex (width n : Nat) : List Char :=
  let ds := Nat.toDigits 16 n
  List.replicate (width - ds.length) '0' ++ ds

/-- The escape of a code point by its number: two, four or eight digits. -/
def numbered (n : Nat) : List Char :=
  if n < 0x100 then '\\' :: 'x' :: hex 2 n
  else if n < 0x10000 then '\\' :: 'u' :: hex 4 n
  else '\\' :: 'U' :: hex 8 n

/-- One character of a literal between the quotes `quote`. -/
def literalChar (quote c : Char) : List Char :=
  if c = quote || c = '\\' then ['\\', c]
  else if c = '\n' then ['\\', 'n']
  else if c = '\r' then ['\\', 'r']
  else if c = '\t' then ['\\', 't']
  else if isPrintable c then [c]
  else numbered c.toNat

/-- A text as a literal. -/
def literal (s : List Char) : List Char :=
  let quote := if s.contains '\'' && !s.contains '"' then '"' else '\''
  quote :: s.flatMap (literalChar quote) ++ [quote]

/-- The escape of a code point in JSON: its UTF-16 units. -/
def jsonNumbered (n : Nat) : List Char :=
  if n < 0x10000 then '\\' :: 'u' :: hex 4 n
  else
    '\\' :: 'u' :: hex 4 (0xD800 + (n - 0x10000) / 0x400) ++
      '\\' :: 'u' :: hex 4 (0xDC00 + (n - 0x10000) % 0x400)

/-- One character of a JSON string; `ascii` asks for printable ASCII alone. -/
def jsonChar (ascii : Bool) (c : Char) : List Char :=
  if c = '"' || c = '\\' then ['\\', c]
  else if c = '\n' then ['\\', 'n']
  else if c = '\r' then ['\\', 'r']
  else if c = '\t' then ['\\', 't']
  else if c = '\x08' then ['\\', 'b']
  else if c = '\x0c' then ['\\', 'f']
  else if c.toNat < 32 || (ascii && 126 < c.toNat) then jsonNumbered c.toNat
  else [c]

/-- A text as a JSON string. -/
def jsonString (ascii : Bool) (s : List Char) : List Char :=
  '"' :: s.flatMap (jsonChar ascii) ++ ['"']

end Logbook.Text
