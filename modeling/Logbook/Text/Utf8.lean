/-!
# Text as bytes

A text is written in UTF-8. Bytes that are no UTF-8 are read all the same: the replacement
character stands for each longest run of bytes that begins a character and does not end it, and
for each byte that begins none.
-/

namespace Logbook.Text

/-- The bytes of a text. -/
def toUtf8 (s : List Char) : List UInt8 :=
  (String.ofList s).toUTF8.data.toList

/-- The character that stands for bytes that are no character. -/
def replacement : Char := '\uFFFD'

/-- A character of which some bytes have been read: how many are missing, the bounds of the next
one, and the number that those read make. -/
structure Begun where
  missing : Nat
  least : Nat := 0x80
  greatest : Nat := 0xBF
  value : Nat

/-- What the first of several bytes begins. The bounds of the second byte leave out what would
have a shorter form, stand for half of a pair, or lie beyond the last code point. -/
def begun? (b : Nat) : Option Begun :=
  if b < 0xC2 then none
  else if b < 0xE0 then some { missing := 1, value := b - 0xC0 }
  else if b = 0xE0 then some { missing := 2, least := 0xA0, value := 0 }
  else if b = 0xED then some { missing := 2, greatest := 0x9F, value := 0xD }
  else if b < 0xF0 then some { missing := 2, value := b - 0xE0 }
  else if b = 0xF0 then some { missing := 3, least := 0x90, value := 0 }
  else if b < 0xF4 then some { missing := 3, value := b - 0xF0 }
  else if b = 0xF4 then some { missing := 3, greatest := 0x8F, value := 4 }
  else none

/-- What comes of one more byte: a character that is complete, or what is read of one so far. A
byte that fits nowhere is replaced. -/
def readByte (b : Nat) : List Char × Option Begun :=
  if b < 0x80 then ([Char.ofNat b], none)
  else match begun? b with
    | some p => ([], some p)
    | none => ([replacement], none)

/-- The text that bytes make behind those of a character that has begun. -/
def ofUtf8From : Option Begun → List UInt8 → List Char
  | none, [] => []
  | some _, [] => [replacement]
  | none, b :: r =>
    let (cs, p) := readByte b.toNat
    cs ++ ofUtf8From p r
  | some p, b :: r =>
    if p.least ≤ b.toNat ∧ b.toNat ≤ p.greatest then
      let value := 64 * p.value + (b.toNat - 0x80)
      if p.missing = 1 then Char.ofNat value :: ofUtf8From none r
      else ofUtf8From (some { missing := p.missing - 1, value := value }) r
    else
      let (cs, q) := readByte b.toNat
      replacement :: cs ++ ofUtf8From q r

/-- The text that bytes make. -/
def ofUtf8 (bytes : List UInt8) : List Char :=
  ofUtf8From none bytes

end Logbook.Text
