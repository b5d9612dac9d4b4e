import Logbook.Json.Loaded
import Logbook.Text.Integer

/-!
# Reading JSON text

`Loaded.read` reads one value and nothing behind it. Beyond standard JSON it takes the words
`NaN`, `Infinity` and `-Infinity`; of two fields with one name the later value stands at the
earlier place; and a number with a fraction or an exponent is a double, every other an integer of
at most `Text.maxDigits` digits.

A value reader returns the value and the text behind it. Every reader but the one for digits
uses up a character before it calls another, so the length of the text bounds the depth of calls.
-/

namespace Logbook.Json.Reader

/-- Characters that may stand between the parts of a value. -/
def isGap (c : Char) : Bool :=
  c == ' ' || c == '\t' || c == '\n' || c == '\r'

/-- The text without the gap at its start. -/
def skip (s : List Char) : List Char :=
  s.dropWhile isGap

/-- The number that four hexadecimal digits write. -/
def unit? (a b c d : Char) : Option Nat := do
  return 4096 * (← Text.hexValue? a) + 256 * (← Text.hexValue? b) + 16 * (← Text.hexValue? c) +
    (← Text.hexValue? d)

/-- The character that a letter behind a backslash stands for. -/
def escape? (c : Char) : Option Char :=
  [('"', '"'), ('\\', '\\'), ('/', '/'), ('b', '\x08'), ('f', '\x0c'), ('n', '\n'), ('r', '\r'),
    ('t', '\t')].lookup c

/-- The code points and UTF-16 units up to the closing quote, and the text behind it. -/
def units : List Char → Option (List Nat × List Char)
  | [] => none
  | '"' :: r => some ([], r)
  | '\\' :: 'u' :: a :: b :: c :: d :: r => do
    let n ← unit? a b c d
    let (ns, rest) ← units r
    return (n :: ns, rest)
  | '\\' :: c :: r => do
    let e ← escape? c
    let (ns, rest) ← units r
    return (e.toNat :: ns, rest)
  | c :: r =>
    if c.toNat < 32 then none
    else (units r).map fun (ns, rest) => (c.toNat :: ns, rest)

/-- The first half of a pair of UTF-16 units. -/
def isHigh (n : Nat) : Bool := 0xD800 ≤ n && n ≤ 0xDBFF

/-- The second half of a pair of UTF-16 units. -/
def isLow (n : Nat) : Bool := 0xDC00 ≤ n && n ≤ 0xDFFF

/-- A code point or a half as a point. -/
def point (n : Nat) : Point :=
  if half : 0xD800 ≤ n ∧ n ≤ 0xDFFF then .half ⟨n - 0xD800, by omega⟩ else .char (Char.ofNat n)

/-- The points of code points and units, pairs joined. -/
def points : List Nat → List Point
  | [] => []
  | [n] => [point n]
  | n :: m :: r =>
    if isHigh n && isLow m then
      .char (Char.ofNat (0x10000 + (n - 0xD800) * 0x400 + (m - 0xDC00))) :: points r
    else point n :: points (m :: r)

/-- The rest of a string behind its opening quote. -/
def string? (s : List Char) : Option (List Point × List Char) :=
  (units s).map fun (ns, rest) => (points ns, rest)

/-- An ASCII digit. -/
def isDigit (c : Char) : Bool := '0' ≤ c && c ≤ '9'

/-- The digits at the start of a text, and the rest. -/
def digits (s : List Char) : List Char × List Char :=
  s.span isDigit

/-- The number that ASCII digits write. -/
def natural (ds : List Char) : Nat :=
  ds.foldl (fun acc c => 10 * acc + (c.toNat - 48)) 0

/-- The digits behind a decimal point, if the text starts with such a fraction. -/
def fraction? : List Char → Option (List Char × List Char)
  | '.' :: r => match digits r with
    | ([], _) => none
    | p => some p
  | _ => none

/-- The exponent that a text starts with, if it starts with one. -/
def exponent? : List Char → Option (Int × List Char)
  | c :: r =>
    if c = 'e' || c = 'E' then
      let (negative, s) := Text.unsigned r
      match digits s with
      | ([], _) => none
      | (ds, rest) => some (Text.signed negative (natural ds), rest)
    else none
  | [] => none

/-- The digits before the point: one zero or no zero at the start. -/
def whole? : List Char → Option (List Char × List Char)
  | '0' :: r => some (['0'], r)
  | s => match digits s with
    | ([], _) => none
    | p => some p

/-- A number behind its sign. -/
def number? (negative : Bool) (s : List Char) : Option (Loaded × List Char) := do
  let (ds, r) ← whole? s
  let fraction := fraction? r
  let r' := fraction.elim r (·.2)
  match fraction, exponent? r' with
  | none, none =>
    if ds.length ≤ Text.maxDigits then some (.int (Text.signed negative (natural ds)), r) else none
  | _, exponent =>
    let fs := fraction.elim [] (·.1)
    let (e, rest) := exponent.getD (0, r')
    some (.float (Double.ofDecimal negative (natural (ds ++ fs)) (e - fs.length)), rest)

/-- The words that are values. -/
def wordValues : List (List Char × Loaded) := [
  ("null".toList, .null), ("true".toList, .bool true), ("false".toList, .bool false),
  ("NaN".toList, .float .nan), ("Infinity".toList, .float (.infinite false)),
  ("-Infinity".toList, .float (.infinite true))]

/-- The word that a text starts with. -/
def word? (s : List Char) : Option (Loaded × List Char) :=
  (wordValues.find? fun (w, _) => w.isPrefixOf s).map fun (w, v) => (v, s.drop w.length)

/-- A value without parts. -/
def scalar? (s : List Char) : Option (Loaded × List Char) :=
  match word? s with
  | some p => some p
  | none => match s with
    | '"' :: r => (string? r).map fun (t, rest) => (.str t, rest)
    | '-' :: r => number? true r
    | _ => number? false s

mutual

/-- A value at the start of a text, with calls at most `fuel` deep. -/
def value : Nat → List Char → Option (Loaded × List Char)
  | 0, _ => none
  | fuel + 1, s => match s with
    | '[' :: r => match skip r with
      | ']' :: rest => some (.arr [], rest)
      | s' => do
        let (xs, rest) ← items fuel s'
        return (.arr xs, rest)
    | '{' :: r => match skip r with
      | '}' :: rest => some (.obj [], rest)
      | s' => do
        let (fs, rest) ← fields fuel [] s'
        return (.obj fs, rest)
    | _ => scalar? s

/-- The items of a list up to its closing bracket. -/
def items : Nat → List Char → Option (List Loaded × List Char)
  | 0, _ => none
  | fuel + 1, s => do
    let (x, r) ← value fuel s
    match skip r with
    | ']' :: rest => return ([x], rest)
    | ',' :: r' =>
      let (xs, rest) ← items fuel (skip r')
      return (x :: xs, rest)
    | _ => none

/-- The fields of an object up to its closing brace, put behind those already read. -/
def fields : Nat → LoadedFields → List Char → Option (LoadedFields × List Char)
  | 0, _, _ => none
  | fuel + 1, fs, s => match s with
    | '"' :: r => do
      let (k, r₁) ← string? r
      match skip r₁ with
      | ':' :: r₂ =>
        let (v, r₃) ← value fuel (skip r₂)
        match skip r₃ with
        | '}' :: rest => return (Keyed.put k v fs, rest)
        | ',' :: r₄ => fields fuel (Keyed.put k v fs) (skip r₄)
        | _ => none
      | _ => none
    | _ => none

end

end Logbook.Json.Reader

namespace Logbook

/-- The value that a JSON text writes. -/
def Loaded.read (s : List Char) : Option Loaded := do
  let (v, rest) ← Json.Reader.value (2 * s.length + 1) (Json.Reader.skip s)
  if (Json.Reader.skip rest).isEmpty then return v else none

/-- The value that a JSON text writes, with the replacement character in the place of each half. -/
def Json.read (s : List Char) : Option Json :=
  (Loaded.read s).map (·.mended)

end Logbook
