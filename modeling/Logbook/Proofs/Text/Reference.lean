import Logbook.Alarm.Render
import Logbook.Text.Digit

/-!
# Character references

A reader of HTML puts the characters that a reference stands for in the place of the reference. A
reference is an ampersand with a number or a name behind it. A name may be given without its
semicolon, and of the names that a text may begin with the longest counts; so the text behind an
ampersand decides what is read. Which names and numbers there are is left open but for those that
escaping makes use of: whatever the others stand for, an escaped text is read as the text itself
(`References.unescape_flatMap`).
-/

namespace Logbook

/-- What references stand for. The names come with their semicolons, if these belong to them. -/
structure References where
  named : List Char → Option (List Char)
  numbered : Nat → List Char
  ampersand : named ['a', 'm', 'p', ';'] = some ['&']
  less : named ['l', 't', ';'] = some ['<']
  greater : named ['g', 't', ';'] = some ['>']
  quote : named ['q', 'u', 'o', 't', ';'] = some ['"']
  apostrophe : numbered 39 = ['\'']

namespace References

variable (refs : References)

/-- No other names, and for each number the character of this number. -/
def basic : References where
  named
    | ['a', 'm', 'p', ';'] => some ['&']
    | ['l', 't', ';'] => some ['<']
    | ['g', 't', ';'] => some ['>']
    | ['q', 'u', 'o', 't', ';'] => some ['"']
    | _ => none
  numbered n := [Char.ofNat n]
  ampersand := rfl
  less := rfl
  greater := rfl
  quote := rfl
  apostrophe := by decide

/-- May a name have the character in it? -/
def isNaming (c : Char) : Bool :=
  c ∉ ['\t', '\n', '\x0c', ' ', '<', '&', '#', ';']

/-- The beginning of a text, with the semicolon behind it if there is one. -/
def closed (w s : List Char) : List Char :=
  if (s.drop w.length).head? = some ';' then w ++ [';'] else w

/-- A name, or the longest of its beginnings that is one: how much it takes and what it stands for.
A beginning has at least two characters. -/
def name? (w : List Char) : Option (Nat × List Char) :=
  (w :: (List.range (w.length - 2)).map fun k => w.take (w.length - 1 - k)).findSome? fun name =>
    (refs.named name).map (name.length, ·)

/-- A number with its digits in a base, and the length of what stands in front of them. -/
def number? (lead base : Nat) (isDigit : Char → Bool) (s : List Char) : Option (Nat × List Char) :=
  match s.takeWhile isDigit with
  | [] => none
  | digits =>
    let n := digits.foldl (fun n c => base * n + (Text.hexValue? c).getD 0) 0
    some (lead + (closed digits s).length, refs.numbered n)

/-- The reference that the text behind an ampersand begins with: how much it takes and what it stands
for. -/
def reference? (s : List Char) : Option (Nat × List Char) :=
  match s with
  | '#' :: 'x' :: r => refs.number? 2 16 (fun c => (Text.hexValue? c).isSome) r
  | '#' :: 'X' :: r => refs.number? 2 16 (fun c => (Text.hexValue? c).isSome) r
  | '#' :: r => refs.number? 1 10 Char.isDigit r
  | _ =>
    match (s.takeWhile isNaming).take 32 with
    | [] => none
    | w => refs.name? (closed w s)

/-- What is read in a text behind its first `k` characters. -/
def unescapeFrom : Nat → List Char → List Char
  | _, [] => []
  | k + 1, _ :: r => unescapeFrom k r
  | 0, c :: r =>
    if c = '&' then
      match refs.reference? r with
      | some (k, t) => t ++ unescapeFrom k r
      | none => c :: unescapeFrom 0 r
    else c :: unescapeFrom 0 r

/-- A text with all references in it read. -/
def unescape (s : List Char) : List Char :=
  refs.unescapeFrom 0 s

section Reading

variable {refs}

theorem unescapeFrom_length (w r : List Char) :
    refs.unescapeFrom w.length (w ++ r) = refs.unescape r := by
  induction w with
  | nil => rfl
  | cons c w ih => exact ih

/-- Behind an ampersand the reference is read, and then what follows it. -/
theorem unescape_reference {w t r : List Char}
    (stands : refs.reference? (w ++ r) = some (w.length, t)) :
    refs.unescape ('&' :: w ++ r) = t ++ refs.unescape r := by
  rw [unescape, List.cons_append, unescapeFrom, if_pos rfl, stands]
  exact congrArg (t ++ ·) (unescapeFrom_length w r)

theorem unescape_cons {c : Char} (plain : c ≠ '&') (r : List Char) :
    refs.unescape (c :: r) = c :: refs.unescape r := by
  rw [unescape, unescapeFrom, if_neg plain]
  rfl

/-- A whole name goes before its beginnings. -/
theorem name?_of_named {w t : List Char} (known : refs.named w = some t) :
    refs.name? w = some (w.length, t) := by
  rw [name?, List.findSome?_cons, known]
  rfl

end Reading

section Escaped

open Render

/-- What a character is escaped to is read as the character. -/
theorem unescape_escapeChar (c : Char) (r : List Char) :
    refs.unescape (escapeChar c ++ r) = c :: refs.unescape r := by
  unfold escapeChar
  split
  · exact unescape_reference (w := ['a', 'm', 'p', ';']) (name?_of_named refs.ampersand)
  · exact unescape_reference (w := ['l', 't', ';']) (name?_of_named refs.less)
  · exact unescape_reference (w := ['g', 't', ';']) (name?_of_named refs.greater)
  · exact unescape_reference (w := ['q', 'u', 'o', 't', ';']) (name?_of_named refs.quote)
  · apply unescape_reference (w := ['#', 'x', '2', '7', ';']) (t := ['\''])
    rw [← refs.apostrophe]
    rfl
  · next plain _ _ _ _ => exact unescape_cons plain r

/-- What is escaped is read as it was, whatever stands behind it. -/
theorem unescape_flatMap_append (s r : List Char) :
    refs.unescape (s.flatMap escapeChar ++ r) = s ++ refs.unescape r := by
  induction s with
  | nil => rfl
  | cons c cs ih =>
    rw [List.flatMap_cons, List.append_assoc, unescape_escapeChar, ih]
    rfl

/-- An escaped text is read as the text. -/
theorem unescape_flatMap (s : List Char) : refs.unescape (s.flatMap escapeChar) = s := by
  have read := refs.unescape_flatMap_append s []
  rw [List.append_nil] at read
  exact read.trans (List.append_nil s)

end Escaped

end References

end Logbook
