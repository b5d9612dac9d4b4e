import Logbook.Json.Text
import Logbook.Text.Utf8

/-!
# Values as they are read

By an escape a JSON text can name half of a surrogate pair without the other. Such a half is no
character, and yet it is kept: the texts of a value that is read, the names of its fields among them,
are made of points. Most values are whole, that is, their points are characters. The others are
values for little else than to be stored as JSON: they have no bytes, so nothing that asks for these
takes them.
-/

namespace Logbook

/-- A point of a text that is read: a character, or half of a pair without the other. -/
inductive Point where
  | char (c : Char)
  /-- The half with the code point `0xD800 + n`. -/
  | half (n : Fin 0x800)
  deriving DecidableEq, Repr

namespace Point

/-- Is the point half of a pair? -/
def isHalf : Point → Bool
  | char _ => false
  | half _ => true

/-- The point as a character; the replacement character stands for a half. -/
def mended : Point → Char
  | char c => c
  | half _ => Text.replacement

/-- One point of a literal between the quotes `quote`. -/
def literal (quote : Char) : Point → List Char
  | char c => Text.literalChar quote c
  | half n => Text.numbered (0xD800 + n)

end Point

/-- A value that is read. -/
inductive Loaded where
  | null
  | bool (b : Bool)
  | int (n : Int)
  | float (x : Double)
  | str (points : List Point)
  | arr (items : List Loaded)
  | obj (fields : List (List Point × Loaded))
  deriving Repr, Inhabited

/-- The fields of an object that is read: each name once, in order. -/
abbrev LoadedFields := List (List Point × Loaded)

namespace Loaded

mutual

/-- Structural identity as a test. -/
def same : Loaded → Loaded → Bool
  | .null, .null => true
  | .bool a, .bool b => a == b
  | .int m, .int n => m == n
  | .float x, .float y => x == y
  | .str s, .str t => s == t
  | .arr xs, .arr ys => sameItems xs ys
  | .obj fs, .obj gs => sameFields fs gs
  | _, _ => false

/-- `same` on lists. -/
def sameItems : List Loaded → List Loaded → Bool
  | [], [] => true
  | x :: xs, y :: ys => same x y && sameItems xs ys
  | _, _ => false

/-- `same` on fields. -/
def sameFields : LoadedFields → LoadedFields → Bool
  | [], [] => true
  | (k, v) :: r, (l, w) :: t => k == l && (same v w && sameFields r t)
  | _, _ => false

end

mutual

theorem same_iff : ∀ (v w : Loaded), same v w = true ↔ v = w
  | .null, w => by cases w <;> simp [same]
  | .bool _, w => by cases w <;> simp [same]
  | .int _, w => by cases w <;> simp [same]
  | .float _, w => by cases w <;> simp [same]
  | .str _, w => by cases w <;> simp [same]
  | .arr xs, w => by cases w <;> simp [same, sameItems_iff xs]
  | .obj fs, w => by cases w <;> simp [same, sameFields_iff fs]

theorem sameItems_iff : ∀ (xs ys : List Loaded), sameItems xs ys = true ↔ xs = ys
  | [], ys => by cases ys <;> simp [sameItems]
  | x :: xs, ys => by
    cases ys <;> simp [sameItems, same_iff x, sameItems_iff xs]

theorem sameFields_iff : ∀ (fs gs : LoadedFields), sameFields fs gs = true ↔ fs = gs
  | [], gs => by cases gs <;> simp [sameFields]
  | (k, v) :: r, gs => by
    rcases gs with _ | ⟨⟨l, w⟩, t⟩ <;>
      simp [sameFields, same_iff v, sameFields_iff r, and_assoc]

end

instance : DecidableEq Loaded := fun v w =>
  if h : same v w = true then .isTrue ((same_iff v w).1 h)
  else .isFalse fun e => h ((same_iff v w).2 e)

/-- A text of characters. -/
def ofText (s : String) : List Point :=
  s.toList.map .char

mutual

/-- A value of characters as it is read. -/
def ofJson : Json → Loaded
  | .null => .null
  | .bool b => .bool b
  | .int n => .int n
  | .float x => .float x
  | .str s => .str (ofText s)
  | .arr xs => .arr (ofItems xs)
  | .obj fs => .obj (ofFields fs)

/-- `ofJson` on lists. -/
def ofItems : List Json → List Loaded
  | [] => []
  | v :: r => ofJson v :: ofItems r

/-- `ofJson` on fields. -/
def ofFields : Fields → LoadedFields
  | [] => []
  | (k, v) :: r => (ofText k, ofJson v) :: ofFields r

end

/-- The text with the replacement character in the place of each half. -/
def mendedText (s : List Point) : String :=
  String.ofList (s.map (·.mended))

mutual

/-- The value with the replacement character in the place of each half. -/
def mended : Loaded → Json
  | .null => .null
  | .bool b => .bool b
  | .int n => .int n
  | .float x => .float x
  | .str s => .str (mendedText s)
  | .arr xs => .arr (mendedItems xs)
  | .obj fs => .obj (mendedFields fs)

/-- `mended` on lists. -/
def mendedItems : List Loaded → List Json
  | [] => []
  | v :: r => mended v :: mendedItems r

/-- `mended` on fields. -/
def mendedFields : LoadedFields → Fields
  | [] => []
  | (k, v) :: r => (mendedText k, mended v) :: mendedFields r

end

/-- Is there a half in a text? -/
def isTorn (s : List Point) : Bool :=
  s.any (·.isHalf)

mutual

/-- Is there no half in any text of the value? -/
def isWhole : Loaded → Bool
  | .str s => !isTorn s
  | .arr xs => wholeItems xs
  | .obj fs => wholeFields fs
  | _ => true

/-- `isWhole` on lists. -/
def wholeItems : List Loaded → Bool
  | [] => true
  | v :: r => isWhole v && wholeItems r

/-- `isWhole` on fields. -/
def wholeFields : LoadedFields → Bool
  | [] => true
  | (k, v) :: r => !isTorn k && (isWhole v && wholeFields r)

end

/-- A text as a literal. -/
def literal (s : List Point) : List Char :=
  let quote := if s.contains (.char '\'') && !s.contains (.char '"') then '"' else '\''
  quote :: s.flatMap (·.literal quote) ++ [quote]

mutual

/-- A value in the form for people, where halves are escaped. -/
def shown : Loaded → List Char
  | .null => Json.write Json.shownStyle .null
  | .bool b => Json.write Json.shownStyle (.bool b)
  | .int n => Json.write Json.shownStyle (.int n)
  | .float x => Json.write Json.shownStyle (.float x)
  | .str s => literal s
  | .arr xs => '[' :: shownItems xs ++ [']']
  | .obj fs => '{' :: shownFields fs ++ ['}']

/-- The items of a list in that form. -/
def shownItems : List Loaded → List Char
  | [] => []
  | [x] => shown x
  | x :: y :: r => shown x ++ [',', ' '] ++ shownItems (y :: r)

/-- The fields of an object in that form. -/
def shownFields : LoadedFields → List Char
  | [] => []
  | [(k, v)] => literal k ++ [':', ' '] ++ shown v
  | (k, v) :: f :: r => literal k ++ [':', ' '] ++ shown v ++ [',', ' '] ++ shownFields (f :: r)

end

end Loaded

end Logbook
