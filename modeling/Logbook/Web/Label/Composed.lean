import Logbook.Web.Label.Compositions

/-!
# The composed form of a text

A letter with marks can be written as one character or as several. The composed form settles that:
every character is taken apart, marks are put into the order of their classes, and pairs that make
one character are put together. `isComposed` tests whether a text has this form.
-/

namespace Logbook.Web.Label

/-- The combining class of a character; zero for one that is no mark or whose place is fixed. -/
def combiningClass (c : Nat) : Nat :=
  ((classRows.find? fun r => r.1 ≤ c && c ≤ r.2.1).map (·.2.2)).getD 0

/-- The two characters that a character is made of. -/
def parts? (c : Nat) : Option (Nat × Nat) :=
  pairs.lookup c

/-- The character that is made of two. -/
def whole? (a b : Nat) : Option Nat :=
  (pairs.find? fun p => p.2.1 == a && p.2.2 == b).map (·.1)

/-- The largest number of steps in which a character is taken apart. -/
def maxSteps : Nat := 4

/-- A character taken apart, in at most `fuel` steps. -/
def takenApart : Nat → Nat → List Nat
  | 0, c => [c]
  | fuel + 1, c => match parts? c with
    | some (a, b) => takenApart fuel a ++ [b]
    | none => [c]

/-- A character put before a text in order, behind the marks of smaller classes. -/
def putMark (c : Nat) : List Nat → List Nat
  | [] => [c]
  | d :: r =>
    if combiningClass d ≠ 0 ∧ combiningClass d < combiningClass c then d :: putMark c r
    else c :: d :: r

/-- A text with its marks in order. -/
def inOrder : List Nat → List Nat
  | [] => []
  | c :: r => putMark c (inOrder r)

/-- A text put together behind a character and the marks that follow it and did not become part
of it; `last` is the class of the last of those. -/
def putTogether (first : Nat) (marks : List Nat) (last : Nat) : List Nat → List Nat
  | [] => first :: marks
  | c :: r =>
    let k := combiningClass c
    match (if marks.isEmpty || last < k then whole? first c else none) with
    | some w => putTogether w marks last r
    | none =>
      if k = 0 then first :: marks ++ putTogether c [] 0 r
      else putTogether first (marks ++ [c]) k r

/-- The composed form of a text. -/
def composed (s : List Nat) : List Nat :=
  match inOrder (s.flatMap (takenApart maxSteps)) with
  | [] => []
  | c :: r => putTogether c [] 0 r

/-- Does a text have the composed form? -/
def isComposed (s : List Nat) : Bool :=
  composed s == s

end Logbook.Web.Label
