import Logbook.Text.Search
import Logbook.Web.Label.Characters
import Logbook.Web.Label.Composed
import Logbook.Web.Label.Punycode

/-!
# Labels of host names

A host name consists of labels between dots. A label of other characters than those of ASCII is
written in ASCII behind four fixed characters, if it is well formed: in the composed form, made of
letters, digits, hyphens and marks, beginning with no mark, with hyphens only inside, with some
characters only between certain neighbours, and running in one direction.
-/

namespace Logbook.Web

namespace Label

/-- Does a code point lie in one of the ranges? -/
def inRanges (ranges : List (Nat × Nat)) (c : Nat) : Bool :=
  ranges.any fun r => r.1 ≤ c && c ≤ r.2

/-- May a character stand in any label? In ASCII small letters, digits and the hyphen may. -/
def isValid (c : Nat) : Bool :=
  if c < 128 then c == 45 || (48 ≤ c && c ≤ 57) || (97 ≤ c && c ≤ 122)
  else validRows.any fun r => r.1 ≤ c && c ≤ r.2.1 && (c - r.1) % r.2.2 == 0

/-- Is a character a combining mark? -/
def isMark (c : Nat) : Bool := inRanges markRanges c

/-- Is a character a mark without space of its own? -/
def isNonspacing (c : Nat) : Bool := isMark c && !inRanges spacingRanges c

/-- Does a character, a virama, take away the vowel of a letter? -/
def isVirama (c : Nat) : Bool := combiningClass c == 9

/-- Is a character passed over when the neighbours of a joiner are looked for? -/
def isPassed (c : Nat) : Bool := isNonspacing c || inRanges passedSpacingRanges c

/-- Does a character join the next one? -/
def joinsNext (c : Nat) : Bool := inRanges joinNextRanges c || inRanges joinBothRanges c

/-- Does a character join the one before? -/
def joinsPrevious (c : Nat) : Bool := inRanges joinPreviousRanges c || inRanges joinBothRanges c

/-- Is one of the digits of `0x660` to `0x669`, or of `0x6F0` to `0x6F9`, in a label? -/
def hasDigits (first : Nat) (label : List Nat) : Bool :=
  label.any fun c => first ≤ c && c ≤ first + 9

/-- May a character stand where it does? `before` is what stands before it, nearest first, and
`behind` what stands behind it. -/
def fits (before : List Nat) (c : Nat) (behind : List Nat) : Bool :=
  if isValid c then true
  else if c = 0x200C then
    before.head?.any isVirama ||
      ((before.dropWhile isPassed).head?.any joinsNext &&
        (behind.dropWhile isPassed).head?.any joinsPrevious)
  else if c = 0x200D then before.head?.any isVirama
  else if c = 0xB7 then before.head? == some 0x6C && behind.head? == some 0x6C
  else if c = 0x375 then behind.head?.any (inRanges greekRanges)
  else if c = 0x5F3 ∨ c = 0x5F4 then before.head?.any (inRanges hebrewRanges)
  else if c = 0x30FB then
    (before ++ behind).any fun d => d != 0x30FB && inRanges eastAsianRanges d
  else if 0x660 ≤ c ∧ c ≤ 0x669 then !hasDigits 0x6F0 (before ++ behind)
  else if 0x6F0 ≤ c ∧ c ≤ 0x6F9 then !hasDigits 0x660 (before ++ behind)
  else false

/-- May all characters stand where they do, behind those `before` them? -/
def allFit (before : List Nat) : List Nat → Bool
  | [] => true
  | c :: r => fits before c r && allFit (c :: before) r

/-- Does a character run from right to left, or count as an Arabic number? -/
def isLeftward (c : Nat) : Bool :=
  inRanges leftwardRanges c || inRanges arabicDigitRanges c

/-- Does a character run from left to right? -/
def isRightward (c : Nat) : Bool :=
  !(isLeftward c || inRanges europeanDigitRanges c || inRanges neutralRanges c || isNonspacing c)

/-- Does a label run in one direction? One in which something runs from right to left begins with
such a letter, holds nothing that runs the other way and digits of one kind only, and ends, but for
marks, with a letter or digit. -/
def isOneWay (label : List Nat) : Bool :=
  !label.any isLeftward ||
    (label.head?.any (inRanges leftwardRanges) && !label.any isRightward &&
      !(label.any (inRanges arabicDigitRanges) && label.any (inRanges europeanDigitRanges)) &&
      (label.reverse.dropWhile isNonspacing).head?.any fun c => !inRanges neutralRanges c)

/-- Is a label well formed? -/
def isWellFormed (label : List Nat) : Bool :=
  isComposed label && (label.drop 2).take 2 != [45, 45] && label.head?.any (· != 45) &&
    label.getLast? != some 45 && !label.head?.any isMark && allFit [] label && isOneWay label

/-- What stands before a label that is written in ASCII for other characters. -/
def marker : List Char := ['x', 'n', '-', '-']

/-- Is a label in ASCII well formed, or does it stand for one that is? -/
def isWellFormedAscii (label : List Char) : Bool :=
  if marker.isPrefixOf label then
    let digits := label.drop 4
    !digits.isEmpty && digits.getLast? != some '-' && (ofPunycode? digits).any isWellFormed
  else isWellFormed (label.map (·.toNat))

/-- The largest length of a label. -/
def maxLength : Nat := 63

/-- A label in lower case, written in ASCII. -/
def ascii? (label : List Char) : Option (List Char) :=
  let ns := label.map (·.toNat)
  if label.all (·.val < 128) then
    if isWellFormedAscii label && label.length ≤ maxLength then some label else none
  else
    let written := marker ++ punycode ns
    if isWellFormed ns && written.length ≤ maxLength then some written else none

end Label

/-- The dots that separate labels. -/
def dots : List Char := ['.', '\u3002', '\uFF0E', '\uFF61']

/-- The largest length of a host name, but for a dot at its end. -/
def maxHostLength : Nat := 253

/-- A host name in lower case, written in ASCII. A dot may stand at its end. -/
def asciiName? (name : List Char) : Option (List Char) := do
  let labels := Text.splitOn ['.'] (name.map fun c => if c ∈ dots then '.' else c)
  let rooted := labels.getLast? == some []
  let labels := if rooted then labels.dropLast else labels
  if name.length > maxHostLength + 1 || labels.isEmpty then none
  let labels ← labels.mapM Label.ascii?
  let written := List.intercalate ['.'] labels ++ (if rooted then ['.'] else [])
  if written.length ≤ maxHostLength + (if rooted then 1 else 0) then some written else none

end Logbook.Web
