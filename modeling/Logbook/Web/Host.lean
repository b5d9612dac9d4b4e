import Logbook.Text.Case
import Logbook.Web.Label
import Logbook.Web.Percent

/-!
# Hosts

The host of an address is a number of the internet protocol, in its version 4 or in brackets in
its version 6, or a name. A name is written in lower case; one in ASCII has escapes where it needs
them, and another one is written in ASCII.
-/

namespace Logbook.Web

/-- Is a text one of the four numbers, up to 255 and without leading zeros? -/
def isOctet (s : List Char) : Bool :=
  !s.isEmpty && s.length ≤ 3 && s.all Char.isDigit && (s == ['0'] || s.head? != some '0') &&
    (Text.digitsValue? s).any (· ≤ 255)

/-- Is a text an address of version 4? -/
def isFourNumbers (s : List Char) : Bool :=
  let octets := Text.splitOn ['.'] s
  octets.length == 4 && octets.all isOctet

/-- Is a text a group of up to four hexadecimal digits? -/
def isGroup (s : List Char) : Bool :=
  s.length ≤ 4 && s.all fun c => (Text.hexValue? c).isSome

/-- The groups of an address of version 6, in whose end an address of version 4 counts as two. -/
def groupsOf? (s : List Char) : Option (List (List Char)) :=
  let parts := Text.splitOn [':'] s
  match parts.getLast? with
  | some last =>
    if parts.length < 3 then none
    else if '.' ∉ last then some parts
    else if isFourNumbers last then some (parts.dropLast ++ [['0'], ['0']])
    else none
  | none => none

/-- The groups on one side of a gap, of which `outer` is the one farthest from it: a side without
groups is written as an empty group. -/
def side? (outer : Option (List Char)) (groups : List (List Char)) : Option (List (List Char)) :=
  if outer != some [] then some groups else if groups.length = 1 then some [] else none

/-- Do parts between colons make eight groups? One gap, an empty part inside, may stand for some
of them. -/
def areEightGroups (parts : List (List Char)) : Bool :=
  let gaps := (List.range parts.length).filter fun i =>
    0 < i && i + 1 < parts.length && parts[i]? == some []
  match gaps with
  | [] => parts.length == 8 && parts.all fun g => !g.isEmpty && isGroup g
  | [i] =>
    let before := parts.take i
    let after := parts.drop (i + 1)
    match side? before.head? before, side? after.getLast? after with
    | some before, some after =>
      before.length + after.length < 8 && (before ++ after).all isGroup
    | _, _ => false
  | _ => false

/-- Does a text name a zone of the local network? A text without a percent sign names none, which
is right as well. -/
def isZone : List Char → Bool
  | [] => true
  | _ :: zone => !zone.isEmpty && '%' ∉ zone

/-- Is a text an address of version 6, with a zone or without? -/
def isSixAddress (s : List Char) : Bool :=
  let (address, zone) := s.span (· != '%')
  '/' ∉ s && isZone zone &&
    (groupsOf? address).any fun parts => parts.length ≤ 9 && areEightGroups parts

/-- The runs of ASCII digits in a text, between single other characters. -/
def digitRuns : List Char → List Nat
  | [] => [0]
  | c :: r =>
    if c.isDigit then match digitRuns r with
      | n :: ns => (n + 1) :: ns
      | [] => [1]
    else 0 :: digitRuns r

/-- Does a text consist of four numbers with one character, of any kind, between each two? A run
of `n` digits has room for `(n + 1) / 2` numbers. -/
def looksNumeric (s : List Char) : Bool :=
  let runs := digitRuns s
  runs.all (0 < ·) && runs.length ≤ 4 && 4 ≤ runs.foldr (fun n k => (n + 1) / 2 + k) 0

/-- Is a text in brackets? -/
def isBracketed (s : List Char) : Bool :=
  s.head? == some '[' && 1 < s.length && s.getLast? == some ']'

/-- May a character of a name in ASCII be kept? -/
def isHostChar (c : Char) : Bool :=
  c.isAlphanum || c ∈ "-._~!$&'()*+,;=\"`\x7b\x7d%|\\".toList

/-- A host as it is written in an address; an address of version 6 loses its brackets. -/
def hostText? (s : List Char) : Option (List Char) :=
  if looksNumeric s then if isFourNumbers s then some s else none
  else if isBracketed s then
    let address := (s.drop 1).dropLast
    if isSixAddress address then some address else none
  else if s.all (·.val < 128) then some (escaped isHostChar (Text.lower s))
  else asciiName? (Text.lower s)

end Logbook.Web
