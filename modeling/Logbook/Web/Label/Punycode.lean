import Logbook.Text.Digit

/-!
# Punycode

A text in ASCII for a text of any characters. Its ASCII characters come first, as they are; behind a
hyphen it is said where the others stand among them. They are put in one after the other, in the
order of their code points and places, so each is given by the number of states that lie between it
and the one before: a state is a code point and a place. That number is written in base 36, least
digit first, with a threshold for each digit that tells whether it is the last.
-/

namespace Logbook.Web.Label

/-- The threshold for the digit at a place. -/
def threshold (place bias : Nat) : Nat :=
  max 1 (min 26 (36 * (place + 1) - bias))

theorem threshold_pos (place bias : Nat) : 0 < threshold place bias := by
  unfold threshold
  omega

/-- The bias that a scaled number leaves, and the number of times that it was divided. -/
def biasOf (scaled divisions : Nat) : Nat :=
  if 455 < scaled then biasOf (scaled / 35) (divisions + 1)
  else 36 * divisions + 36 * scaled / (scaled + 38)
termination_by scaled
decreasing_by omega

/-- The bias for the number behind `gap`, if there are `count` characters now. -/
def nextBias (gap count : Nat) (isFirst : Bool) : Nat :=
  let scaled := if isFirst then gap / 700 else gap / 2
  biasOf (scaled + scaled / count) 0

/-- The digit of base 36 with a value. -/
def digitOf (n : Nat) : Char :=
  Char.ofNat (if n < 26 then 97 + n else 22 + n)

/-- The value of a digit of base 36. -/
def valueOf? (c : Char) : Option Nat :=
  if 'a' ≤ c ∧ c ≤ 'z' then some (c.toNat - 97)
  else if 'A' ≤ c ∧ c ≤ 'Z' then some (c.toNat - 65)
  else if c.isDigit then some (c.toNat - 22)
  else none

/-- The digits of a number from a place on. -/
def gapDigits (bias place n : Nat) : List Char :=
  let t := threshold place bias
  if n < t then [digitOf n]
  else digitOf (t + (n - t) % (36 - t)) :: gapDigits bias (place + 1) ((n - t) / (36 - t))
termination_by n
decreasing_by
  have := threshold_pos place bias
  exact Nat.lt_of_le_of_lt (Nat.div_le_self _ _) (by omega)

/-- How far a text has been written: what is written of it, the states since the last character,
the bias, and the number of characters that stand. -/
structure Progress where
  written : List Char := []
  gap : Nat := 0
  bias : Nat := 72
  count : Nat

/-- Passes over one character of the text while those with code point `n` are written. -/
def Progress.pass (first n : Nat) (p : Progress) (c : Nat) : Progress :=
  if c < n then { p with gap := p.gap + 1 }
  else if c = n then
    { written := p.written ++ gapDigits p.bias 0 p.gap
      gap := 0
      bias := nextBias p.gap (p.count + 1) (p.count == first)
      count := p.count + 1 }
  else p

/-- Writes the characters of `s` with the given code points, which ascend from `n` on. -/
def writeAll (s : List Nat) (first : Nat) : Nat → List Nat → Progress → Progress
  | _, [], p => p
  | n, m :: r, p =>
    let p := s.foldl (Progress.pass first m) { p with gap := p.gap + (m - n) * (p.count + 1) }
    writeAll s first (m + 1) r { p with gap := p.gap + 1 }

/-- A number put into an ascending list, unless it is there. -/
def insertNew (n : Nat) : List Nat → List Nat
  | [] => [n]
  | m :: r => if n < m then n :: m :: r else if n = m then m :: r else m :: insertNew n r

/-- The text in ASCII for a text. -/
def punycode (s : List Nat) : List Char :=
  let ascii := s.filter (· < 128)
  let others := (s.filter (128 ≤ ·)).foldr insertNew []
  (if ascii.isEmpty then [] else ascii.map Char.ofNat ++ ['-']) ++
    (writeAll s ascii.length 128 others { count := ascii.length }).written

/-- The number that digits write from a place on, where each counts `weight` times its value, added
to `sum`; and the digits behind it. -/
def readGap (bias : Nat) : Nat → Nat → Nat → List Char → Option (Nat × List Char)
  | _, _, _, [] => none
  | place, weight, sum, c :: r => match valueOf? c with
    | none => none
    | some v =>
      if v < threshold place bias then some (sum + v * weight, r)
      else readGap bias (place + 1) (weight * (36 - threshold place bias)) (sum + v * weight) r

theorem readGap_shorter {bias place weight sum n : Nat} {s r : List Char}
    (h : readGap bias place weight sum s = some (n, r)) : r.length < s.length := by
  induction s generalizing place weight sum with
  | nil => simp [readGap] at h
  | cons c s ih =>
    simp only [readGap] at h
    split at h
    · simp at h
    · split at h
      · simp only [Option.some.injEq, Prod.mk.injEq] at h
        simp [← h.2]
      · exact Nat.lt_succ_of_lt (ih h)

/-- Reads the characters that digits stand for into a text. `state` is the place behind the last
one, and `n` its code point. -/
def readAll (bias n state : Nat) (isFirst : Bool) (s : List Nat) (digits : List Char) :
    Option (List Nat) :=
  if digits.isEmpty then some s
  else match _h : readGap bias 0 1 0 digits with
    | none => none
    | some (gap, rest) =>
      let size := s.length + 1
      let m := n + (state + gap) / size
      let place := (state + gap) % size
      if 0x10FFFF < m then none
      else readAll (nextBias gap size isFirst) m (place + 1) false
        (s.take place ++ m :: s.drop place) rest
termination_by digits.length
decreasing_by exact readGap_shorter (by assumption)

/-- The text that a text in ASCII stands for. -/
def ofPunycode? (s : List Char) : Option (List Nat) :=
  let digits := (s.reverse.takeWhile (· != '-')).reverse
  readAll 72 128 0 true ((s.take (s.length - digits.length - 1)).map (·.toNat)) digits

end Logbook.Web.Label
