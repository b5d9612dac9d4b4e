import Logbook.Text.CaseMap

/-!
# Lower and upper case

Full case mappings of a text: a character may turn into several, and a capital sigma at the end
of a word turns into the final sigma.
-/

namespace Logbook.Text

/-- The code point that the rows of a mapping send `n` to, if it stands in one of them. -/
def moved? (rows : List CaseMap.Row) (n : Nat) : Option Nat :=
  (rows.find? fun (first, last, step, _) => first ≤ n && n ≤ last && (n - first) % step == 0).map
    fun (first, _, _, image) => image + (n - first)

/-- The characters that a mapping makes of one character. -/
def mapped (special : List (Nat × List Nat)) (rows : List CaseMap.Row) (c : Char) : List Char :=
  match special.lookup c.toNat with
  | some ns => ns.map Char.ofNat
  | none => match moved? rows c.toNat with
    | some n => [Char.ofNat n]
    | none => [c]

/-- Does the character have case, seen as the neighbour of a sigma? -/
def isCased (c : Char) : Bool :=
  c.isAlpha || CaseMap.casedRanges.any fun r => r.1 ≤ c.toNat && c.toNat ≤ r.2

/-- Is the character passed over in the search for a neighbour? -/
def isIgnorable (c : Char) : Bool :=
  CaseMap.ignorableRanges.any fun r => r.1 ≤ c.toNat && c.toNat ≤ r.2

/-- The nearest character of a text that is not passed over has case. -/
def startsCased (s : List Char) : Bool :=
  match s.dropWhile isIgnorable with
  | [] => false
  | c :: _ => isCased c

/-- The lower case of one character that is not a capital sigma. -/
def lowerChar (c : Char) : List Char :=
  if c.toNat < 128 then [c.toLower] else mapped CaseMap.lowerSpecial CaseMap.lowerRows c

/-- The upper case of one character. -/
def upperChar (c : Char) : List Char :=
  if c.toNat < 128 then [c.toUpper] else mapped CaseMap.upperSpecial CaseMap.upperRows c

/-- The lower case of a text that follows the characters `before`, nearest first. -/
def lowerFrom (before : List Char) : List Char → List Char
  | [] => []
  | c :: r =>
    (if c = 'Σ' then [if startsCased before && !startsCased r then 'ς' else 'σ']
      else lowerChar c) ++
      lowerFrom (c :: before) r

/-- The lower case of a text. -/
def lower (s : List Char) : List Char :=
  lowerFrom [] s

/-- The upper case of a text. -/
def upper (s : List Char) : List Char :=
  s.flatMap upperChar

/-- Only letters have a small letter as their lower case. -/
theorem isAlpha_of_isLower_toLower {c : Char} (small : c.toLower.isLower = true) :
    c.isAlpha = true := by
  by_cases upper : c.isUpper = true
  · exact Bool.or_eq_true_iff.2 (.inl upper)
  · have same : c.toLower = c := dif_neg fun between => upper (decide_eq_true between)
    rw [same] at small
    exact Bool.or_eq_true_iff.2 (.inr small)

/-- In ASCII the lower case goes character by character. -/
theorem lower_of_ascii {s : List Char} (ascii : ∀ c ∈ s, c.toNat < 128) :
    lower s = s.map Char.toLower := by
  -- whatever stands before
  suffices behind : ∀ before, lowerFrom before s = s.map Char.toLower from behind []
  induction s with
  | nil => exact fun before => rfl
  | cons c r ih =>
    intro before
    have small := ascii c (List.mem_cons_self ..)
    have noSigma : c ≠ 'Σ' := by
      rintro rfl
      exact absurd small (by decide)
    rw [lowerFrom, if_neg noSigma, lowerChar, if_pos small,
      ih fun d mem => ascii d (List.mem_cons_of_mem c mem)]
    rfl

end Logbook.Text

namespace Logbook

/-- The lower case of a string. -/
def lowered (s : String) : String :=
  String.ofList (Text.lower s.toList)

/-- The upper case of a string. -/
def uppered (s : String) : String :=
  String.ofList (Text.upper s.toList)

end Logbook
