import Logbook.Text.Case
import Mathlib.Data.List.Basic

/-!
# Lower case inside a text

The lower case of a part of a text is that of the part by itself, but for capital sigmas: whether one
of them is final depends on what stands around it. `Text.lowerBetween_eq_iff` says that nothing else
does, and `Text.lower_around` how the lower case of a text is made of those of its parts.
-/

namespace Logbook.Text

/-- Does a word end with a capital sigma that stands between two texts? The one before it is read
backwards. -/
def endsWord (before after : List Char) : Bool :=
  startsCased before && !startsCased after

/-- The lower case of a character between two texts, the one before it read backwards. -/
def lowerAt (before : List Char) (c : Char) (after : List Char) : List Char :=
  if c = 'Σ' then [if endsWord before after then 'ς' else 'σ'] else lowerChar c

/-- The lower case of a text between two others, the one before it read backwards. -/
def lowerBetween (before : List Char) : List Char → List Char → List Char
  | [], _ => []
  | c :: r, after => lowerAt before c (r ++ after) ++ lowerBetween (c :: before) r after

theorem length_lowerAt (before before' : List Char) (c : Char) (after after' : List Char) :
    (lowerAt before c after).length = (lowerAt before' c after').length := by
  unfold lowerAt
  split <;> rfl

/-- What stands around a character counts for a capital sigma alone. -/
theorem lowerAt_eq_iff {before before' : List Char} {c : Char} {after after' : List Char} :
    lowerAt before c after = lowerAt before' c after' ↔
      (c = 'Σ' → endsWord before after = endsWord before' after') := by
  unfold lowerAt
  by_cases sigma : c = 'Σ'
  · rw [if_pos sigma, if_pos sigma]
    cases endsWord before after <;> cases endsWord before' after' <;> simp [sigma]
  · rw [if_neg sigma, if_neg sigma]
    exact iff_of_true rfl fun same => absurd same sigma

theorem lowerFrom_append (before s t : List Char) :
    lowerFrom before (s ++ t) = lowerBetween before s t ++ lowerFrom (s.reverse ++ before) t := by
  induction s generalizing before with
  | nil => rfl
  | cons c r ih =>
    rw [List.cons_append, lowerFrom, lowerBetween, ih (c :: before), List.append_assoc,
      List.reverse_cons, List.append_assoc]
    rfl

/-- With nothing around it a text has its lower case. -/
theorem lowerBetween_nil (s : List Char) : lowerBetween [] s [] = lower s := by
  have whole := lowerFrom_append [] s []
  rw [List.append_nil, lowerFrom, List.append_nil] at whole
  exact whole.symm

/-- The lower case of a text by its parts, each between the others. -/
theorem lower_around (u p v : List Char) : lower (u ++ p ++ v) =
    lowerBetween [] u (p ++ v) ++ lowerBetween u.reverse p v ++
      lowerBetween (u ++ p).reverse v [] := by
  have last := lowerFrom_append (p.reverse ++ u.reverse) v []
  rw [List.append_nil, lowerFrom, List.append_nil] at last
  rw [List.append_assoc, lower, lowerFrom_append, lowerFrom_append, List.append_nil, last,
    List.reverse_append, List.append_assoc]

/-- What stands around a text does not change the length of its lower case. -/
theorem length_lowerBetween (before before' s after after' : List Char) :
    (lowerBetween before s after).length = (lowerBetween before' s after').length := by
  induction s generalizing before before' with
  | nil => rfl
  | cons c r ih =>
    rw [lowerBetween, lowerBetween, List.length_append, List.length_append,
      ih (c :: before) (c :: before'), length_lowerAt before before' c (r ++ after) (r ++ after')]

theorem length_lowerBetween_eq (before s after : List Char) :
    (lowerBetween before s after).length = (lower s).length := by
  rw [← lowerBetween_nil, length_lowerBetween]

theorem length_lower_append (s t : List Char) :
    (lower (s ++ t)).length = (lower s).length + (lower t).length := by
  have whole := lower_around s t []
  simp only [List.append_nil, lowerBetween] at whole
  rw [whole, List.length_append, length_lowerBetween_eq, length_lowerBetween_eq]

/-- A text has the same lower case in two places if the same of its capital sigmas end words. -/
theorem lowerBetween_eq_iff {before before' s after after' : List Char} :
    lowerBetween before s after = lowerBetween before' s after' ↔ ∀ a b, s = a ++ 'Σ' :: b →
      endsWord (a.reverse ++ before) (b ++ after) = endsWord (a.reverse ++ before') (b ++ after') := by
  induction s generalizing before before' with
  | nil => exact iff_of_true rfl (by simp)
  | cons c r ih =>
    -- the lower cases of the first character have one length, so they are compared by themselves
    have pieces : lowerBetween before (c :: r) after = lowerBetween before' (c :: r) after' ↔
        lowerAt before c (r ++ after) = lowerAt before' c (r ++ after') ∧
          lowerBetween (c :: before) r after = lowerBetween (c :: before') r after' :=
      ⟨fun same => List.append_inj same (length_lowerAt ..), fun ⟨first, rest⟩ => by
        rw [lowerBetween, lowerBetween, first, rest]⟩
    rw [pieces, lowerAt_eq_iff, ih]
    constructor
    · rintro ⟨first, rest⟩ a b whole
      cases a with
      | nil =>
        obtain ⟨sigma, rfl⟩ := List.cons.inj whole
        exact first sigma
      | cons d a =>
        obtain ⟨rfl, behind⟩ := List.cons.inj whole
        simpa using rest a b behind
    · intro all
      refine ⟨fun sigma => all [] r (by rw [sigma]; rfl), fun a b behind => ?_⟩
      simpa using all (c :: a) b (by rw [behind]; rfl)

end Logbook.Text
