import Logbook.Text.Blank
import Logbook.Text.Search

/-!
# Words and separators

A word is not empty and has no blank, and a text without words has nothing but blanks. Texts with a
separator between them are cut apart again if none of them has the first character of the separator.
-/

namespace Logbook.Text

/-- The characters that a text is cut at are in none of the pieces. -/
theorem not_of_mem_pieces {p : Char → Bool} {s w : List Char} (mem : w ∈ pieces p s) :
    ∀ c ∈ w, p c = false := by
  induction s generalizing w with
  | nil =>
    obtain rfl := List.mem_singleton.1 mem
    exact nofun
  | cons c r ih =>
    unfold pieces at mem
    obtain ⟨v, vs, rest⟩ := List.exists_cons_of_ne_nil (pieces_ne_nil p r)
    simp only [rest] at mem ih
    by_cases cut : p c = true
    · rw [if_pos cut] at mem
      obtain rfl | other := List.mem_cons.1 mem
      · exact nofun
      · exact ih other
    · rw [if_neg cut] at mem
      obtain rfl | other := List.mem_cons.1 mem
      · intro d inside
        obtain rfl | later := List.mem_cons.1 inside
        · exact Bool.eq_false_iff.2 cut
        · exact ih (List.mem_cons_self ..) d later
      · exact ih (List.mem_cons_of_mem v other)

theorem ne_nil_of_mem_words {s w : List Char} (mem : w ∈ words s) : w ≠ [] := by
  have filled := (List.mem_filter.1 mem).2
  rintro rfl
  simp at filled

theorem solid_of_mem_words {s w : List Char} (mem : w ∈ words s) : ∀ c ∈ w, isBlank c = false :=
  not_of_mem_pieces (List.mem_filter.1 mem).1

/-- A text without words is blank. -/
theorem blank_of_words_eq_nil {s : List Char} (none : words s = []) : ∀ c ∈ s, isBlank c = true := by
  induction s with
  | nil => exact nofun
  | cons c r ih =>
    unfold words pieces at none
    obtain ⟨v, vs, rest⟩ := List.exists_cons_of_ne_nil (pieces_ne_nil isBlank r)
    by_cases blank : isBlank c = true
    · rw [if_pos blank, List.filter_cons_of_neg (by simp)] at none
      exact List.forall_mem_cons.2 ⟨blank, ih none⟩
    · rw [if_neg blank, rest] at none
      simp at none

/-- A text without the first character of a separator is the piece before it. -/
theorem splitFrom_append {sep r w : List Char} {c : Char} (start : sep = c :: r) (absent : c ∉ w)
    (rest : List Char) : splitFrom sep 0 (w ++ sep ++ rest) = w :: splitFrom sep 0 rest := by
  induction w with
  | nil =>
    have prefixed : sep.isPrefixOf (c :: (r ++ rest)) = true := by
      rw [List.isPrefixOf_iff_prefix, start]
      exact List.prefix_append (c :: r) rest
    have behind : (r ++ rest).drop (sep.length - 1) = rest := by simp [start]
    rw [List.nil_append, show sep ++ rest = c :: (r ++ rest) by rw [start]; rfl, splitFrom, prefixed,
      if_pos rfl, splitFrom_drop, behind]
  | cons d w ih =>
    obtain ⟨other, absent⟩ := List.ne_and_not_mem_of_not_mem_cons absent
    -- the separator starts at none of the characters before it
    have here : sep.isPrefixOf (d :: (w ++ sep ++ rest)) = false := by
      rw [start, List.isPrefixOf_cons_cons, beq_eq_false_iff_ne.2 other, Bool.false_and]
    rw [List.cons_append, List.cons_append, splitFrom, here, ih absent]
    rfl

/-- Texts without the first character of a separator are the pieces of what they make with the
separator between them. -/
theorem splitOn_intercalate {sep r : List Char} {c : Char} (start : sep = c :: r)
    {ws : List (List Char)} (given : ws ≠ []) (absent : ∀ w ∈ ws, c ∉ w) :
    splitOn sep (sep.intercalate ws) = ws := by
  unfold splitOn
  induction ws with
  | nil => exact absurd rfl given
  | cons w ws ih =>
    obtain ⟨here, later⟩ := List.forall_mem_cons.1 absent
    cases ws with
    | nil =>
      rw [List.intercalate_singleton]
      exact splitOn_of_notMem (by simp [start]) here
    | cons v ws =>
      rw [List.intercalate_cons_cons, splitFrom_append start here, ih (List.cons_ne_nil v ws) later]

end Logbook.Text
