/-!
# Looking for one text inside another

Prefix and suffix tests are the library's on lists; `occursIn` tests for any position and
`splitOn` cuts a text at a separator.
-/

namespace Logbook.Text

/-- `needle` stands somewhere in `hay`, character for character. -/
def occursIn (needle : List Char) : List Char → Bool
  | [] => needle.isEmpty
  | c :: r => needle.isPrefixOf (c :: r) || occursIn needle r

/-- `c` put in front of the first piece. -/
def consFirst (c : Char) : List (List Char) → List (List Char)
  | [] => [[c]]
  | w :: ws => (c :: w) :: ws

/-- The pieces of a text between separators, with `skip` characters of a separator still to
pass over. -/
def splitFrom (sep : List Char) : Nat → List Char → List (List Char)
  | _, [] => [[]]
  | k + 1, _ :: r => splitFrom sep k r
  | 0, c :: r =>
    if sep.isPrefixOf (c :: r) then [] :: splitFrom sep (sep.length - 1) r
    else consFirst c (splitFrom sep 0 r)

/-- `s` cut at each occurrence of `sep` that does not overlap an earlier one. -/
def splitOn (sep s : List Char) : List (List Char) :=
  splitFrom sep 0 s

theorem occursIn_iff {needle hay : List Char} :
    occursIn needle hay = true ↔ needle <:+: hay := by
  induction hay with
  | nil => simp [occursIn]
  | cons c r ih =>
    simp only [occursIn, Bool.or_eq_true, List.isPrefixOf_iff_prefix, ih]
    exact List.infix_cons_iff.symm

theorem splitFrom_ne_nil (sep : List Char) (k : Nat) (s : List Char) : splitFrom sep k s ≠ [] := by
  fun_induction splitFrom sep k s with
  | case1 => simp
  | case2 k c r ih => exact ih
  | case3 c r start ih => simp
  | case4 c r other ih =>
    cases splitFrom sep 0 r <;> simp [consFirst]

theorem intercalate_consFirst (sep : List Char) (c : Char) (ws : List (List Char)) :
    sep.intercalate (consFirst c ws) = c :: sep.intercalate ws := by
  match ws with
  | [] => simp [consFirst]
  | [w] => simp [consFirst]
  | w :: v :: r => simp [consFirst, List.intercalate_cons_cons]

/-- The pieces that are left with the separator between them are the text behind what is skipped. -/
theorem intercalate_splitFrom {sep : List Char} (filled : sep ≠ []) (k : Nat) (s : List Char) :
    sep.intercalate (splitFrom sep k s) = s.drop k := by
  fun_induction splitFrom sep k s with
  | case1 => simp
  | case2 k c r ih => exact ih
  | case3 c r start ih =>
    obtain ⟨w, ws, pieces⟩ := List.exists_cons_of_ne_nil (splitFrom_ne_nil sep (sep.length - 1) r)
    obtain ⟨rest, whole⟩ := List.isPrefixOf_iff_prefix.1 start
    have behind : r.drop (sep.length - 1) = rest := by
      obtain ⟨d, ds, rfl⟩ := List.exists_cons_of_ne_nil filled
      obtain ⟨-, tail⟩ := List.cons.inj whole
      rw [← tail]
      simp
    rw [pieces] at ih ⊢
    rw [List.intercalate_cons_cons, ih, behind, List.nil_append, whole, List.drop_zero]
  | case4 c r other ih =>
    rw [intercalate_consFirst, ih]
    rfl

/-- A text is put together again from its pieces and the separators between them. -/
theorem intercalate_splitOn {sep : List Char} (filled : sep ≠ []) (s : List Char) :
    sep.intercalate (splitOn sep s) = s :=
  intercalate_splitFrom filled 0 s

theorem splitFrom_drop (sep : List Char) (k : Nat) (s : List Char) :
    splitFrom sep k s = splitFrom sep 0 (s.drop k) := by
  induction k generalizing s with
  | zero => rfl
  | succ k ih =>
    cases s with
    | nil => simp [splitFrom]
    | cons c r => exact ih r

/-- A text without a character of the separator is one piece. -/
theorem splitOn_of_notMem {sep s : List Char} {x : Char} (mark : x ∈ sep) (absent : x ∉ s) :
    splitOn sep s = [s] := by
  unfold splitOn
  induction s with
  | nil => simp [splitFrom]
  | cons c r ih =>
    have other : sep.isPrefixOf (c :: r) = false := by
      rw [Bool.eq_false_iff]
      intro start
      exact absent ((List.isPrefixOf_iff_prefix.1 start).subset mark)
    rw [splitFrom, other, ih (List.not_mem_of_not_mem_cons absent)]
    rfl

/-- Two texts without the second character of a separator are the pieces of what they make with the
separator between them. -/
theorem splitOn_pair {sep r a b : List Char} {c x : Char} (start : sep = c :: x :: r) (apart : c ≠ x)
    (left : x ∉ a) (right : x ∉ b) : splitOn sep (a ++ sep ++ b) = [a, b] := by
  have last : splitFrom sep 0 b = [b] := splitOn_of_notMem (by simp [start]) right
  unfold splitOn
  induction a with
  | nil =>
    have prefixed : sep.isPrefixOf (c :: (x :: r ++ b)) = true := by
      rw [List.isPrefixOf_iff_prefix, start]
      exact List.prefix_append (c :: x :: r) b
    have behind : (x :: r ++ b).drop (sep.length - 1) = b := by
      rw [start]
      simp
    rw [List.nil_append, show sep ++ b = c :: (x :: r ++ b) by rw [start]; rfl, splitFrom, prefixed,
      if_pos rfl, splitFrom_drop, behind, last]
  | cons d s ih =>
    have other : sep.isPrefixOf (d :: (s ++ sep ++ b)) = false := by
      rw [Bool.eq_false_iff]
      intro front
      obtain ⟨rest, whole⟩ := List.isPrefixOf_iff_prefix.1 front
      rw [start] at whole
      -- the second character would stand in the text, or the first one would be the second
      cases s with
      | nil => simp_all
      | cons e s => simp_all
    rw [List.cons_append, List.cons_append, splitFrom, other, ih (List.not_mem_of_not_mem_cons left)]
    rfl

end Logbook.Text
