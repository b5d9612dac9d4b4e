/-!
# Blank characters

The characters that separate words and may surround a value. `trim` removes them from both
ends of a text and `words` cuts a text at every run of them.
-/

namespace Logbook.Text

/-- White space, together with the four separators U+001C to U+001F. -/
def isBlank (c : Char) : Bool :=
  let n := c.toNat
  (9 ≤ n && n ≤ 13) || (28 ≤ n && n ≤ 32) || n == 0x85 || n == 0xA0 || n == 0x1680 ||
    (0x2000 ≤ n && n ≤ 0x200A) || n == 0x2028 || n == 0x2029 || n == 0x202F || n == 0x205F ||
    n == 0x3000

/-- White space alone: `isBlank` without U+001C to U+001F. -/
def isSpace (c : Char) : Bool :=
  isBlank c && !(28 ≤ c.toNat && c.toNat ≤ 31)

/-- `s` without its longest tail of characters in `p`. -/
def dropTail (p : Char → Bool) (s : List Char) : List Char :=
  (s.reverse.dropWhile p).reverse

/-- `s` without the characters of `p` at its two ends. -/
def trimBy (p : Char → Bool) (s : List Char) : List Char :=
  dropTail p (s.dropWhile p)

/-- `s` without the blanks at its two ends. -/
def trim (s : List Char) : List Char :=
  trimBy isBlank s

/-- `s` cut at every character of `p`, empty pieces included; never the empty list. -/
def pieces (p : Char → Bool) : List Char → List (List Char)
  | [] => [[]]
  | c :: r =>
    if p c then [] :: pieces p r
    else match pieces p r with
      | [] => [[c]]
      | w :: ws => (c :: w) :: ws

/-- The maximal runs of characters that are not blank, in order. -/
def words (s : List Char) : List (List Char) :=
  (pieces isBlank s).filter fun w => !w.isEmpty

theorem pieces_ne_nil (p : Char → Bool) (s : List Char) : pieces p s ≠ [] := by
  cases s with
  | nil => simp [pieces]
  | cons c r =>
    simp only [pieces]
    split
    · simp
    · split <;> simp

/-- The visible characters of ASCII are not blank. -/
theorem isBlank_of_visible {c : Char} (least : 33 ≤ c.toNat) (most : c.toNat ≤ 126) :
    isBlank c = false := by
  unfold isBlank
  simp only [Bool.or_eq_false_iff, Bool.and_eq_false_iff, decide_eq_false_iff_not,
    beq_eq_false_iff_ne]
  omega

theorem isBlank_of_isDigit {c : Char} (digit : c.isDigit = true) : isBlank c = false := by
  obtain ⟨least, most⟩ := Char.isDigit_iff_toNat.1 digit
  rw [show '0'.toNat = 48 from rfl] at least
  rw [show '9'.toNat = 57 from rfl] at most
  exact isBlank_of_visible (by omega) (by omega)

theorem dropTail_append {p : Char → Bool} (s : List Char) {v : List Char} (blank : ∀ c ∈ v, p c) :
    dropTail p (s ++ v) = dropTail p s := by
  unfold dropTail
  rw [List.reverse_append, List.dropWhile_append_of_pos (by simpa using blank)]

theorem exists_dropTail (p : Char → Bool) (s : List Char) :
    ∃ v, s = dropTail p s ++ v ∧ ∀ c ∈ v, p c := by
  refine ⟨(s.reverse.takeWhile p).reverse, ?_, ?_⟩
  · rw [dropTail, ← List.reverse_append, List.takeWhile_append_dropWhile, List.reverse_reverse]
  · intro c mem
    exact List.all_eq_true.1 List.all_takeWhile c (List.mem_reverse.1 mem)

/-- Only characters of `p` are taken from the ends of a text. -/
theorem exists_trimBy (p : Char → Bool) (s : List Char) :
    ∃ u v, s = u ++ trimBy p s ++ v ∧ (∀ c ∈ u, p c) ∧ ∀ c ∈ v, p c := by
  obtain ⟨v, whole, after⟩ := exists_dropTail p (s.dropWhile p)
  refine ⟨s.takeWhile p, v, ?_, List.all_eq_true.1 List.all_takeWhile, after⟩
  rw [trimBy, List.append_assoc, ← whole, List.takeWhile_append_dropWhile]

/-- Only blanks are taken from the ends of a text. -/
theorem exists_trim (s : List Char) :
    ∃ u v, s = u ++ trim s ++ v ∧ (∀ c ∈ u, isBlank c) ∧ ∀ c ∈ v, isBlank c :=
  exists_trimBy isBlank s

theorem dropWhile_of_solid {p : Char → Bool} {s : List Char} (solid : ∀ c ∈ s, p c = false) :
    s.dropWhile p = s := by
  cases s with
  | nil => rfl
  | cons c r => exact List.dropWhile_cons_of_neg (by simp [solid c (List.mem_cons_self ..)])

/-- The characters of `p` around a text without any are taken away. -/
theorem trimBy_of_solid {p : Char → Bool} {u t v : List Char} (before : ∀ c ∈ u, p c)
    (after : ∀ c ∈ v, p c) (solid : ∀ c ∈ t, p c = false) : trimBy p (u ++ t ++ v) = t := by
  have tail : dropTail p t = t := by
    rw [dropTail, dropWhile_of_solid (by simpa using solid), List.reverse_reverse]
  rw [trimBy, List.append_assoc, List.dropWhile_append_of_pos before]
  cases t with
  | nil =>
    have all : v.dropWhile p = [] := by
      rw [← List.append_nil v, List.dropWhile_append_of_pos after, List.dropWhile_nil]
    rw [List.nil_append, all]
    rfl
  | cons c r =>
    have first := solid c (List.mem_cons_self ..)
    rw [List.cons_append, List.dropWhile_cons_of_neg (by simp [first]), ← List.cons_append,
      dropTail_append _ after, tail]

/-- The blanks around a text without any are taken away. -/
theorem trim_of_blanks {u t v : List Char} (before : ∀ c ∈ u, isBlank c) (after : ∀ c ∈ v, isBlank c)
    (solid : ∀ c ∈ t, isBlank c = false) : trim (u ++ t ++ v) = t :=
  trimBy_of_solid before after solid

end Logbook.Text
