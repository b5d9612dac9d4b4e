import Logbook.Proofs.Text.Words
import Logbook.Query.Text
import Mathlib.Data.List.Forall2

/-!
# How queries are read

The syntax of queries reads a backslash and the character behind it as that character, taken
literally; all other characters stand bare. In the query of a condition nothing of the phrase that
the syntax reserves stands bare, and the phrase is read back: within the one pair of quotes, or word
by word once the joints between the words and the wildcard are taken away
(`QueryText.ofCondition_readsBack`).
-/

namespace Logbook.QueryText

/-- A character of a query as its syntax reads it. -/
structure Mark where
  char : Char
  /-- The character stands behind a backslash. -/
  literal : Bool
  deriving DecidableEq, Repr

/-- A character that stands as it is. -/
def bare (c : Char) : Mark := ⟨c, false⟩

/-- A query as its syntax reads it. -/
def reading : List Char → List Mark
  | [] => []
  | c :: r =>
    if c = '\\' then match r with
      | [] => [bare c]
      | d :: r => ⟨d, true⟩ :: reading r
    else bare c :: reading r

theorem reading_literal (c : Char) (r : List Char) :
    reading ('\\' :: c :: r) = ⟨c, true⟩ :: reading r := by
  rw [reading, if_pos rfl]

theorem reading_bare {c : Char} (plain : c ≠ '\\') (r : List Char) :
    reading (c :: r) = bare c :: reading r := by
  rw [reading.eq_def]
  exact if_neg plain

/-- A text in which the characters that pass a test are literal. -/
def marked (p : Char → Bool) (s : List Char) : List Mark :=
  s.map fun c => ⟨c, p c⟩

theorem char_marked (p : Char → Bool) (s : List Char) : (marked p s).map (·.char) = s := by
  simp [marked, Function.comp_def]

/-- Backslashes before the characters that pass a test make these literal, if backslashes are among
them. -/
theorem reading_flatMap {p : Char → Bool} (escapes : p '\\' = true) (s t : List Char) :
    reading (s.flatMap (fun c => if p c then ['\\', c] else [c]) ++ t) = marked p s ++ reading t := by
  induction s with
  | nil => rfl
  | cons c r ih =>
    rw [List.flatMap_cons, List.append_assoc, marked, List.map_cons]
    by_cases test : p c = true
    · rw [if_pos test, List.cons_append, List.singleton_append, reading_literal, ih, test]
      rfl
    · have plain : c ≠ '\\' := by
        rintro rfl
        exact test escapes
      rw [if_neg test, List.singleton_append, reading_bare plain, ih, Bool.eq_false_iff.2 test]
      rfl

/-- Is the character one that the syntax reserves? -/
def isReserved (c : Char) : Bool := c ∈ reserved

/-- Is the character one that is escaped within quotes? -/
def isQuoting (c : Char) : Bool := c = '\\' || c = '"'

theorem reading_escaped (s t : List Char) :
    reading (escaped s ++ t) = marked isReserved s ++ reading t := by
  have test : escaped s = s.flatMap fun c => if isReserved c then ['\\', c] else [c] := by
    simp [escaped, isReserved]
  rw [test, reading_flatMap (by decide)]

theorem reading_quoted (s t : List Char) :
    reading (quoted s ++ t) = bare '"' :: (marked isQuoting s ++ bare '"' :: reading t) := by
  have test : quoted s = '"' :: s.flatMap (fun c => if isQuoting c then ['\\', c] else [c]) ++ ['"'] := by
    simp [quoted, isQuoting]
  rw [test, List.cons_append, List.cons_append, reading_bare (by decide), List.append_assoc,
    reading_flatMap (by decide), List.singleton_append, reading_bare (by decide)]

/-- No quote stands bare where quotes are made literal. -/
theorem quote_notMem_marked {p : Char → Bool} (escapes : p '"' = true) (s : List Char) :
    bare '"' ∉ marked p s := by
  intro mem
  obtain ⟨c, -, same⟩ := List.mem_map.1 mem
  obtain ⟨rfl, plain⟩ := Mark.mk.inj same
  rw [escapes] at plain
  cases plain

/-- The words of a phrase; a phrase of blanks is a word. -/
def wordsOf (phrase : List Char) : List (List Char) :=
  match Text.words phrase with
  | [] => [phrase]
  | ws => ws

theorem terms_eq (phrase : List Char) : terms phrase = (wordsOf phrase).map escaped := by
  unfold terms wordsOf
  cases Text.words phrase <;> rfl

/-- What a query asks for at once, without the parentheses and the joints between the parts. -/
def parts (query : List Char) : List (List Char) :=
  match query with
  | '(' :: r =>
    if r.getLast? = some ')' then Text.splitOn " AND ".toList r.dropLast else [query]
  | _ => [query]

theorem parts_group (s : List Char) :
    parts ('(' :: s ++ [')']) = Text.splitOn " AND ".toList s := by
  rw [List.cons_append, parts, if_pos List.getLast?_concat, List.dropLast_concat]

theorem parts_single {w : List Char} (shut : w.head? ≠ some '(') : parts w = [w] := by
  unfold parts
  split
  · exact absurd rfl shut
  · rfl

/-- A term is read as a word, in which nothing that the syntax reserves stands bare. -/
structure Spells (term word : List Char) : Prop where
  word : (reading term).map (·.char) = word
  literal : ∀ m ∈ reading term, m.char ∈ reserved → m.literal = true

theorem spells_escaped (w : List Char) : Spells (escaped w) w := by
  have read := reading_escaped w []
  simp only [List.append_nil, reading] at read
  constructor
  · rw [read, char_marked]
  · rw [read, marked, List.forall_mem_map]
    exact fun c _ reserves => decide_eq_true reserves

/-- A query is read back as a phrase: for any place as the text between the only two quotes that
stand bare, and for the start and the end of a text as the words of the phrase, once the wildcard
behind the last or before the first of them is taken away. -/
def ReadsBack (query phrase : List Char) : Place → Prop
  | .anywhere => ∃ content, reading query = bare '"' :: content ++ [bare '"'] ∧
      bare '"' ∉ content ∧ content.map (·.char) = phrase
  | .atStart => ∃ ts last, parts query = ts ++ [last ++ ['*']] ∧
      List.Forall₂ Spells (ts ++ [last]) (wordsOf phrase)
  | .atEnd => ∃ first ts, parts query = ('*' :: first) :: ts ∧
      List.Forall₂ Spells (first :: ts) (wordsOf phrase)

/-- Escaping puts nothing but backslashes into a text. -/
theorem mem_of_mem_escaped {c : Char} {w : List Char} (mem : c ∈ escaped w) (other : c ≠ '\\') :
    c ∈ w := by
  obtain ⟨d, inside, mem⟩ := List.mem_flatMap.1 mem
  split at mem <;> simp_all

theorem head?_escaped (w : List Char) : (escaped w).head? ≠ some '(' := by
  cases w with
  | nil => nofun
  | cons c r =>
    rw [escaped, List.flatMap_cons]
    split
    · simp
    · next plain =>
      intro opens
      cases opens
      exact plain (by decide)

theorem wordsOf_ne_nil (phrase : List Char) : wordsOf phrase ≠ [] := by
  unfold wordsOf
  split
  · exact List.cons_ne_nil phrase []
  · assumption

/-- Where a phrase has several words, they have no blanks. -/
theorem solid_of_mem_wordsOf {phrase w : List Char} (several : 2 ≤ (wordsOf phrase).length)
    (mem : w ∈ wordsOf phrase) : ∀ c ∈ w, Text.isBlank c = false := by
  unfold wordsOf at several mem
  split at mem
  · simp_all
  · exact Text.solid_of_mem_words mem

theorem mem_terms {phrase t : List Char} :
    t ∈ terms phrase ↔ ∃ w ∈ wordsOf phrase, escaped w = t := by
  rw [terms_eq, List.mem_map]

theorem length_terms (phrase : List Char) : (terms phrase).length = (wordsOf phrase).length := by
  rw [terms_eq, List.length_map]

theorem terms_ne_nil (phrase : List Char) : terms phrase ≠ [] := by
  rw [terms_eq, ne_eq, List.map_eq_nil_iff]
  exact wordsOf_ne_nil phrase

theorem head?_of_mem_terms {phrase t : List Char} (mem : t ∈ terms phrase) :
    t.head? ≠ some '(' := by
  obtain ⟨w, -, rfl⟩ := mem_terms.1 mem
  exact head?_escaped w

/-- Where a phrase has several terms, they have no blanks. -/
theorem blank_notMem_of_mem_terms {phrase t : List Char} (several : 2 ≤ (terms phrase).length)
    (mem : t ∈ terms phrase) : ' ' ∉ t := by
  obtain ⟨w, inside, rfl⟩ := mem_terms.1 mem
  rw [length_terms] at several
  intro blank
  have solid := solid_of_mem_wordsOf several inside ' ' (mem_of_mem_escaped blank (by decide))
  exact absurd solid (by decide)

/-- A term with a wildcard on one side or without any. -/
def IsStarred (t w : List Char) : Prop :=
  w = t ∨ w = t ++ ['*'] ∨ w = '*' :: t

section Wildcards

variable {ts : List (List Char)} {w : List Char}

theorem length_starLast : (starLast ts).length = ts.length := by
  fun_induction starLast ts <;> simp_all

theorem length_starFirst : (starFirst ts).length = ts.length := by
  cases ts <;> rfl

theorem starred_of_mem_starLast (mem : w ∈ starLast ts) : ∃ t ∈ ts, IsStarred t w := by
  fun_induction starLast ts with
  | case1 => cases mem
  | case2 t => exact ⟨t, List.mem_singleton_self t, .inr (.inl (List.mem_singleton.1 mem))⟩
  | case3 t ts _ ih =>
    obtain rfl | later := List.mem_cons.1 mem
    · exact ⟨w, List.mem_cons_self .., .inl rfl⟩
    · obtain ⟨u, inside, form⟩ := ih later
      exact ⟨u, List.mem_cons_of_mem t inside, form⟩

theorem starred_of_mem_starFirst (mem : w ∈ starFirst ts) : ∃ t ∈ ts, IsStarred t w := by
  cases ts with
  | nil => cases mem
  | cons t ts =>
    obtain rfl | later := List.mem_cons.1 mem
    · exact ⟨t, List.mem_cons_self .., .inr (.inr rfl)⟩
    · exact ⟨w, List.mem_cons_of_mem t later, .inl rfl⟩

/-- The wildcard stands behind the last term. -/
theorem starLast_eq (given : ts ≠ []) :
    starLast ts = ts.dropLast ++ [ts.getLast given ++ ['*']] := by
  fun_induction starLast ts with
  | case1 => exact absurd rfl given
  | case2 t => rfl
  | case3 t ts more ih =>
    rw [ih more, List.dropLast_cons_of_ne_nil more, List.getLast_cons more]
    rfl

end Wildcards

/-- A conjunction of the terms of a phrase, with wildcards or without, is taken apart again. -/
theorem parts_conjunction (phrase : List Char) {ws : List (List Char)}
    (length : ws.length = (terms phrase).length)
    (starred : ∀ w ∈ ws, ∃ t ∈ terms phrase, IsStarred t w) : parts (conjunction ws) = ws := by
  match ws with
  | [] => exact absurd (List.length_eq_zero_iff.1 length.symm) (terms_ne_nil phrase)
  | [w] =>
    -- one term stands without parentheses, and a parenthesis of its own is escaped
    obtain ⟨t, mem, form⟩ := starred w (List.mem_singleton_self w)
    have shut := head?_of_mem_terms mem
    apply parts_single
    obtain rfl | rfl | rfl := form
    · exact shut
    · cases t with
      | nil => decide
      | cons c r => exact shut
    · exact nofun
  | w :: w' :: r =>
    -- only a phrase of one term can have blanks in it, so several are cut at the joints alone
    have apart : ∀ x ∈ w :: w' :: r, ' ' ∉ x := by
      intro x mem
      obtain ⟨t, inside, form⟩ := starred x mem
      have apart := blank_notMem_of_mem_terms (by simp [← length]) inside
      obtain rfl | rfl | rfl := form <;> simp [apart]
    exact (parts_group _).trans
      (Text.splitOn_intercalate rfl (List.cons_ne_nil w (w' :: r)) apart)

/-- The terms of a phrase spell its words. -/
theorem forall₂_spells (phrase : List Char) :
    List.Forall₂ Spells (terms phrase) (wordsOf phrase) := by
  rw [terms_eq, List.forall₂_map_left_iff, List.forall₂_same]
  exact fun w _ => spells_escaped w

/-- A query is not broken out of: it is read back as the phrase of its condition. -/
theorem ofCondition_readsBack (c : Condition) :
    ReadsBack (ofCondition c) c.phrase.toList c.place := by
  have spelled := forall₂_spells c.phrase.toList
  unfold ofCondition
  cases c.place with
  | anywhere =>
    have read := reading_quoted c.phrase.toList []
    simp only [List.append_nil, reading] at read
    exact ⟨marked isQuoting c.phrase.toList, read, quote_notMem_marked (by decide) _, char_marked ..⟩
  | atStart =>
    have given := terms_ne_nil c.phrase.toList
    refine ⟨_, _, ?_, (List.dropLast_append_getLast given).symm ▸ spelled⟩
    dsimp only
    rw [← starLast_eq given]
    exact parts_conjunction _ length_starLast fun w => starred_of_mem_starLast
  | atEnd =>
    obtain ⟨first, ts, whole⟩ := List.exists_cons_of_ne_nil (terms_ne_nil c.phrase.toList)
    refine ⟨first, ts, ?_, whole ▸ spelled⟩
    dsimp only
    rw [show ('*' :: first) :: ts = starFirst (terms c.phrase.toList) by rw [whole]; rfl]
    exact parts_conjunction _ length_starFirst fun w => starred_of_mem_starFirst

end Logbook.QueryText
