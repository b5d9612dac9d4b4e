import Logbook.Proofs.Query.Reading

/-!
# Operators in queries

The syntax of queries takes the bare words `AND`, `OR` and `NOT` for operators. Outside of quotes a
query is read as tokens, between blanks and bare parentheses. Its tokens are those of the terms of its
conditions, with an `AND` at each joint between two terms of one condition
(`QueryText.tokens_ofFilter`). A word of a phrase is escaped character by character, which leaves the
letters of an operator as they are: it becomes one if it is one of the three and has no wildcard
(`QueryText.operators_joint_iff`).
-/

namespace Logbook.QueryText

section Marks

/-- A query without its quoted parts. A bare quote starts one and ends it, and leaves a blank. -/
def unquoted : Bool → List Mark → List Mark
  | _, [] => []
  | inside, m :: r =>
    if m = bare '"' then bare ' ' :: unquoted (!inside) r
    else if inside then unquoted inside r
    else m :: unquoted inside r

/-- Does a token end here: at a bare blank or parenthesis? -/
def isBreak (m : Mark) : Bool :=
  !m.literal && (Text.isBlank m.char || m.char = '(' || m.char = ')')

/-- What stands between the breaks. -/
def runs (ms : List Mark) : List (List Mark) :=
  (ms.splitOnP isBreak).filter fun t => !t.isEmpty

theorem unquoted_append {ms : List Mark} (free : bare '"' ∉ ms) (ns : List Mark) :
    unquoted false (ms ++ ns) = ms ++ unquoted false ns := by
  induction ms with
  | nil => rfl
  | cons m r ih =>
    obtain ⟨other, free⟩ := List.ne_and_not_mem_of_not_mem_cons free
    rw [List.cons_append, unquoted, if_neg other.symm, if_neg Bool.false_ne_true, ih free]
    rfl

theorem unquoted_quoted {ms : List Mark} (free : bare '"' ∉ ms) (ns : List Mark) :
    unquoted true (ms ++ bare '"' :: ns) = bare ' ' :: unquoted false ns := by
  induction ms with
  | nil => rfl
  | cons m r ih =>
    obtain ⟨other, free⟩ := List.ne_and_not_mem_of_not_mem_cons free
    rw [List.cons_append, unquoted, if_neg other.symm, if_pos rfl, ih free]

/-- A break parts the runs before it from those behind it. -/
theorem runs_append_break {m : Mark} (cut : isBreak m = true) (xs ys : List Mark) :
    runs (xs ++ m :: ys) = runs xs ++ runs ys := by
  unfold runs
  rw [List.splitOnP_append_cons xs ys cut, List.filter_append]

theorem runs_nil : runs [] = [] := by
  simp [runs]

theorem runs_break_cons {m : Mark} (cut : isBreak m = true) (ms : List Mark) :
    runs (m :: ms) = runs ms := by
  have parted := runs_append_break cut [] ms
  rwa [runs_nil, List.nil_append] at parted

theorem runs_concat_break {m : Mark} (cut : isBreak m = true) (ms : List Mark) :
    runs (ms ++ [m]) = runs ms := by
  rw [runs_append_break cut, runs_nil, List.append_nil]

theorem runs_breaks_append {xs : List Mark} (cut : ∀ m ∈ xs, isBreak m = true) (ys : List Mark) :
    runs (xs ++ ys) = runs ys := by
  induction xs with
  | nil => rfl
  | cons m r ih =>
    obtain ⟨here, later⟩ := List.forall_mem_cons.1 cut
    rw [List.cons_append, runs_break_cons here, ih later]

theorem runs_append_breaks (xs : List Mark) {ys : List Mark} (cut : ∀ m ∈ ys, isBreak m = true) :
    runs (xs ++ ys) = runs xs := by
  cases ys with
  | nil => rw [List.append_nil]
  | cons m r =>
    obtain ⟨here, later⟩ := List.forall_mem_cons.1 cut
    have none := runs_breaks_append later []
    rw [List.append_nil, runs_nil] at none
    rw [runs_append_break here, none, List.append_nil]

theorem runs_of_solid {ms : List Mark} (given : ms ≠ []) (solid : ∀ m ∈ ms, isBreak m = false) :
    runs ms = [ms] := by
  rw [runs, List.splitOnP_eq_singleton solid]
  simp [given]

end Marks

/-- A query outside of its quotes. -/
def outside (query : List Char) : List Mark :=
  unquoted false (reading query)

/-- The tokens of a query. -/
def tokens (query : List Char) : List (List Mark) :=
  runs (outside query)

/-- A text has a meaning of its own in a query: nothing behind it changes how it is read. -/
def Closed (s : List Char) : Prop :=
  ∀ t, outside (s ++ t) = outside s ++ outside t

theorem outside_nil : outside [] = [] := rfl

theorem closed_of_outside {s : List Char} {ms : List Mark}
    (read : ∀ t, outside (s ++ t) = ms ++ outside t) : Closed s ∧ outside s = ms := by
  have alone := read []
  rw [List.append_nil, outside_nil, List.append_nil] at alone
  exact ⟨fun t => by rw [read, alone], alone⟩

theorem closed_nil : Closed [] := fun _ => rfl

theorem Closed.append {s t : List Char} (hs : Closed s) (ht : Closed t) : Closed (s ++ t) := by
  intro u
  rw [List.append_assoc, hs, ht, hs, List.append_assoc]

/-- A character stands for itself if it is no backslash and no quote. -/
theorem outside_cons {c : Char} (plain : c ≠ '\\') (free : c ≠ '"') (t : List Char) :
    outside (c :: t) = bare c :: outside t := by
  have other : bare c ≠ bare '"' := fun same => free (congrArg Mark.char same)
  rw [outside, reading_bare plain, unquoted, if_neg other, if_neg Bool.false_ne_true]
  rfl

theorem closed_plain {s : List Char} (plain : ∀ c ∈ s, c ≠ '\\' ∧ c ≠ '"') :
    Closed s ∧ outside s = s.map bare := by
  apply closed_of_outside
  induction s with
  | nil => exact fun t => rfl
  | cons c r ih =>
    obtain ⟨here, later⟩ := List.forall_mem_cons.1 plain
    intro t
    rw [List.cons_append, outside_cons here.1 here.2, ih later]
    rfl

theorem closed_escaped (s : List Char) :
    Closed (escaped s) ∧ outside (escaped s) = marked isReserved s := by
  apply closed_of_outside
  intro t
  rw [outside, reading_escaped, unquoted_append (quote_notMem_marked (by decide) s)]
  rfl

theorem closed_quoted (s : List Char) :
    Closed (quoted s) ∧ outside (quoted s) = [bare ' ', bare ' '] := by
  apply closed_of_outside
  intro t
  rw [outside, reading_quoted, unquoted, if_pos rfl, Bool.not_false,
    unquoted_quoted (quote_notMem_marked (by decide) s)]
  rfl

theorem closed_intercalate {sep : List Char} {ws : List (List Char)} (apart : Closed sep)
    (closed : ∀ w ∈ ws, Closed w) : Closed (sep.intercalate ws) := by
  induction ws with
  | nil => exact closed_nil
  | cons w ws ih =>
    obtain ⟨here, later⟩ := List.forall_mem_cons.1 closed
    cases ws with
    | nil =>
      rw [List.intercalate_singleton]
      exact here
    | cons v ws =>
      rw [List.intercalate_cons_cons]
      exact (here.append apart).append (ih later)

/-- A blank parts the tokens before it from those behind it. -/
theorem tokens_append_blank {s : List Char} (closed : Closed s) (t : List Char) :
    tokens (s ++ ' ' :: t) = tokens s ++ tokens t := by
  rw [tokens, closed, outside_cons (by decide) (by decide), runs_append_break (by decide)]
  rfl

/-- Where a joint between texts has tokens of its own, they stand between those of the texts. -/
theorem tokens_intercalate {sep : List Char} {joint : List (List Mark)}
    (parted : ∀ {s}, Closed s → ∀ t, tokens (s ++ sep ++ t) = tokens s ++ joint ++ tokens t)
    {ws : List (List Char)} (closed : ∀ w ∈ ws, Closed w) :
    tokens (sep.intercalate ws) = joint.intercalate (ws.map tokens) := by
  induction ws with
  | nil => rw [List.intercalate_nil, tokens, outside_nil, runs_nil, List.map_nil, List.intercalate_nil]
  | cons w ws ih =>
    obtain ⟨here, later⟩ := List.forall_mem_cons.1 closed
    cases ws with
    | nil => rw [List.intercalate_singleton, List.map_cons, List.map_nil, List.intercalate_singleton]
    | cons v ws =>
      rw [List.intercalate_cons_cons, parted here, ih later]
      exact List.intercalate_cons_cons.symm

/-- A word that stands bare. -/
def bareWord (w : String) : List Mark :=
  w.toList.map bare

/-- A word of letters is its own token. -/
theorem tokens_and : tokens "AND".toList = [bareWord "AND"] := by decide

/-- An `AND` between two texts is a token of its own. -/
theorem tokens_append_and {s : List Char} (closed : Closed s) (t : List Char) :
    tokens (s ++ " AND ".toList ++ t) = tokens s ++ [bareWord "AND"] ++ tokens t := by
  have joint : s ++ " AND ".toList ++ t = s ++ ' ' :: ("AND".toList ++ ' ' :: t) := by simp
  have letters := (closed_plain (s := "AND".toList) (by simp)).1
  rw [joint, tokens_append_blank closed, tokens_append_blank letters, tokens_and, List.append_assoc]

/-- Parentheses around a text are no part of its tokens. -/
theorem tokens_group {s : List Char} (closed : Closed s) :
    tokens ('(' :: s ++ [')']) = tokens s := by
  rw [List.cons_append, tokens, outside_cons (by decide) (by decide), closed,
    outside_cons (by decide) (by decide), outside_nil, runs_break_cons (by decide),
    runs_concat_break (by decide)]
  rfl

theorem tokens_conjunction {ws : List (List Char)} (closed : ∀ w ∈ ws, Closed w) :
    tokens (conjunction ws) = [bareWord "AND"].intercalate (ws.map tokens) := by
  rw [← tokens_intercalate tokens_append_and closed]
  match ws with
  | [] => rfl
  | [w] => rw [conjunction, List.intercalate_singleton]
  | w :: v :: r => exact tokens_group (closed_intercalate (closed_plain (by simp)).1 closed)

/-- The terms of a condition, where it has any, with the wildcard on one of them. -/
def starredTerms (c : Condition) : List (List Char) :=
  match c.place with
  | .anywhere => []
  | .atStart => starLast (terms c.phrase.toList)
  | .atEnd => starFirst (terms c.phrase.toList)

/-- Where a token of a query comes from: from a phrase, or from the joint between two terms. -/
inductive Origin where
  | phrase
  | joint
  deriving DecidableEq, Repr

/-- The tokens of a condition: those of its terms, and an `AND` at each joint between two of them. -/
def tokensOf (c : Condition) : List (List Mark × Origin) :=
  [(bareWord "AND", .joint)].intercalate
    ((starredTerms c).map fun t => (tokens t).map fun token => (token, .phrase))

/-- The words that the syntax takes for operators where they stand bare. -/
def operators : List String := ["AND", "OR", "NOT"]

/-- A token is an operator. -/
def IsOperator (t : List Mark) : Prop :=
  ∃ w ∈ operators, t = bareWord w

/-- The words of a condition that stand without the wildcard. -/
def plainWords (c : Condition) : List (List Char) :=
  match c.place with
  | .anywhere => []
  | .atStart => (Text.words c.phrase.toList).dropLast
  | .atEnd => (Text.words c.phrase.toList).tail

theorem closed_of_mem_terms {phrase t : List Char} (mem : t ∈ terms phrase) : Closed t := by
  obtain ⟨w, -, rfl⟩ := mem_terms.1 mem
  exact (closed_escaped w).1

theorem closed_of_isStarred {phrase t w : List Char} (mem : t ∈ terms phrase)
    (form : IsStarred t w) : Closed w := by
  have closed := closed_of_mem_terms mem
  have star : Closed ['*'] := (closed_plain (by simp)).1
  obtain rfl | rfl | rfl := form
  · exact closed
  · exact closed.append star
  · exact star.append closed

theorem closed_of_mem_starredTerms {c : Condition} {t : List Char} (mem : t ∈ starredTerms c) :
    Closed t := by
  unfold starredTerms at mem
  cases place : c.place <;> rw [place] at mem
  case anywhere => cases mem
  case atStart =>
    obtain ⟨t', inside, form⟩ := starred_of_mem_starLast mem
    exact closed_of_isStarred inside form
  case atEnd =>
    obtain ⟨t', inside, form⟩ := starred_of_mem_starFirst mem
    exact closed_of_isStarred inside form

theorem closed_conjunction {ws : List (List Char)} (closed : ∀ w ∈ ws, Closed w) :
    Closed (conjunction ws) := by
  match ws with
  | [] => exact closed_nil
  | [w] => exact closed w (List.mem_singleton_self w)
  | w :: v :: r =>
    have opening : Closed ['('] := (closed_plain (by simp)).1
    have closing : Closed [')'] := (closed_plain (by simp)).1
    exact opening.append ((closed_intercalate (closed_plain (by simp)).1 closed).append closing)

theorem ofCondition_cases (c : Condition) :
    starredTerms c = [] ∧ ofCondition c = quoted c.phrase.toList ∨
      ofCondition c = conjunction (starredTerms c) := by
  unfold ofCondition starredTerms
  cases c.place <;> simp

theorem closed_ofCondition (c : Condition) : Closed (ofCondition c) := by
  obtain ⟨-, query⟩ | query := ofCondition_cases c
  · rw [query]
    exact (closed_quoted _).1
  · rw [query]
    exact closed_conjunction fun t => closed_of_mem_starredTerms

theorem nil_intercalate {α : Type} (xs : List (List α)) : [].intercalate xs = xs.flatten := by
  induction xs with
  | nil => rfl
  | cons x xs ih =>
    cases xs with
    | nil => simp
    | cons y xs =>
      rw [List.intercalate_cons_cons, List.append_nil, ih]
      rfl

theorem map_intercalate {α β : Type} (g : α → β) (sep : List α) (xs : List (List α)) :
    (sep.intercalate xs).map g = (sep.map g).intercalate (xs.map (·.map g)) := by
  induction xs with
  | nil => simp
  | cons x xs ih =>
    cases xs with
    | nil => simp
    | cons y xs =>
      rw [List.intercalate_cons_cons, List.map_append, List.map_append, ih]
      exact List.intercalate_cons_cons.symm

theorem tokens_ofCondition (c : Condition) : tokens (ofCondition c) = (tokensOf c).map (·.1) := by
  have own : (tokensOf c).map (·.1) = [bareWord "AND"].intercalate ((starredTerms c).map tokens) := by
    simp [tokensOf, map_intercalate, Function.comp_def]
  rw [own]
  obtain ⟨none, query⟩ | query := ofCondition_cases c
  · -- a quoted phrase leaves blanks alone, and has no terms
    rw [query, none, tokens, (closed_quoted _).2]
    decide
  · rw [query, tokens_conjunction fun t => closed_of_mem_starredTerms]

/-- The tokens of a query are those of its conditions. -/
theorem tokens_ofFilter (f : PhraseFilter) :
    tokens (ofFilter f) = (f.conditions.flatMap tokensOf).map (·.1) := by
  have closed : ∀ q ∈ f.conditions.map ofCondition, Closed q := by
    simp only [List.forall_mem_map]
    exact fun c _ => closed_ofCondition c
  have parted {s : List Char} (closed : Closed s) (t : List Char) :
      tokens (s ++ [' '] ++ t) = tokens s ++ [] ++ tokens t := by
    rw [List.append_nil, List.append_assoc, List.singleton_append, tokens_append_blank closed]
  rw [ofFilter, tokens_intercalate parted closed, nil_intercalate, List.map_map, List.map_flatMap,
    List.flatMap_def]
  exact congrArg List.flatten (List.map_congr_left fun c _ => tokens_ofCondition c)

theorem isOperator_marked_iff {w : List Char} :
    IsOperator (marked isReserved w) ↔ String.ofList w ∈ operators := by
  have letters : ∀ o ∈ operators, marked isReserved o.toList = bareWord o := by decide
  constructor
  · rintro ⟨o, mem, same⟩
    have chars := congrArg (List.map (·.char)) same
    rw [char_marked, bareWord, List.map_map] at chars
    have whole : w = o.toList := by simpa [Function.comp_def, bare] using chars
    rwa [whole, String.ofList_toList]
  · intro mem
    have whole := letters _ mem
    rw [String.toList_ofList] at whole
    exact ⟨_, mem, whole⟩

/-- A token with a wildcard is no operator. -/
theorem not_isOperator_of_star {t : List Mark} (star : bare '*' ∈ t) : ¬IsOperator t := by
  have none : ∀ o ∈ operators, bare '*' ∉ bareWord o := by decide
  rintro ⟨o, mem, rfl⟩
  exact none o mem star

/-- No operator is among the tokens of a term. -/
def Safe (t : List Char) : Prop :=
  ∀ token ∈ tokens t, ¬IsOperator token

theorem isBreak_marked {w : List Char} {m : Mark} (mem : m ∈ marked isReserved w) :
    isBreak m = Text.isBlank m.char := by
  obtain ⟨c, -, rfl⟩ := List.mem_map.1 mem
  have blank : isReserved c = true → Text.isBlank c = false := by
    have all : ∀ c ∈ reserved, !Text.isBlank c := List.all_eq_true.1 (by decide)
    exact fun reserves => by simpa using all c (of_decide_eq_true reserves)
  have group : isReserved c = false → c ≠ '(' ∧ c ≠ ')' := by
    intro free
    constructor <;> rintro rfl <;> exact absurd free (by decide)
  unfold isBreak
  cases reserves : isReserved c with
  | true => simp [blank reserves]
  | false => simp [group reserves]

theorem solid_marked {w : List Char} (solid : ∀ c ∈ w, Text.isBlank c = false) :
    ∀ m ∈ marked isReserved w, isBreak m = false := by
  intro m mem
  rw [isBreak_marked mem]
  obtain ⟨c, inside, rfl⟩ := List.mem_map.1 mem
  exact solid c inside

theorem break_marked {w : List Char} (blank : ∀ c ∈ w, Text.isBlank c = true) :
    ∀ m ∈ marked isReserved w, isBreak m = true := by
  intro m mem
  rw [isBreak_marked mem]
  obtain ⟨c, inside, rfl⟩ := List.mem_map.1 mem
  exact blank c inside

/-- A word by itself is an operator if it is one of the three. -/
theorem safe_escaped_iff {w : List Char} (given : w ≠ [])
    (solid : ∀ c ∈ w, Text.isBlank c = false) : Safe (escaped w) ↔ String.ofList w ∉ operators := by
  have token : tokens (escaped w) = [marked isReserved w] := by
    rw [tokens, (closed_escaped w).2]
    exact runs_of_solid (by simpa [marked] using given) (solid_marked solid)
  rw [Safe, token, List.forall_mem_singleton, isOperator_marked_iff]

/-- A word of a phrase has no blanks, or nothing but blanks. -/
theorem solid_or_blank_of_mem_wordsOf {phrase w : List Char} (mem : w ∈ wordsOf phrase) :
    (∀ c ∈ w, Text.isBlank c = false) ∨ ∀ c ∈ w, Text.isBlank c = true := by
  unfold wordsOf at mem
  split at mem
  · next none =>
    obtain rfl := List.mem_singleton.1 mem
    exact .inr (Text.blank_of_words_eq_nil none)
  · exact .inl (Text.solid_of_mem_words mem)

/-- A wildcard is in every run of what it stands beside, if nothing or everything there is a break. -/
theorem star_mem_of_mem_runs {ms : List Mark}
    (uniform : (∀ m ∈ ms, isBreak m = false) ∨ ∀ m ∈ ms, isBreak m = true) :
    (∀ t ∈ runs (ms ++ [bare '*']), bare '*' ∈ t) ∧ ∀ t ∈ runs (bare '*' :: ms), bare '*' ∈ t := by
  have star : isBreak (bare '*') = false := by decide
  obtain solid | cut := uniform
  · have last : ∀ m ∈ ms ++ [bare '*'], isBreak m = false := by
      simpa only [List.forall_mem_append, List.forall_mem_singleton] using ⟨solid, star⟩
    have first : ∀ m ∈ bare '*' :: ms, isBreak m = false := List.forall_mem_cons.2 ⟨star, solid⟩
    rw [runs_of_solid (by simp) last, runs_of_solid (by simp) first]
    simp
  · -- the wildcard of a phrase of blanks is a token by itself
    rw [runs_breaks_append cut, show bare '*' :: ms = [bare '*'] ++ ms from rfl,
      runs_append_breaks _ cut, runs_of_solid (by simp) (List.forall_mem_singleton.2 star)]
    simp

/-- A word with a wildcard is no operator. -/
theorem safe_starred {phrase w : List Char} (mem : w ∈ wordsOf phrase) :
    Safe (escaped w ++ ['*']) ∧ Safe ('*' :: escaped w) := by
  have behind : tokens (escaped w ++ ['*']) = runs (marked isReserved w ++ [bare '*']) := by
    rw [tokens, (closed_escaped w).1, (closed_escaped w).2]
    rfl
  have before : tokens ('*' :: escaped w) = runs (bare '*' :: marked isReserved w) := by
    rw [tokens, outside_cons (by decide) (by decide), (closed_escaped w).2]
  obtain ⟨last, first⟩ := star_mem_of_mem_runs
    ((solid_or_blank_of_mem_wordsOf mem).imp solid_marked break_marked)
  rw [Safe, Safe, behind, before]
  exact ⟨fun t mem => not_isOperator_of_star (last t mem),
    fun t mem => not_isOperator_of_star (first t mem)⟩

/-- The words behind the first and those before the last are the same if a phrase of blanks is taken
for a word. -/
theorem ends_wordsOf (phrase : List Char) :
    (wordsOf phrase).dropLast = (Text.words phrase).dropLast ∧
      (wordsOf phrase).tail = (Text.words phrase).tail := by
  unfold wordsOf
  cases Text.words phrase <;> simp

/-- The terms of a condition hold no operator if no word without the wildcard is one. -/
theorem forall_safe_iff (c : Condition) :
    (∀ t ∈ starredTerms c, Safe t) ↔ ∀ w ∈ plainWords c, String.ofList w ∉ operators := by
  have plain (w : List Char) (mem : w ∈ Text.words c.phrase.toList) :
      Safe (escaped w) ↔ String.ofList w ∉ operators :=
    safe_escaped_iff (Text.ne_nil_of_mem_words mem) (Text.solid_of_mem_words mem)
  have given := terms_ne_nil c.phrase.toList
  obtain ⟨front, back⟩ := ends_wordsOf c.phrase.toList
  unfold starredTerms plainWords
  cases c.place with
  | anywhere => simp
  | atStart =>
    dsimp only
    have last : Safe ((terms c.phrase.toList).getLast given ++ ['*']) := by
      obtain ⟨w, mem, same⟩ := mem_terms.1 (List.getLast_mem given)
      rw [← same]
      exact (safe_starred mem).1
    rw [starLast_eq given, List.forall_mem_append, List.forall_mem_singleton, and_iff_left last,
      terms_eq, ← List.map_dropLast, front, List.forall_mem_map]
    exact forall₂_congr fun w mem => plain w (List.dropLast_subset _ mem)
  | atEnd =>
    dsimp only
    obtain ⟨w, ws, whole⟩ := List.exists_cons_of_ne_nil (wordsOf_ne_nil c.phrase.toList)
    rw [whole, List.tail_cons] at back
    have first : Safe ('*' :: escaped w) := (safe_starred (whole ▸ List.mem_cons_self ..)).2
    rw [terms_eq, whole, List.map_cons, starFirst, List.forall_mem_cons, and_iff_right first, ← back,
      List.forall_mem_map]
    exact forall₂_congr fun v mem => plain v (List.mem_of_mem_tail (back ▸ mem))

theorem forall_mem_intercalate {α : Type} {P : α → Prop} {x : α} (joint : P x) (xs : List (List α)) :
    (∀ a ∈ [x].intercalate xs, P a) ↔ ∀ l ∈ xs, ∀ a ∈ l, P a := by
  induction xs with
  | nil => simp
  | cons l xs ih =>
    cases xs with
    | nil => simp
    | cons l' xs =>
      rw [List.intercalate_cons_cons, List.forall_mem_append, List.forall_mem_append, ih,
        List.forall_mem_singleton, and_iff_left joint]
      exact (List.forall_mem_cons (p := fun l => ∀ a ∈ l, P a)).symm

/-- The operators of a condition stand at its joints if its terms hold none. -/
theorem forall_joint_iff (c : Condition) :
    (∀ t ∈ tokensOf c, IsOperator t.1 → t.2 = .joint) ↔ ∀ t ∈ starredTerms c, Safe t := by
  rw [tokensOf, forall_mem_intercalate fun _ => rfl, List.forall_mem_map]
  simp only [List.forall_mem_map, Safe, reduceCtorEq, imp_false]

/-- The tokens of a query are those of its conditions, in order, and an operator among them stands at a
joint unless a word of a phrase that has no wildcard is the word of an operator. -/
theorem operators_joint_iff (f : PhraseFilter) :
    tokens (ofFilter f) = (f.conditions.flatMap tokensOf).map (·.1) ∧
      ((∀ t ∈ f.conditions.flatMap tokensOf, IsOperator t.1 → t.2 = .joint) ↔
        ∀ c ∈ f.conditions, ∀ w ∈ plainWords c, String.ofList w ∉ operators) := by
  refine ⟨tokens_ofFilter f, ?_⟩
  rw [List.forall_mem_flatMap]
  exact forall₂_congr fun c _ => (forall_joint_iff c).trans (forall_safe_iff c)

/-- A phrase whose first word is that of an operator is asked for, at the start of a text, with this
operator. -/
theorem phraseWord_operator :
    ofFilter ⟨.and, [⟨"NOT found", .atStart⟩]⟩ = "(NOT AND found*)".toList ∧
      tokens (ofFilter ⟨.and, [⟨"NOT found", .atStart⟩]⟩) =
        [bareWord "NOT", bareWord "AND", bareWord "found*"] ∧
      (bareWord "NOT", .phrase) ∈ tokensOf ⟨"NOT found", .atStart⟩ ∧ IsOperator (bareWord "NOT") := by
  refine ⟨by decide +kernel, by decide +kernel, by decide +kernel, "NOT", by decide, rfl⟩

end Logbook.QueryText
