import Logbook.Text.Integer

/-!
# Texts that write integers

A text writes an integer if it consists of digits of any script, single underscores between them, with
a sign before them or none and white space around. `Text.integer?_isSome_iff` says that these are the
texts that are read, up to `maxDigits` digits.
-/

namespace Logbook.Text

/-- A text of digits in which single underscores may stand between digits, and these digits. -/
inductive Underscored : List Char → List Char → Prop where
  | last {c} : isDigit c = true → Underscored [c] [c]
  | digit {c s ds} : isDigit c = true → Underscored s ds → Underscored (c :: s) (c :: ds)
  | gap {c s ds} : isDigit c = true → Underscored s ds → Underscored (c :: '_' :: s) (c :: ds)

/-- A text writes an integer of no more than `maxDigits` digits. -/
def WritesInteger (s : List Char) : Prop :=
  ∃ before sign numeral after digits, s = before ++ (sign ++ numeral) ++ after ∧
    (∀ c ∈ before, isSpace c = true) ∧ (∀ c ∈ after, isSpace c = true) ∧
    sign ∈ [[], ['-'], ['+']] ∧
    Underscored numeral digits ∧ digits.length ≤ maxDigits

theorem digits_of_underscored {s ds : List Char} (written : Underscored s ds) :
    ∀ c ∈ ds, isDigit c = true := by
  induction written with
  | last digit => exact List.forall_mem_singleton.2 digit
  | digit digit _ ih => exact List.forall_mem_cons.2 ⟨digit, ih⟩
  | gap digit _ ih => exact List.forall_mem_cons.2 ⟨digit, ih⟩

theorem mem_of_underscored {s ds : List Char} (written : Underscored s ds) :
    ∀ c ∈ s, isDigit c = true ∨ c = '_' := by
  induction written with
  | last digit => exact List.forall_mem_singleton.2 (.inl digit)
  | digit digit _ ih => exact List.forall_mem_cons.2 ⟨.inl digit, ih⟩
  | gap digit _ ih => exact List.forall_mem_cons.2 ⟨.inl digit, List.forall_mem_cons.2 ⟨.inr rfl, ih⟩⟩

/-- A digit before a written text is written as well. -/
theorem underscored?_cons {c : Char} {s ds : List Char} (digit : isDigit c = true)
    (written : Underscored s ds) : underscored? (c :: s) = (underscored? s).map (c :: ·) := by
  -- no written text starts with an underscore
  have first : ∃ d r, s = d :: r ∧ d ≠ '_' := by
    have other {d : Char} (digit : isDigit d = true) : d ≠ '_' := by
      rintro rfl
      exact absurd digit (by decide)
    cases written with
    | last digit => exact ⟨_, _, rfl, other digit⟩
    | digit digit _ => exact ⟨_, _, rfl, other digit⟩
    | gap digit _ => exact ⟨_, _, rfl, other digit⟩
  obtain ⟨d, r, rfl, other⟩ := first
  rw [underscored?.eq_def]
  split <;> simp_all

theorem underscored?_eq_some_iff {s ds : List Char} :
    underscored? s = some ds ↔ Underscored s ds := by
  constructor
  · intro read
    fun_induction underscored? s generalizing ds with
    | case1 => cases read
    | case2 c digit =>
      cases read
      exact .last digit
    | case3 => cases read
    | case4 c r digit ih =>
      obtain ⟨ds, rest, rfl⟩ := Option.map_eq_some_iff.1 read
      exact .gap digit (ih rest)
    | case5 => cases read
    | case6 c r _ _ digit ih =>
      obtain ⟨ds, rest, rfl⟩ := Option.map_eq_some_iff.1 read
      exact .digit digit (ih rest)
    | case7 => cases read
  · intro written
    induction written with
    | last digit => rw [underscored?, if_pos digit]
    | digit digit written ih => rw [underscored?_cons digit written, ih, Option.map_some]
    | gap digit written ih => rw [underscored?, if_pos digit, ih, Option.map_some]

/-- Digits of any script are not white space. -/
theorem isSpace_of_isDigit {c : Char} (digit : isDigit c = true) : isSpace c = false := by
  have apart : ∀ z ∈ digitZeros, z = 0x30 ∨ 0x660 ≤ z ∧ z ≤ 0x1090 ∨ 0x17E0 ≤ z ∧ z ≤ 0x1C50 ∨
      0xA620 ≤ z := by decide
  obtain ⟨v, value⟩ := Option.isSome_iff_exists.1 digit
  obtain ⟨z, found, -⟩ := Option.map_eq_some_iff.1 value
  have between := List.find?_some found
  have place := apart z (List.mem_of_find?_eq_some found)
  simp only [Bool.and_eq_true, decide_eq_true_eq] at between
  have solid : isBlank c = false := by
    unfold isBlank
    simp only [Bool.or_eq_false_iff, Bool.and_eq_false_iff, decide_eq_false_iff_not,
      beq_eq_false_iff_ne]
    omega
  rw [isSpace, solid, Bool.false_and]

/-- A text is its sign, if it has one, and what is left without it. -/
theorem exists_sign (s : List Char) :
    ∃ sign ∈ [[], ['-'], ['+']], s = sign ++ (unsigned s).2 := by
  unfold unsigned
  split
  · exact ⟨['-'], by simp, rfl⟩
  · exact ⟨['+'], by simp, rfl⟩
  · exact ⟨[], by simp, rfl⟩

/-- The sign before digits is taken away. -/
theorem unsigned_append {sign s ds : List Char} (signs : sign ∈ [[], ['-'], ['+']])
    (written : Underscored s ds) : (unsigned (sign ++ s)).2 = s := by
  have first : ∀ c ∈ s, c ≠ '-' ∧ c ≠ '+' := by
    intro c mem
    obtain digit | rfl := mem_of_underscored written c mem
    · constructor <;> rintro rfl <;> exact absurd digit (by decide)
    · decide
  simp only [List.mem_cons, List.not_mem_nil, or_false] at signs
  obtain rfl | rfl | rfl := signs
  · unfold unsigned
    split <;> simp_all
  · rfl
  · rfl

/-- Digits have a value unless they are too many. -/
theorem limitedValue?_isSome_iff {ds : List Char} (digits : ∀ c ∈ ds, isDigit c = true) :
    (limitedValue? ds).isSome = true ↔ ds.length ≤ maxDigits := by
  obtain ⟨n, value⟩ := exists_digitsValue? digits
  unfold limitedValue?
  split <;> simp_all

/-- The texts that are read as integers are those that write one. -/
theorem integer?_isSome_iff {s : List Char} : (integer? s).isSome = true ↔ WritesInteger s := by
  have read : (integer? s).isSome = true ↔ ∃ ds,
      Underscored (unsigned (trimBy isSpace s)).2 ds ∧ ds.length ≤ maxDigits := by
    have parts : (integer? s).isSome = true ↔ ∃ ds,
        underscored? (unsigned (trimBy isSpace s)).2 = some ds ∧ (limitedValue? ds).isSome = true := by
      cases numeral : underscored? (unsigned (trimBy isSpace s)).2 <;> simp [integer?, numeral]
    rw [parts]
    refine exists_congr fun ds => ?_
    rw [underscored?_eq_some_iff]
    exact and_congr_right fun written => limitedValue?_isSome_iff (digits_of_underscored written)
  rw [read]
  constructor
  · rintro ⟨ds, written, short⟩
    obtain ⟨before, after, whole, blank, blank'⟩ := exists_trimBy isSpace s
    obtain ⟨sign, signs, parts⟩ := exists_sign (trimBy isSpace s)
    rw [parts] at whole
    exact ⟨before, sign, _, after, ds, whole, blank, blank', signs, written, short⟩
  · rintro ⟨before, sign, numeral, after, ds, rfl, blank, blank', signs, written, short⟩
    have solid : ∀ c ∈ sign ++ numeral, isSpace c = false := by
      have signless : ∀ sign ∈ [[], ['-'], ['+']], ∀ c ∈ sign, isSpace c = false := by
        simp [isSpace, isBlank]
      refine List.forall_mem_append.2 ⟨signless sign signs, fun c mem => ?_⟩
      obtain digit | rfl := mem_of_underscored written c mem
      · exact isSpace_of_isDigit digit
      · decide
    rw [trimBy_of_solid blank blank' solid, unsigned_append signs written]
    exact ⟨ds, written, short⟩

end Logbook.Text
