import Logbook.Time.Window
import Mathlib.Data.List.TakeDrop

/-!
# Windows and what is wrong with them

A window is a well-formed lookback or a well-formed range. If a request gets bounds for its texts,
they are those of the one window among them (`namesWindow_of_requireBounds`). If it gets none, it is
told what is wrong with its texts, with two exceptions: a lookback of more digits than are read as
one number, and a range up to the last day of the calendar (`requireBounds_explained_iff`).
-/

namespace Logbook

/-- A text is a lookback that leads from `now` to `moment`, both in microseconds: it is a number and
the name of a unit, with blanks around them, and so many units before `now` lies `moment`. -/
def LeadsBack (now : Int) (text : String) (moment : Int) : Prop :=
  ∃ ds name n unit, Text.trim text.toList = ds ++ name ∧ ds ≠ [] ∧
    Text.digitsValue? ds = some n ∧ (String.ofList (Text.lower name), unit) ∈ LookbackUnit.names ∧
    unit.before? now n = some moment

/-- A text is a range from `first` to `last`, in microseconds: it is two sides, with blanks around
each of them, of which the one starts at `first` and the other ends at `last`. -/
def Ranges (text : String) (first last : Int) : Prop :=
  ∃ a b s t, text.toList = a ++ " to ".toList ++ b ∧ RangeSide.ofText? (Text.trim a) = some s ∧
    RangeSide.ofText? (Text.trim b) = some t ∧ s.start = first ∧ t.finish = .ok last ∧ first ≤ last

/-- A text is a lookback, with these bounds. -/
def IsLookback (now : Int) (text : String) (b : TimeSpan) : Prop :=
  ∃ moment, LeadsBack now text moment ∧ b = ⟨none, some (epochMs moment)⟩

/-- A text is a range, with these bounds. -/
def IsRange (text : String) (b : TimeSpan) : Prop :=
  ∃ first last, Ranges text first last ∧ b = ⟨some (epochMs first), some (epochMs last)⟩

/-- Just one of the texts of a request is a window, and it has these bounds. -/
def NamesWindow (now : Int) (lookback range : Option String) (b : TimeSpan) : Prop :=
  ((∃ text ∈ lookback, IsLookback now text b) ∧ ∀ text ∈ range, ∀ b', ¬IsRange text b') ∨
    ((∃ text ∈ range, IsRange text b) ∧ ∀ text ∈ lookback, ∀ b', ¬IsLookback now text b')

/-- A lookback of more digits than are read as one number. -/
def TooManyDigits (text : String) : Prop :=
  ∃ ds name, Text.trim text.toList = ds ++ name ∧ (∀ c ∈ ds, Text.isDigit c) ∧
    Text.maxDigits < ds.length ∧ name ≠ [] ∧ ∀ c ∈ name, isUnitLetter c

/-- A range whose end is the date `9999-12-31`, the year in digits of any script. -/
def EndsCalendar (text : String) : Prop :=
  ∃ a b year, Text.splitOn " to ".toList text.toList = [a, b] ∧
    Text.trim b = year ++ "-12-31".toList ∧ year.length = 4 ∧ ∀ c ∈ year, Text.digitValue? c = some 9

/-- A request got bounds, or it was told what is wrong with its texts. -/
def Explained (result : Except Fault TimeSpan) : Prop :=
  (∃ b, result = .ok b) ∨ ∃ p, result = .error (.problem p) ∧ p.category = .input

section Lookback

variable {now : Int} {text : String}

/-- Where the letters of the alphabet stand. -/
theorem toNat_of_isAlpha {c : Char} (letter : c.isAlpha = true) : 65 ≤ c.toNat ∧ c.toNat ≤ 122 := by
  rcases Bool.or_eq_true_iff.1 letter with upper | lower
  · obtain ⟨least, greatest⟩ := of_decide_eq_true upper
    have least : 65 ≤ c.toNat := UInt32.le_iff_toNat_le.1 least
    have greatest : c.toNat ≤ 90 := UInt32.le_iff_toNat_le.1 greatest
    omega
  · obtain ⟨least, greatest⟩ := Bool.and_eq_true_iff.1 lower
    have least : 97 ≤ c.toNat := UInt32.le_iff_toNat_le.1 (of_decide_eq_true least)
    have greatest : c.toNat ≤ 122 := UInt32.le_iff_toNat_le.1 (of_decide_eq_true greatest)
    omega

/-- Where the letters stand that a unit may have. -/
theorem toNat_of_isUnitLetter {c : Char} (letter : isUnitLetter c = true) :
    65 ≤ c.toNat ∧ c.toNat ≤ 383 ∨ c.toNat = 8490 := by
  unfold isUnitLetter at letter
  simp only [Bool.or_eq_true, beq_iff_eq] at letter
  obtain (((alpha | rfl) | rfl) | rfl) | rfl := letter
  · have between := toNat_of_isAlpha alpha
    omega
  all_goals decide

/-- No letter that a unit may have is a digit. -/
theorem isDigit_of_isUnitLetter {c : Char} (letter : isUnitLetter c = true) :
    Text.isDigit c = false := by
  have place := toNat_of_isUnitLetter letter
  -- the letters stand in the gaps between the runs of digits
  have apart : ∀ z ∈ Text.digitZeros, z + 9 < 65 ∨ 383 < z ∧ (z + 9 < 8490 ∨ 8490 < z) := by decide
  unfold Text.isDigit Text.digitValue?
  rw [Option.isSome_map, Option.isSome_eq_false_iff, Option.isNone_iff_eq_none, List.find?_eq_none]
  intro z mem
  have := apart z mem
  simp only [Bool.and_eq_true, decide_eq_true_eq, not_and]
  omega

/-- The parts of a lookback are the digits in front and the letters behind them. -/
theorem lookbackParts?_eq_some_iff {s ds name : List Char} :
    lookbackParts? s = some (ds, name) ↔ Text.trim s = ds ++ name ∧ ds ≠ [] ∧
      (∀ c ∈ ds, Text.isDigit c) ∧ name ≠ [] ∧ ∀ c ∈ name, isUnitLetter c := by
  unfold lookbackParts?
  simp only [List.span_eq_takeWhile_dropWhile]
  constructor
  · intro parts
    split at parts
    case isTrue => cases parts
    case isFalse filled =>
      obtain ⟨rfl, rfl⟩ := Prod.mk.inj (Option.some.inj parts)
      simp only [Bool.or_eq_true, List.isEmpty_iff, Bool.not_eq_true', not_or,
        Bool.not_eq_false, List.all_eq_true] at filled
      obtain ⟨⟨digits, unit⟩, letters⟩ := filled
      exact ⟨List.takeWhile_append_dropWhile.symm, digits, List.all_eq_true.1 List.all_takeWhile,
        unit, letters⟩
  · rintro ⟨whole, digits, allDigits, unit, letters⟩
    have front : (Text.trim s).takeWhile Text.isDigit = ds ∧
        (Text.trim s).dropWhile Text.isDigit = name := by
      obtain ⟨c, r, rfl⟩ := List.exists_cons_of_ne_nil unit
      have letter := isDigit_of_isUnitLetter (letters c (List.mem_cons_self ..))
      rw [whole, List.takeWhile_append_of_pos allDigits, List.dropWhile_append_of_pos allDigits,
        List.takeWhile_cons_of_neg (by simp [letter]), List.dropWhile_cons_of_neg (by simp [letter]),
        List.append_nil]
      exact ⟨rfl, rfl⟩
    rw [front.1, front.2, if_neg]
    simpa [digits, unit] using letters

/-- Digits are read as a number unless there are too many of them. -/
theorem limitedValue?_eq_none_iff {ds : List Char} (digits : ∀ c ∈ ds, Text.isDigit c) :
    Text.limitedValue? ds = none ↔ Text.maxDigits < ds.length := by
  obtain ⟨n, value⟩ := Text.exists_digitsValue? digits
  unfold Text.limitedValue?
  split <;> simp [value] <;> omega

/-- A lookback has too many digits if they are not read as a number. -/
theorem tooManyDigits_iff : TooManyDigits text ↔
    ∃ ds name, lookbackParts? text.toList = some (ds, name) ∧ Text.limitedValue? ds = none := by
  constructor
  · rintro ⟨ds, name, whole, digits, long, unit, letters⟩
    have filled : ds ≠ [] := List.ne_nil_of_length_pos (Nat.zero_lt_of_lt long)
    exact ⟨ds, name, lookbackParts?_eq_some_iff.2 ⟨whole, filled, digits, unit, letters⟩,
      (limitedValue?_eq_none_iff digits).2 long⟩
  · rintro ⟨ds, name, parts, value⟩
    obtain ⟨whole, -, digits, unit, letters⟩ := lookbackParts?_eq_some_iff.1 parts
    exact ⟨ds, name, whole, digits, (limitedValue?_eq_none_iff digits).1 value, unit, letters⟩

/-- The table has one unit for a name. -/
theorem LookbackUnit.ofText?_eq_some_iff {name : List Char} {unit : LookbackUnit} :
    ofText? name = some unit ↔ (String.ofList (Text.lower name), unit) ∈ names := by
  constructor
  · intro named
    obtain ⟨above, below, split, -⟩ := List.lookup_eq_some_iff.1 named
    rw [split]
    exact List.mem_append_right above (List.mem_cons_self ..)
  · intro known
    have once : ∀ p ∈ names, names.lookup p.1 = some p.2 := by decide
    exact once _ known

/-- A lookback leads back so many of its units. -/
theorem leadsBack_of_before? {ds name : List Char} {n : Nat} {unit : LookbackUnit} {moment : Int}
    (parts : lookbackParts? text.toList = some (ds, name)) (value : Text.limitedValue? ds = some n)
    (named : LookbackUnit.ofText? name = some unit) (before : unit.before? now n = some moment) :
    LeadsBack now text moment := by
  obtain ⟨whole, filled, -, -, -⟩ := lookbackParts?_eq_some_iff.1 parts
  exact ⟨ds, name, n, unit, whole, filled, Text.digitsValue?_of_limitedValue? value,
    LookbackUnit.ofText?_eq_some_iff.1 named, before⟩

/-- A text either has too many digits, and fails, or it is read, as a lookback or as none. -/
theorem lookbackMs?_cases (now : Int) (text : String) :
    (lookbackMs? now text = .error .badValue ∧ TooManyDigits text) ∨
      (¬TooManyDigits text ∧ (lookbackMs? now text = .ok none ∨
        ∃ moment, lookbackMs? now text = .ok (some (epochMs moment)) ∧
          LeadsBack now text moment)) := by
  rw [tooManyDigits_iff]
  unfold lookbackMs?
  split
  case h_1 missing => simp [missing]
  case h_2 ds name parts =>
    split
    case h_1 value => exact .inl ⟨rfl, ds, name, parts, value⟩
    case h_2 n value =>
      refine .inr ⟨?_, ?_⟩
      · rintro ⟨ds', name', parts', long⟩
        cases parts.symm.trans parts'
        cases value.symm.trans long
      · cases named : LookbackUnit.ofText? name with
        | none => exact .inl rfl
        | some unit =>
          cases before : unit.before? now n with
          | none => simp [before]
          | some moment =>
            exact .inr ⟨moment, by simp [before], leadsBack_of_before? parts value named before⟩

/-- A lookback of so many days, written with this number of nines. -/
def ninesOfDays (n : Nat) : String :=
  String.ofList (List.replicate n '9' ++ ['d'])

theorem ninesOfDays_ne_empty (n : Nat) : ninesOfDays n ≠ "" := by
  simp [ninesOfDays, ← String.toList_inj]

theorem tooManyDigits_ninesOfDays {n : Nat} (long : Text.maxDigits < n) :
    TooManyDigits (ninesOfDays n) := by
  have trimmed : Text.trim (ninesOfDays n).toList = List.replicate n '9' ++ ['d'] := by
    obtain ⟨m, rfl⟩ := Nat.exists_eq_succ_of_ne_zero (Nat.ne_zero_of_lt long)
    have nine : ¬Text.isBlank '9' := by decide
    have unit : ¬Text.isBlank 'd' := by decide
    simp [ninesOfDays, Text.trim, Text.trimBy, Text.dropTail, List.replicate_succ,
      List.dropWhile_cons_of_neg, nine, unit]
  have counted : Text.maxDigits < (List.replicate n '9').length := by
    rw [List.length_replicate]
    exact long
  refine ⟨List.replicate n '9', ['d'], trimmed, ?_, counted, List.cons_ne_nil 'd' [],
    List.forall_mem_singleton.2 (by decide)⟩
  intro c digit
  obtain ⟨-, rfl⟩ := List.mem_replicate.1 digit
  decide

/-- An empty text is no lookback. -/
theorem not_isLookback_empty {b : TimeSpan} : ¬IsLookback now "" b := by
  rintro ⟨-, ⟨ds, name, -, -, whole, filled, -⟩, -⟩
  exact filled (List.append_eq_nil_iff.1 whole.symm).1

end Lookback

section Range

/-- Two ASCII digits write the number of their values. -/
theorem plainPair?_eq_some {low high a b : Char} {n : Nat} (pair : plainPair? low high a b = some n) :
    b.toNat ≤ high.toNat ∧ n = 10 * (a.toNat - 48) + (b.toNat - 48) := by
  unfold plainPair? at pair
  split at pair
  case isTrue between =>
    simp only [Bool.and_eq_true, decide_eq_true_eq] at between
    exact ⟨between.2, (Option.some.inj pair).symm⟩
  case isFalse => cases pair

/-- Only `12` is the last month. -/
theorem month?_eq_twelve {a b : Char} (last : month? a b = some 12) : a = '1' ∧ b = '2' := by
  unfold month? at last
  split_ifs at last with one zero
  · obtain ⟨-, value⟩ := plainPair?_eq_some last
    subst one
    exact ⟨rfl, Char.toNat_inj.1 (by simp at value ⊢; omega)⟩
  · obtain ⟨most, value⟩ := plainPair?_eq_some last
    subst zero
    simp at most value
    omega

/-- Only `31` is the last day of the longest months. -/
theorem day?_eq_thirtyOne {a b : Char} (last : day? a b = some 31) : a = '3' ∧ b = '1' := by
  unfold day? at last
  split_ifs at last with three zero
  · obtain ⟨-, value⟩ := plainPair?_eq_some last
    subst three
    exact ⟨rfl, Char.toNat_inj.1 (by simp at value ⊢; omega)⟩
  · obtain ⟨most, value⟩ := plainPair?_eq_some last
    subst zero
    simp at most value
    omega
  · unfold mixedPair? at last
    split at last
    case isTrue between =>
      obtain ⟨v, digit, value⟩ := Option.bind_eq_some_iff.1 last
      have := Text.digitValue?_lt digit
      have least : a.toNat ≤ 50 := by
        simp only [Bool.and_eq_true, decide_eq_true_eq] at between
        exact between.2
      have : 10 * (a.toNat - 48) + v = 31 := Option.some.inj value
      omega
    case isFalse => cases last

/-- Digits that write the largest number of so many digits are all nine. -/
theorem digitValue?_of_digitsValue?_eq {y₁ y₂ y₃ y₄ : Char}
    (most : Text.digitsValue? [y₁, y₂, y₃, y₄] = some 9999) :
    ∀ c ∈ [y₁, y₂, y₃, y₄], Text.digitValue? c = some 9 := by
  simp only [Text.digitsValue?, List.foldl_cons, List.foldl_nil, Option.bind_eq_bind,
    Option.bind_eq_some_iff, Option.pure_def, Option.some.injEq] at most
  obtain ⟨_, ⟨_, ⟨_, ⟨_, rfl, a, first, rfl⟩, b, second, rfl⟩, c, third, rfl⟩, d, fourth, total⟩ :=
    most
  have := Text.digitValue?_lt first
  have := Text.digitValue?_lt second
  have := Text.digitValue?_lt third
  have := Text.digitValue?_lt fourth
  obtain ⟨rfl, rfl, rfl, rfl⟩ : a = 9 ∧ b = 9 ∧ c = 9 ∧ d = 9 := by omega
  simp [first, second, third, fourth]

/-- The last day of the calendar as a side of a range. -/
theorem ofText?_eq_lastDay_iff {s : List Char} :
    RangeSide.ofText? s = some ⟨⟨9999, 12, 31⟩, none⟩ ↔
      ∃ year, s = year ++ "-12-31".toList ∧ year.length = 4 ∧
        ∀ c ∈ year, Text.digitValue? c = some 9 := by
  constructor
  · intro last
    unfold RangeSide.ofText? at last
    split at last
    case h_1 y₁ y₂ y₃ y₄ m₁ m₂ d₁ d₂ =>
      have dated : rangeDate? y₁ y₂ y₃ y₄ m₁ m₂ d₁ d₂ = some ⟨9999, 12, 31⟩ := by
        obtain ⟨date, written, same⟩ := Option.bind_eq_some_iff.1 last
        cases same
        exact written
      simp only [rangeDate?, Option.bind_eq_bind, Option.bind_eq_some_iff] at dated
      obtain ⟨year, written, month, named, day, numbered, valid⟩ := dated
      split at valid
      case isFalse => cases valid
      case isTrue =>
        obtain ⟨rfl, rfl, rfl⟩ := Date.mk.inj (Option.some.inj valid)
        obtain ⟨rfl, rfl⟩ := month?_eq_twelve named
        obtain ⟨rfl, rfl⟩ := day?_eq_thirtyOne numbered
        exact ⟨[y₁, y₂, y₃, y₄], rfl, rfl, digitValue?_of_digitsValue?_eq written⟩
    case h_2 => simp [Option.bind_eq_some_iff] at last
    case h_3 => cases last
  · rintro ⟨year, rfl, four, nines⟩
    match year, four with
    | [y₁, y₂, y₃, y₄], _ =>
      have written : Text.digitsValue? [y₁, y₂, y₃, y₄] = some 9999 := by
        simp [Text.digitsValue?, nines]
      have dated : rangeDate? y₁ y₂ y₃ y₄ '1' '2' '3' '1' = some ⟨9999, 12, 31⟩ := by
        unfold rangeDate?
        rw [written]
        decide
      show RangeSide.ofText? [y₁, y₂, y₃, y₄, '-', '1', '2', '-', '3', '1'] = _
      exact Option.bind_eq_some_iff.2 ⟨_, dated, rfl⟩

/-- The last day of the calendar is the one end that a side does not have. -/
theorem finish_eq_error_iff {r : RangeSide} {f : Fault} :
    r.finish = .error f ↔ f = .outOfRange ∧ r = ⟨⟨9999, 12, 31⟩, none⟩ := by
  obtain ⟨date, time⟩ := r
  cases time with
  | some t => simp [RangeSide.finish]
  | none =>
    simp only [RangeSide.finish]
    split <;> simp_all [eq_comm]

variable {text : String}

/-- A text of two sides ends with the calendar if the second one does. -/
theorem endsCalendar_iff {a b : List Char}
    (pieces : Text.splitOn " to ".toList text.toList = [a, b]) : EndsCalendar text ↔
      RangeSide.ofText? (Text.trim b) = some ⟨⟨9999, 12, 31⟩, none⟩ := by
  rw [ofText?_eq_lastDay_iff]
  constructor
  · rintro ⟨a', b', year, same, last⟩
    obtain ⟨rfl, rfl⟩ : a = a' ∧ b = b' := by simpa using pieces.symm.trans same
    exact ⟨year, last⟩
  · rintro ⟨year, last⟩
    exact ⟨a, b, year, pieces, last⟩

/-- A text either ends with the calendar, and fails, or it is read, as a range or as none. -/
theorem rangeMs?_cases (text : String) :
    (rangeMs? text = .error .outOfRange ∧ EndsCalendar text) ∨
      (¬EndsCalendar text ∧ (rangeMs? text = .ok none ∨
        ∃ first last, rangeMs? text = .ok (some (epochMs first, epochMs last)) ∧
          Ranges text first last)) := by
  unfold rangeMs?
  split
  case h_2 other =>
    refine .inr ⟨?_, .inl rfl⟩
    rintro ⟨a, b, -, pieces, -⟩
    exact other (Text.trim a) (Text.trim b) (by rw [pieces]; rfl)
  case h_1 _ _ halves =>
    obtain ⟨a, rest, pieces, rfl, tail⟩ := List.map_eq_cons_iff.1 halves
    obtain ⟨b, rfl, rfl⟩ := List.map_eq_singleton_iff.1 tail
    rw [endsCalendar_iff pieces]
    cases right : RangeSide.ofText? (Text.trim b) with
    | none =>
      refine .inr ⟨nofun, .inl ?_⟩
      cases RangeSide.ofText? (Text.trim a) <;> rfl
    | some t =>
      cases finish : t.finish with
      | error f =>
        obtain ⟨rfl, rfl⟩ := finish_eq_error_iff.1 finish
        exact .inl ⟨rfl, rfl⟩
      | ok last =>
        have before : some t ≠ some ⟨⟨9999, 12, 31⟩, none⟩ := by
          rintro ⟨⟩
          cases finish
        refine .inr ⟨before, ?_⟩
        simp only [finish]
        cases left : RangeSide.ofText? (Text.trim a) with
        | none => exact .inl rfl
        | some s =>
          by_cases order : s.start ≤ last
          · have whole : text.toList = a ++ " to ".toList ++ b := by
              rw [← Text.intercalate_splitOn (show " to ".toList ≠ [] by decide) text.toList, pieces]
              simp [List.intercalate_cons_cons]
            exact .inr ⟨s.start, last, congrArg Except.ok (if_pos order),
              a, b, s, t, whole, left, right, rfl, finish, order⟩
          · exact .inl (congrArg Except.ok (if_neg order))

/-- An empty text is no range. -/
theorem not_isRange_empty {b : TimeSpan} : ¬IsRange "" b := by
  rintro ⟨-, -, ⟨a, b, -, -, whole, -⟩, -⟩
  have := congrArg List.length whole
  simp at this

end Range

section Bounds

variable {now : Int} {lookback range : Option String}

theorem given_eq_some_iff {text : Option String} {t : String} :
    given text = some t ↔ text = some t ∧ t ≠ "" := by
  simp [given]

/-- A text that is not given is no window. -/
theorem not_window_of_given_eq_none (now : Int) {text : Option String} (missing : given text = none) :
    ∀ t ∈ text, ∀ b, ¬IsLookback now t b ∧ ¬IsRange t b := by
  intro t present b
  have empty : t = "" := by
    by_contra filled
    cases missing.symm.trans (given_eq_some_iff.2 ⟨present, filled⟩)
  subst empty
  exact ⟨not_isLookback_empty, not_isRange_empty⟩

/-- Texts that are not given are no windows. -/
theorem not_namesWindow (l : given lookback = none) (r : given range = none) (b : TimeSpan) :
    ¬NamesWindow now lookback range b := by
  rintro (⟨⟨text, present, window⟩, -⟩ | ⟨⟨text, present, window⟩, -⟩)
  · exact (not_window_of_given_eq_none now l text present b).1 window
  · exact (not_window_of_given_eq_none now r text present b).2 window

/-- What comes of a lookback alone: no answer, the answer that it is none, or its bounds. -/
theorem requireBounds_lookback_cases (now : Int) {text : String} (l : given lookback = some text)
    (r : given range = none) :
    (requireBounds now lookback range = .error .badValue ∧ TooManyDigits text) ∨
      (¬TooManyDigits text ∧ (requireBounds now lookback range = .error (.problem .badWindow) ∨
        ∃ b, requireBounds now lookback range = .ok b ∧ IsLookback now text b)) := by
  unfold requireBounds windowBounds?
  simp only [l, r]
  obtain ⟨failed, long⟩ | ⟨short, unread | ⟨moment, read, led⟩⟩ := lookbackMs?_cases now text
  · exact .inl ⟨by rw [failed]; rfl, long⟩
  · exact .inr ⟨short, .inl (by rw [unread]; rfl)⟩
  · exact .inr ⟨short, .inr ⟨_, by rw [read]; rfl, moment, led, rfl⟩⟩

/-- What comes of a range alone: no answer, the answer that it is none, or its bounds. -/
theorem requireBounds_range_cases (now : Int) {text : String} (l : given lookback = none)
    (r : given range = some text) :
    (requireBounds now lookback range = .error .outOfRange ∧ EndsCalendar text) ∨
      (¬EndsCalendar text ∧ (requireBounds now lookback range = .error (.problem .badWindow) ∨
        ∃ b, requireBounds now lookback range = .ok b ∧ IsRange text b)) := by
  unfold requireBounds windowBounds?
  simp only [l, r]
  obtain ⟨failed, last⟩ | ⟨before, unread | ⟨first, last, read, bounds⟩⟩ := rangeMs?_cases text
  · exact .inl ⟨by rw [failed]; rfl, last⟩
  · exact .inr ⟨before, .inl (by rw [unread]; rfl)⟩
  · exact .inr ⟨before, .inr ⟨_, by rw [read]; rfl, first, last, bounds, rfl⟩⟩

theorem requireBounds_both {back text : String} (l : given lookback = some back)
    (r : given range = some text) :
    requireBounds now lookback range = .error (.problem .bothWindows) := by
  unfold requireBounds
  rw [l, r]
  rfl

theorem requireBounds_neither (l : given lookback = none) (r : given range = none) :
    requireBounds now lookback range = .ok {} := by
  unfold requireBounds windowBounds?
  rw [l, r]
  rfl

/-- The bounds that a request gets are those of the window that it names, if it gives a text. -/
theorem namesWindow_of_requireBounds {b : TimeSpan}
    (bounds : requireBounds now lookback range = .ok b)
    (named : given lookback ≠ none ∨ given range ≠ none) : NamesWindow now lookback range b := by
  cases l : given lookback with
  | some back =>
    cases r : given range with
    | some text => cases bounds.symm.trans (requireBounds_both l r)
    | none =>
      obtain ⟨failed, -⟩ | ⟨-, failed | ⟨b', same, window⟩⟩ :=
        requireBounds_lookback_cases now l r
      · cases bounds.symm.trans failed
      · cases bounds.symm.trans failed
      · cases bounds.symm.trans same
        exact .inl ⟨⟨back, (given_eq_some_iff.1 l).1, window⟩,
          fun t present b => (not_window_of_given_eq_none now r t present b).2⟩
  | none =>
    cases r : given range with
    | none => simp [l, r] at named
    | some text =>
      obtain ⟨failed, -⟩ | ⟨-, failed | ⟨b', same, window⟩⟩ :=
        requireBounds_range_cases now l r
      · cases bounds.symm.trans failed
      · cases bounds.symm.trans failed
      · cases bounds.symm.trans same
        exact .inr ⟨⟨text, (given_eq_some_iff.1 r).1, window⟩,
          fun t present b => (not_window_of_given_eq_none now l t present b).1⟩

/-- A request gets bounds, or it is told what is wrong with its texts, with two exceptions: a lookback
of too many digits and a range that ends with the calendar. -/
theorem requireBounds_explained_iff (now : Int) (lookback range : Option String) :
    Explained (requireBounds now lookback range) ↔
      ¬((∃ text, given lookback = some text ∧ given range = none ∧ TooManyDigits text) ∨
        ∃ text, given lookback = none ∧ given range = some text ∧ EndsCalendar text) := by
  unfold Explained
  cases l : given lookback with
  | some back =>
    cases r : given range with
    | some text => simp [requireBounds_both l r, Problem.category]
    | none =>
      obtain ⟨failed, long⟩ | ⟨short, failed | ⟨b, bounds, -⟩⟩ :=
        requireBounds_lookback_cases now l r
      · simp [failed, long]
      · simp [failed, short, Problem.category]
      · simp [bounds, short]
  | none =>
    cases r : given range with
    | none => simp [requireBounds_neither l r]
    | some text =>
      obtain ⟨failed, last⟩ | ⟨before, failed | ⟨b, bounds, -⟩⟩ :=
        requireBounds_range_cases now l r
      · simp [failed, last]
      · simp [failed, before, Problem.category]
      · simp [bounds, before]

/-- A lookback of 4301 digits, and a range up to the last day of the calendar. -/
theorem windows_unexplained :
    ¬Explained (requireBounds 1711886400000000 (some (ninesOfDays 4301)) none) ∧
      ¬Explained (requireBounds 1711886400000000 none (some "2024-01-01 to 9999-12-31")) := by
  constructor
  · have alone : given (some (ninesOfDays 4301)) = some (ninesOfDays 4301) :=
      given_eq_some_iff.2 ⟨rfl, ninesOfDays_ne_empty 4301⟩
    obtain ⟨failed, -⟩ | ⟨short, -⟩ :=
      requireBounds_lookback_cases 1711886400000000 alone (show given none = none from rfl)
    · simp [Explained, failed]
    · exact absurd (tooManyDigits_ninesOfDays (by decide)) short
  · have failed : requireBounds 1711886400000000 none (some "2024-01-01 to 9999-12-31") =
        .error .outOfRange := by
      decide +kernel
    simp [Explained, failed]

end Bounds

end Logbook
