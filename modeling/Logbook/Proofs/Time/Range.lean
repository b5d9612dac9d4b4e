import Logbook.Proofs.Text.Numeral
import Logbook.Proofs.Time.Milliseconds
import Logbook.Proofs.Time.Window

/-!
# Ranges and their bounds

A range in ASCII is two written sides with blanks around them, of which the first is not after the
second (`rangeMs?_accepts_iff`). Its bounds are the first millisecond of the one side and the last
millisecond of the other, but for the days whose end is lost when the milliseconds are computed
(`rangeMs?_bounds`).
-/

namespace Logbook

/-- A text writes a number with so many digits, of any script. -/
def Text.Writes (width n : Nat) (s : List Char) : Prop :=
  s.length = width ∧ Text.digitsValue? s = some n

/-- A number of milliseconds, from the start of 1970, is so many milliseconds into a date. -/
def Date.MsAt (d : Date) (ofDay ms : Int) : Prop :=
  ∃ n, d.IsDay n ∧ ms = n * 86400000 + ofDay

theorem Date.msAt_iff {d : Date} {ofDay ms : Int} :
    d.MsAt ofDay ms ↔ d.Valid ∧ ms = d.days * 86400000 + ofDay := by
  simp [MsAt, isDay_iff, and_assoc]

namespace RangeSide

/-- A real date, with a time between midnight and midnight if there is one. -/
def Real (r : RangeSide) : Prop :=
  r.date.Valid ∧ ∀ t ∈ r.time, t.1 < 24 ∧ t.2.1 < 60 ∧ t.2.2 < 60

/-- A text writes a side: the numbers of its date and of its time, with digits of any script. -/
def Writes (r : RangeSide) (s : List Char) : Prop :=
  ∃ y m d : List Char, Text.Writes 4 r.date.year y ∧ Text.Writes 2 r.date.month m ∧
    Text.Writes 2 r.date.day d ∧
    match r.time with
    | none => s = y ++ '-' :: m ++ '-' :: d
    | some (hour, minute, second) => ∃ h n sec : List Char, Text.Writes 2 hour h ∧
      Text.Writes 2 minute n ∧ Text.Writes 2 second sec ∧
      s = y ++ '-' :: m ++ '-' :: d ++ '-' :: h ++ ':' :: n ++ ':' :: sec

/-- A side as it is written in ASCII. -/
def text (r : RangeSide) : String :=
  padded 4 r.date.year ++ "-" ++ padded 2 r.date.month ++ "-" ++ padded 2 r.date.day ++
    match r.time with
    | none => ""
    | some (h, n, s) => "-" ++ padded 2 h ++ ":" ++ padded 2 n ++ ":" ++ padded 2 s

/-- The milliseconds of a day up to a time. -/
def clockMs : Nat × Nat × Nat → Int
  | (h, n, s) => ((h * 60 + n) * 60 + s) * 1000

/-- The first millisecond of a side, a date alone being its whole day. -/
def FirstMs (r : RangeSide) (ms : Int) : Prop :=
  r.date.MsAt (clockMs (r.time.getD (0, 0, 0))) ms

/-- The last millisecond of a side. -/
def LastMs (r : RangeSide) (ms : Int) : Prop :=
  r.date.MsAt (r.time.elim 86399999 clockMs) ms

/-- How far the last millisecond of a side comes out from where it is. -/
def slip (r : RangeSide) : Int :=
  if r.time.isSome then 0 else r.date.endSlip

section Reading

/-- Two characters write the number of their values. -/
theorem digitsValue?_pair {a b : Char} {v w : Nat} (first : Text.digitValue? a = some v)
    (second : Text.digitValue? b = some w) : Text.digitsValue? [a, b] = some (10 * v + w) := by
  simp [Text.digitsValue?, first, second]

theorem digitValue?_between {low high c : Char} (zero : '0' ≤ low) (nine : high ≤ '9')
    (least : low ≤ c) (most : c ≤ high) : Text.digitValue? c = some (c.toNat - 48) :=
  Text.digitValue?_of_isDigit
    (Char.isDigit_iff_toNat.2 ⟨zero.trans least, most.trans nine⟩)

/-- A pair of ASCII digits writes its number. -/
theorem writes_of_plainPair? {low high a b : Char} {n : Nat} (zero : '0' ≤ low) (nine : high ≤ '9')
    (pair : plainPair? low high a b = some n) : Text.Writes 2 n [a, b] := by
  unfold plainPair? at pair
  split at pair
  case isTrue between =>
    simp only [Bool.and_eq_true, decide_eq_true_eq] at between
    obtain ⟨⟨digit, least⟩, most⟩ := between
    cases pair
    exact ⟨rfl, digitsValue?_pair (Text.digitValue?_of_isDigit digit)
      (digitValue?_between zero nine least most)⟩
  case isFalse => cases pair

/-- A pair of which the second digit is of any script writes its number, too. -/
theorem writes_of_mixedPair? {low high a b : Char} {n : Nat} (zero : '0' ≤ low) (nine : high ≤ '9')
    (pair : mixedPair? low high a b = some n) :
    Text.Writes 2 n [a, b] ∧ n < 10 * (high.toNat - 48) + 10 := by
  unfold mixedPair? at pair
  split at pair
  case isTrue between =>
    simp only [Bool.and_eq_true, decide_eq_true_eq] at between
    obtain ⟨least, most⟩ := between
    obtain ⟨v, digit, value⟩ := Option.bind_eq_some_iff.1 pair
    have small := Text.digitValue?_lt digit
    have below : a.toNat ≤ high.toNat := most
    cases value
    exact ⟨⟨rfl, digitsValue?_pair (digitValue?_between zero nine least most) digit⟩, by omega⟩
  case isFalse => cases pair

theorem writes_of_month? {a b : Char} {n : Nat} (month : month? a b = some n) :
    Text.Writes 2 n [a, b] := by
  unfold month? at month
  split_ifs at month <;> exact writes_of_plainPair? (by decide) (by decide) month

theorem writes_of_day? {a b : Char} {n : Nat} (day : day? a b = some n) : Text.Writes 2 n [a, b] := by
  unfold day? at day
  split_ifs at day
  · exact writes_of_plainPair? (by decide) (by decide) day
  · exact writes_of_plainPair? (by decide) (by decide) day
  · exact (writes_of_mixedPair? (by decide) (by decide) day).1

theorem writes_of_hour? {a b : Char} {n : Nat} (hour : hour? a b = some n) :
    Text.Writes 2 n [a, b] ∧ n < 24 := by
  unfold hour? at hour
  split_ifs at hour with two
  · obtain ⟨most, value⟩ := plainPair?_eq_some hour
    have third : '3'.toNat = 51 := rfl
    have second : '2'.toNat = 50 := rfl
    rw [two] at value
    exact ⟨writes_of_plainPair? (by decide) (by decide) hour, by omega⟩
  · obtain ⟨written, below⟩ := writes_of_mixedPair? (by decide) (by decide) hour
    have first : '1'.toNat = 49 := rfl
    exact ⟨written, by omega⟩

theorem writes_of_sixtieth? {a b : Char} {n : Nat} (part : sixtieth? a b = some n) :
    Text.Writes 2 n [a, b] ∧ n < 60 := by
  obtain ⟨written, below⟩ := writes_of_mixedPair? (by decide) (by decide) part
  have fifth : '5'.toNat = 53 := rfl
  exact ⟨written, by omega⟩

theorem writes_of_rangeDate? {y₁ y₂ y₃ y₄ m₁ m₂ d₁ d₂ : Char} {d : Date}
    (dated : rangeDate? y₁ y₂ y₃ y₄ m₁ m₂ d₁ d₂ = some d) :
    d.Valid ∧ Text.Writes 4 d.year [y₁, y₂, y₃, y₄] ∧ Text.Writes 2 d.month [m₁, m₂] ∧
      Text.Writes 2 d.day [d₁, d₂] := by
  simp only [rangeDate?, Option.bind_eq_bind, Option.bind_eq_some_iff] at dated
  obtain ⟨year, written, month, named, day, numbered, valid⟩ := dated
  split at valid
  case isTrue real =>
    cases valid
    exact ⟨real, ⟨rfl, written⟩, writes_of_month? named, writes_of_day? numbered⟩
  case isFalse => cases valid

/-- What is read as a side is real and writes it. -/
theorem writes_of_ofText? {s : List Char} {r : RangeSide} (read : ofText? s = some r) :
    r.Real ∧ r.Writes s := by
  unfold ofText? at read
  split at read
  case h_1 =>
    simp only [Option.bind_eq_bind, Option.bind_eq_some_iff, Option.pure_def,
      Option.some.injEq] at read
    obtain ⟨d, dated, rfl⟩ := read
    obtain ⟨valid, year, month, day⟩ := writes_of_rangeDate? dated
    exact ⟨⟨valid, nofun⟩, _, _, _, year, month, day, rfl⟩
  case h_2 =>
    simp only [Option.bind_eq_bind, Option.bind_eq_some_iff, Option.pure_def,
      Option.some.injEq] at read
    obtain ⟨d, dated, h, hour, n, minute, sec, second, rfl⟩ := read
    obtain ⟨valid, year, month, day⟩ := writes_of_rangeDate? dated
    obtain ⟨hours, early⟩ := writes_of_hour? hour
    obtain ⟨minutes, few⟩ := writes_of_sixtieth? minute
    obtain ⟨seconds, fewer⟩ := writes_of_sixtieth? second
    refine ⟨⟨valid, ?_⟩, _, _, _, year, month, day, _, _, _, hours, minutes, seconds, rfl⟩
    rintro _ ⟨⟩
    exact ⟨early, few, fewer⟩
  case h_3 => cases read

end Reading

section Writing

variable {r : RangeSide} {s : List Char}

/-- In ASCII a number is written in one way. -/
theorem eq_padded_of_writes {width n : Nat} (given : 0 < width) (ascii : ∀ c ∈ s, c.toNat < 128)
    (written : Text.Writes width n s) : s = (padded width n).toList := by
  obtain ⟨length, value⟩ := written
  have filled : s ≠ [] := List.ne_nil_of_length_pos (by omega)
  have same := ((Text.digitsValue?_eq_some_iff ascii filled).1 value).2
  rwa [length] at same

/-- In ASCII a side is written in one way. -/
theorem Writes.eq_text (ascii : ∀ c ∈ s, c.toNat < 128) (written : r.Writes s) :
    s = r.text.toList := by
  obtain ⟨date, time⟩ := r
  obtain ⟨y, m, d, year, month, day, rest⟩ := written
  cases time with
  | none =>
    subst rest
    rw [eq_padded_of_writes (by omega) (fun c mem => ascii c (by simp [mem])) year,
      eq_padded_of_writes (by omega) (fun c mem => ascii c (by simp [mem])) month,
      eq_padded_of_writes (by omega) (fun c mem => ascii c (by simp [mem])) day]
    simp [text]
  | some time =>
    obtain ⟨hour, minute, second⟩ := time
    obtain ⟨h, n, sec, hours, minutes, seconds, rfl⟩ := rest
    rw [eq_padded_of_writes (by omega) (fun c mem => ascii c (by simp [mem])) year,
      eq_padded_of_writes (by omega) (fun c mem => ascii c (by simp [mem])) month,
      eq_padded_of_writes (by omega) (fun c mem => ascii c (by simp [mem])) day,
      eq_padded_of_writes (by omega) (fun c mem => ascii c (by simp [mem])) hours,
      eq_padded_of_writes (by omega) (fun c mem => ascii c (by simp [mem])) minutes,
      eq_padded_of_writes (by omega) (fun c mem => ascii c (by simp [mem])) seconds]
    simp [text]

theorem toList_padded_two {n : Nat} (small : n < 100) :
    (padded 2 n).toList = [Nat.digitChar (n / 10), Nat.digitChar (n % 10)] := by
  rw [toList_padded_succ (by omega), toList_padded_one (by omega)]
  rfl

theorem month?_digitChar : ∀ n < 13, 1 ≤ n →
    month? (Nat.digitChar (n / 10)) (Nat.digitChar (n % 10)) = some n := by
  decide

theorem day?_digitChar : ∀ n < 32, 1 ≤ n →
    day? (Nat.digitChar (n / 10)) (Nat.digitChar (n % 10)) = some n := by
  decide

theorem hour?_digitChar : ∀ n < 24,
    hour? (Nat.digitChar (n / 10)) (Nat.digitChar (n % 10)) = some n := by
  decide

theorem sixtieth?_digitChar : ∀ n < 60,
    sixtieth? (Nat.digitChar (n / 10)) (Nat.digitChar (n % 10)) = some n := by
  decide

/-- A written date is read back. -/
theorem rangeDate?_padded {d : Date} (valid : d.Valid) {y₁ y₂ y₃ y₄ : Char}
    (year : (padded 4 d.year).toList = [y₁, y₂, y₃, y₄]) :
    rangeDate? y₁ y₂ y₃ y₄ (Nat.digitChar (d.month / 10)) (Nat.digitChar (d.month % 10))
      (Nat.digitChar (d.day / 10)) (Nat.digitChar (d.day % 10)) = some d := by
  have ⟨low, high, january, december, first, last⟩ := valid
  have most := (daysInMonth_between d.year d.month january december).2
  have read := Text.digitsValue?_padded (show 0 < 4 by omega) (show d.year < 10 ^ 4 by omega)
  rw [year] at read
  simp only [rangeDate?, read, month?_digitChar d.month (by omega) january,
    day?_digitChar d.day (by omega) first, Option.bind_eq_bind, Option.bind_some]
  exact if_pos valid

/-- A real side is read back from what is written for it. -/
theorem ofText?_text {r : RangeSide} (real : r.Real) : ofText? r.text.toList = some r := by
  obtain ⟨date, time⟩ := r
  have valid : date.Valid := real.1
  have clock : ∀ t ∈ time, t.1 < 24 ∧ t.2.1 < 60 ∧ t.2.2 < 60 := real.2
  have ⟨low, high, january, december, first, last⟩ := valid
  have most := (daysInMonth_between date.year date.month january december).2
  obtain ⟨y₁, y₂, y₃, y₄, year⟩ : ∃ y₁ y₂ y₃ y₄, (padded 4 date.year).toList = [y₁, y₂, y₃, y₄] :=
    List.length_eq_four.1 (Text.length_padded (by omega) (by omega))
  have dated := rangeDate?_padded valid year
  cases time with
  | none =>
    have whole : (text ⟨date, none⟩).toList = [y₁, y₂, y₃, y₄, '-', Nat.digitChar (date.month / 10),
        Nat.digitChar (date.month % 10), '-', Nat.digitChar (date.day / 10),
        Nat.digitChar (date.day % 10)] := by
      simp [text, year, toList_padded_two (show date.month < 100 by omega),
        toList_padded_two (show date.day < 100 by omega)]
    rw [whole, ofText?, dated]
    rfl
  | some time =>
    obtain ⟨h, n, s⟩ := time
    obtain ⟨hour, minute, second⟩ := clock _ rfl
    dsimp only at hour minute second
    have whole : (text ⟨date, some (h, n, s)⟩).toList = [y₁, y₂, y₃, y₄, '-',
        Nat.digitChar (date.month / 10), Nat.digitChar (date.month % 10), '-',
        Nat.digitChar (date.day / 10), Nat.digitChar (date.day % 10), '-',
        Nat.digitChar (h / 10), Nat.digitChar (h % 10), ':', Nat.digitChar (n / 10),
        Nat.digitChar (n % 10), ':', Nat.digitChar (s / 10), Nat.digitChar (s % 10)] := by
      simp [text, year, toList_padded_two (show date.month < 100 by omega),
        toList_padded_two (show date.day < 100 by omega), toList_padded_two (show h < 100 by omega),
        toList_padded_two (show n < 100 by omega), toList_padded_two (show s < 100 by omega)]
    rw [whole, ofText?, dated, hour?_digitChar h hour, sixtieth?_digitChar n minute,
      sixtieth?_digitChar s second]
    rfl

/-- The characters of a written side. -/
theorem mem_text {r : RangeSide} {c : Char} (mem : c ∈ r.text.toList) :
    c.isDigit = true ∨ c = '-' ∨ c = ':' := by
  have numeral {width n : Nat} : c ∈ (padded width n).toList → c.isDigit = true :=
    Text.isDigit_of_mem_padded
  unfold text at mem
  split at mem <;> simp at mem <;> grind

/-- A written side has no blank and no letter `t`. -/
theorem solid_of_mem_text {r : RangeSide} {c : Char} (mem : c ∈ r.text.toList) :
    Text.isBlank c = false ∧ c ≠ 't' := by
  obtain digit | rfl | rfl := mem_text mem
  · refine ⟨Text.isBlank_of_isDigit digit, ?_⟩
    rintro rfl
    exact absurd digit (by decide)
  · decide
  · decide

/-- A real side is read back with blanks around it. -/
theorem ofText?_trim {r : RangeSide} (real : r.Real) {u v : List Char}
    (before : ∀ c ∈ u, Text.isBlank c) (behind : ∀ c ∈ v, Text.isBlank c) :
    ofText? (Text.trim (u ++ r.text.toList ++ v)) = some r := by
  rw [Text.trim_of_blanks before behind fun c mem => (solid_of_mem_text mem).1]
  exact ofText?_text real

/-- With blanks around it a written side has no letter `t`, either. -/
theorem notMem_padding (r : RangeSide) {u v : List Char} (before : ∀ c ∈ u, Text.isBlank c)
    (behind : ∀ c ∈ v, Text.isBlank c) : 't' ∉ u ++ r.text.toList ++ v := by
  have letter : ¬Text.isBlank 't' := by decide
  simp only [List.mem_append, not_or]
  exact ⟨⟨fun mem => letter (before _ mem), fun mem => (solid_of_mem_text mem).2 rfl⟩,
    fun mem => letter (behind _ mem)⟩

end Writing

section Milliseconds

variable {r : RangeSide} {ms : Int}

/-- A side starts with its first millisecond. -/
theorem FirstMs.start_eq (first : r.FirstMs ms) : r.start = ms * 1000 := by
  obtain ⟨-, rfl⟩ := Date.msAt_iff.1 first
  unfold start atTime clockMs Moment.micros Moment.dayMicros microsPerDay
  dsimp only
  omega

/-- A side ends with its last millisecond, unless the calendar does. -/
theorem LastMs.finish_eq (last : r.LastMs ms) (before : r ≠ ⟨⟨9999, 12, 31⟩, none⟩) :
    r.finish = .ok (ms * 1000) := by
  obtain ⟨date, time⟩ := r
  obtain ⟨-, rfl⟩ := Date.msAt_iff.1 last
  unfold finish atTime Moment.micros Moment.dayMicros microsPerDay
  cases time with
  | none =>
    have other : date ≠ ⟨9999, 12, 31⟩ := by
      rintro rfl
      exact before rfl
    simp only [if_neg other, Option.elim_none, Except.ok.injEq]
    omega
  | some t =>
    simp only [Option.elim_some, clockMs, Except.ok.injEq]
    omega

/-- The times of day, in milliseconds. -/
theorem clockMs_between {t : Nat × Nat × Nat} (clock : t.1 < 24 ∧ t.2.1 < 60 ∧ t.2.2 < 60) :
    ∃ s : Int, clockMs t = s * 1000 ∧ 0 ≤ s ∧ s < 86400 := by
  obtain ⟨h, n, s⟩ := t
  dsimp only at clock
  exact ⟨_, rfl, by omega, by omega⟩

/-- The milliseconds of a day of the calendar are within reach. -/
theorem inReach_ofDay {d : Date} (valid : d.Valid) (ofDay : Int) (least : 0 ≤ ofDay)
    (most : ofDay < 86400000) : InReach ((d.days * 86400000 + ofDay) * 1000) := by
  have between := valid.days_between
  rw [epochDay] at between
  unfold InReach
  omega

/-- Whole seconds of a date of the calendar have their exact milliseconds. -/
theorem epochMs_clock {d : Date} (valid : d.Valid) {t : Nat × Nat × Nat}
    (clock : t.1 < 24 ∧ t.2.1 < 60 ∧ t.2.2 < 60) :
    epochMs ((d.days * 86400000 + clockMs t) * 1000) = d.days * 86400000 + clockMs t := by
  obtain ⟨s, whole, least, most⟩ := clockMs_between clock
  have reach := inReach_ofDay valid (clockMs t) (by omega) (by omega)
  have seconds : (d.days * 86400000 + clockMs t) * 1000 = (d.days * 86400 + s) * 1000000 := by omega
  rw [seconds] at reach ⊢
  rw [epochMs_whole reach]
  omega

/-- The time at which a real side starts. -/
theorem Real.clock_start (real : r.Real) : (r.time.getD (0, 0, 0)).1 < 24 ∧
    (r.time.getD (0, 0, 0)).2.1 < 60 ∧ (r.time.getD (0, 0, 0)).2.2 < 60 := by
  cases given : r.time with
  | none => decide
  | some t => exact real.2 t given

theorem FirstMs.inReach (real : r.Real) (first : r.FirstMs ms) : InReach (ms * 1000) := by
  obtain ⟨valid, rfl⟩ := Date.msAt_iff.1 first
  obtain ⟨s, whole, least, most⟩ := clockMs_between real.clock_start
  exact inReach_ofDay valid _ (by omega) (by omega)

theorem LastMs.inReach (real : r.Real) (last : r.LastMs ms) : InReach (ms * 1000) := by
  obtain ⟨date, time⟩ := r
  obtain ⟨valid, rfl⟩ := Date.msAt_iff.1 last
  cases time with
  | none => exact inReach_ofDay valid 86399999 (by decide) (by decide)
  | some t =>
    obtain ⟨s, whole, least, most⟩ := clockMs_between (real.2 t rfl)
    exact inReach_ofDay valid (clockMs t) (by omega) (by omega)

/-- The milliseconds of the start of a side are those of its first one. -/
theorem FirstMs.epochMs_eq (real : r.Real) (first : r.FirstMs ms) : epochMs (ms * 1000) = ms := by
  obtain ⟨valid, rfl⟩ := Date.msAt_iff.1 first
  exact epochMs_clock valid real.clock_start

/-- The milliseconds of the end of a side are those of its last one, but for the slip. -/
theorem LastMs.epochMs_eq (real : r.Real) (last : r.LastMs ms) :
    epochMs (ms * 1000) = ms + r.slip := by
  obtain ⟨date, time⟩ := r
  obtain ⟨valid, rfl⟩ := Date.msAt_iff.1 last
  cases time with
  | some t => exact (epochMs_clock valid (real.2 t rfl)).trans (Int.add_zero _).symm
  | none =>
    refine Eq.trans ?_ (epochMs_dayEnd valid)
    rw [microsPerDay]
    congr 1
    dsimp only [Option.elim_none]
    omega

/-- A real side has a first millisecond. -/
theorem Real.exists_firstMs (real : r.Real) : ∃ ms, r.FirstMs ms :=
  ⟨_, Date.msAt_iff.2 ⟨real.1, rfl⟩⟩

/-- A real side has a last millisecond. -/
theorem Real.exists_lastMs (real : r.Real) : ∃ ms, r.LastMs ms :=
  ⟨_, Date.msAt_iff.2 ⟨real.1, rfl⟩⟩

end Milliseconds

end RangeSide

section Ranges

/-- A text consists of two others with ` to ` between them and blanks around each of the two. -/
def Spans (text : String) (a b : List Char) : Prop :=
  ∃ u v w x, text.toList = u ++ a ++ v ++ " to ".toList ++ (w ++ b ++ x) ∧
    ∀ c ∈ u ++ v ++ w ++ x, Text.isBlank c

/-- A text is a range as it is written in ASCII: from one side to another one that does not end before
the first one starts. -/
def IsRangeText (text : String) : Prop :=
  ∃ (s t : RangeSide) (first last : Int), Spans text s.text.toList t.text.toList ∧ s.Real ∧ t.Real ∧
    s.FirstMs first ∧ t.LastMs last ∧ first ≤ last

variable {text : String}

/-- A range is two sides that are written with blanks around them. -/
theorem Ranges.exists_spans {first last : Int} (range : Ranges text first last) :
    ∃ a b, ∃ (s t : RangeSide) (ms ms' : Int), Spans text a b ∧
      (s.Real ∧ s.Writes a ∧ s.FirstMs ms ∧ first = ms * 1000) ∧
      (t.Real ∧ t.Writes b ∧ t.LastMs ms' ∧ last = ms' * 1000) ∧ ms ≤ ms' := by
  obtain ⟨a, b, s, t, whole, left, right, start, finish, order⟩ := range
  obtain ⟨u, v, padded, before, behind⟩ := Text.exists_trim a
  obtain ⟨w, x, padded', before', behind'⟩ := Text.exists_trim b
  obtain ⟨real, written⟩ := RangeSide.writes_of_ofText? left
  obtain ⟨real', written'⟩ := RangeSide.writes_of_ofText? right
  obtain ⟨ms, least⟩ := real.exists_firstMs
  obtain ⟨ms', greatest⟩ := real'.exists_lastMs
  have ends : t ≠ ⟨⟨9999, 12, 31⟩, none⟩ := by
    rintro rfl
    cases finish
  have start' : first = ms * 1000 := start.symm.trans least.start_eq
  have finish' : last = ms' * 1000 := Except.ok.inj (finish.symm.trans (greatest.finish_eq ends))
  refine ⟨_, _, s, t, ms, ms', ⟨u, v, w, x, ?_, ?_⟩, ⟨real, written, least, start'⟩,
    ⟨real', written', greatest, finish'⟩, by omega⟩
  · rw [whole, ← padded, ← padded']
  · simp only [List.forall_mem_append, and_assoc]
    exact ⟨before, behind, before', behind'⟩

/-- The bounds of a range are the first millisecond of its start and the last millisecond of its end,
but for an end that is a date alone and falls into one of the runs of days whose last millisecond is
lost: there the bound is a millisecond too early, or too late (`Date.endSlip`). -/
theorem rangeMs?_bounds {lo hi : Int} (accepted : rangeMs? text = .ok (some (lo, hi))) :
    ∃ a b, ∃ (s t : RangeSide) (last : Int), Spans text a b ∧ (s.Real ∧ s.Writes a) ∧
      (t.Real ∧ t.Writes b) ∧ s.FirstMs lo ∧ t.LastMs last ∧ hi = last + t.slip := by
  obtain ⟨failed, -⟩ | ⟨-, unread | ⟨first, last, read, range⟩⟩ := rangeMs?_cases text
  · cases accepted.symm.trans failed
  · cases accepted.symm.trans unread
  · obtain ⟨a, b, s, t, ms, ms', spans, ⟨real, written, least, rfl⟩,
      ⟨real', written', greatest, rfl⟩, -⟩ := range.exists_spans
    cases accepted.symm.trans read
    rw [least.epochMs_eq real, greatest.epochMs_eq real']
    exact ⟨a, b, s, t, ms', spans, ⟨real, written⟩, ⟨real', written'⟩, least, greatest, rfl⟩

/-- From a morning to a day of a run that ends late. -/
theorem rangeMs?_bounds_moonSummer :
    rangeMs? " 1969-06-01-06:30:00 to 1969-06-17" = .ok (some (-18466200000, -17020800000)) ∧
      ∃ a b, ∃ (s t : RangeSide) (last : Int),
        Spans " 1969-06-01-06:30:00 to 1969-06-17" a b ∧ (s.Real ∧ s.Writes a) ∧
          (t.Real ∧ t.Writes b) ∧ s.FirstMs (-18466200000) ∧ t.LastMs last ∧
            -17020800000 = last + t.slip := by
  have accepted : rangeMs? " 1969-06-01-06:30:00 to 1969-06-17" =
      .ok (some (-18466200000, -17020800000)) := by
    decide +kernel
  exact ⟨accepted, rangeMs?_bounds accepted⟩

/-- The first of March 1987 loses its last millisecond. -/
theorem rangeMs?_short_firstOfMarch :
    rangeMs? "1987-03-01 to 1987-03-01" = .ok (some (541555200000, 541641599998)) ∧
      RangeSide.LastMs ⟨⟨1987, 3, 1⟩, none⟩ 541641599999 ∧
      ¬RangeSide.LastMs ⟨⟨1987, 3, 1⟩, none⟩ 541641599998 := by
  have number : Date.days ⟨1987, 3, 1⟩ = 6268 := by decide
  refine ⟨by decide +kernel, ?_, ?_⟩ <;> rw [RangeSide.LastMs, Date.msAt_iff, number]
  · exact ⟨by decide, by decide⟩
  · rintro ⟨-, early⟩
    exact absurd early (by decide)

/-- What a text of two sides is read as. -/
theorem rangeMs?_eq {a b : List Char} {s t : RangeSide} {last : Int}
    (pieces : Text.splitOn " to ".toList text.toList = [a, b])
    (left : RangeSide.ofText? (Text.trim a) = some s)
    (right : RangeSide.ofText? (Text.trim b) = some t) (finish : t.finish = .ok last) :
    rangeMs? text =
      .ok (if s.start ≤ last then some (epochMs s.start, epochMs last) else none) := by
  unfold rangeMs?
  rw [pieces]
  simp only [List.map_cons, List.map_nil, left, right, finish]
  rfl

/-- A range as it is written in ASCII is read. -/
theorem IsRangeText.exists_bounds (range : IsRangeText text) (within : ¬EndsCalendar text) :
    ∃ bounds, rangeMs? text = .ok (some bounds) := by
  obtain ⟨s, t, ms, ms', ⟨u, v, w, x, whole, blanks⟩, real, real', least, greatest, order⟩ := range
  simp only [List.forall_mem_append, and_assoc] at blanks
  obtain ⟨before, behind, before', behind'⟩ := blanks
  have pieces : Text.splitOn " to ".toList text.toList =
      [u ++ s.text.toList ++ v, w ++ t.text.toList ++ x] := by
    rw [whole]
    exact Text.splitOn_pair rfl (by decide) (s.notMem_padding before behind)
      (t.notMem_padding before' behind')
  have left := RangeSide.ofText?_trim real before behind
  have right := RangeSide.ofText?_trim real' before' behind'
  have ends : t ≠ ⟨⟨9999, 12, 31⟩, none⟩ := by
    rintro rfl
    exact within ((endsCalendar_iff pieces).2 right)
  rw [rangeMs?_eq pieces left right (greatest.finish_eq ends), least.start_eq, if_pos (by omega)]
  exact ⟨_, rfl⟩

/-- In ASCII all that is read is a range. -/
theorem isRangeText_of_rangeMs? (ascii : ∀ c ∈ text.toList, c.toNat < 128) {bounds : Int × Int}
    (read : rangeMs? text = .ok (some bounds)) : IsRangeText text := by
  obtain ⟨failed, -⟩ | ⟨-, unread | ⟨first, last, -, range⟩⟩ := rangeMs?_cases text
  · cases read.symm.trans failed
  · cases read.symm.trans unread
  · obtain ⟨a, b, s, t, ms, ms', ⟨u, v, w, x, whole, blanks⟩, ⟨real, written, least, -⟩,
      ⟨real', written', greatest, -⟩, order⟩ := range.exists_spans
    rw [whole] at ascii
    rw [written.eq_text fun c mem => ascii c (by simp [mem]),
      written'.eq_text fun c mem => ascii c (by simp [mem])] at whole
    exact ⟨s, t, ms, ms', ⟨u, v, w, x, whole, blanks⟩, real, real', least, greatest, order⟩

/-- In ASCII a text is read as a range if and only if it is one, and otherwise as none, with the
exception of ends at the last day of the calendar. -/
theorem rangeMs?_accepts_iff (ascii : ∀ c ∈ text.toList, c.toNat < 128)
    (within : ¬EndsCalendar text) :
    ((∃ bounds, rangeMs? text = .ok (some bounds)) ↔ IsRangeText text) ∧
      (¬IsRangeText text → rangeMs? text = .ok none) := by
  refine ⟨⟨fun ⟨_, read⟩ => isRangeText_of_rangeMs? ascii read,
    fun range => range.exists_bounds within⟩, fun other => ?_⟩
  obtain ⟨-, last⟩ | ⟨-, unread | ⟨first, last, read, -⟩⟩ := rangeMs?_cases text
  · exact absurd last within
  · exact unread
  · exact absurd (isRangeText_of_rangeMs? ascii read) other

theorem not_endsCalendar_of_rangeMs? {bounds : Option (Int × Int)}
    (read : rangeMs? text = .ok bounds) : ¬EndsCalendar text := by
  obtain ⟨failed, -⟩ | ⟨within, -⟩ := rangeMs?_cases text
  · cases read.symm.trans failed
  · exact within

/-- A leap day starts a range in 2024 and none in 2023. -/
theorem rangeMs?_accepts_iff_leapDay :
    IsRangeText "\t2024-02-29 to 2024-02-29-23:59:59" ∧
      ¬IsRangeText "\t2023-02-29 to 2023-02-29-23:59:59" := by
  have read : rangeMs? "\t2024-02-29 to 2024-02-29-23:59:59" =
      .ok (some (1709164800000, 1709251199000)) := by
    decide +kernel
  have unread : rangeMs? "\t2023-02-29 to 2023-02-29-23:59:59" = .ok none := by decide +kernel
  have ascii : ∀ c ∈ "\t2024-02-29 to 2024-02-29-23:59:59".toList, c.toNat < 128 :=
    Text.ascii_of_all (by decide)
  have ascii' : ∀ c ∈ "\t2023-02-29 to 2023-02-29-23:59:59".toList, c.toNat < 128 :=
    Text.ascii_of_all (by decide)
  constructor
  · exact (rangeMs?_accepts_iff ascii (not_endsCalendar_of_rangeMs? read)).1.1 ⟨_, read⟩
  · intro range
    obtain ⟨_, read'⟩ :=
      (rangeMs?_accepts_iff ascii' (not_endsCalendar_of_rangeMs? unread)).1.2 range
    cases unread.symm.trans read'

end Ranges

end Logbook
