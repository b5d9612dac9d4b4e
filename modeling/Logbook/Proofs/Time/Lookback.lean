import Logbook.Proofs.Text.Numeral
import Logbook.Proofs.Time.Milliseconds
import Logbook.Proofs.Time.Range
import Logbook.Proofs.Time.Window

/-!
# Lookbacks on the calendar

In ASCII a lookback is a number and the name of a unit with blanks around them, and it leads where the
calendar says: so many seconds, minutes, hours, days or weeks back, or so many months, on the same day or
on the last one of a shorter month (`lookbackMs?_reference`). It leads a later moment to a later one,
except that months may lead two days to one, and then the times of day decide (`lookbackMs?_mono`,
`FoldsBack.lookbackMs?_anti`).
-/

namespace Logbook

section Months

namespace Date

/-- A date lies `n` months before another one: on the same day or, if its month is shorter, on the
last one. -/
structure MonthsBack (d : Date) (n : Nat) (d' : Date) : Prop where
  valid : d'.Valid
  month : 12 * d'.year + d'.month + n = 12 * d.year + d.month
  day : d'.day = d.day ∨ d'.day < d.day ∧ d'.day = daysInMonth d'.year d'.month

variable {d d' e e' : Date} {n : Nat}

theorem MonthsBack.monthNumber (valid : d.Valid) (back : d.MonthsBack n d') :
    d'.monthNumber + n = d.monthNumber := by
  have first := valid.2.2.1
  have first' := back.valid.2.2.1
  have month := back.month
  unfold Date.monthNumber
  omega

/-- The day is the same one as far as the month goes. -/
theorem MonthsBack.day_eq (back : d.MonthsBack n d') :
    d'.day = min d.day (monthLength d'.monthNumber) := by
  have last := back.valid.day_le
  have length : monthLength d'.monthNumber = daysInMonth d'.year d'.month := by
    rw [monthLength, back.valid.monthNumber_div, back.valid.monthNumber_mod]
  have day := back.day
  omega

/-- The date some months earlier, unless the calendar begins after it. -/
theorem minusMonths?_eq_some_iff (valid : d.Valid) :
    d.minusMonths? n = some d' ↔ d.MonthsBack n d' := by
  obtain ⟨low, high⟩ := valid.monthNumber_between
  have whole : 12 * d.year + (d.month - 1) = d.monthNumber := rfl
  unfold minusMonths?
  rw [whole]
  constructor
  · intro earlier
    dsimp only at earlier
    split at earlier
    case isTrue => cases earlier
    case isFalse within =>
      obtain ⟨k, left⟩ : ∃ k, k = d.monthNumber - n := ⟨_, rfl⟩
      rw [← left] at earlier
      cases earlier
      have first := valid.one_le_day
      have length := (monthLength_between k).1
      have known : monthLength k = daysInMonth (k / 12) (k % 12 + 1) := rfl
      rw [← known]
      have real : Valid ⟨k / 12, k % 12 + 1, min d.day (monthLength k)⟩ :=
        valid_of_monthNumber (by omega) (by omega) (by omega) (by omega)
      refine ⟨real, ?_, ?_⟩
      · have := valid.2.2.1
        dsimp only
        unfold monthNumber at *
        omega
      · dsimp only
        omega
  · intro back
    have month := back.monthNumber valid
    have low' := back.valid.monthNumber_between.1
    have left : d.monthNumber - n = d'.monthNumber := by omega
    have length : daysInMonth d'.year d'.month = monthLength d'.monthNumber := by
      rw [monthLength, back.valid.monthNumber_div, back.valid.monthNumber_mod]
    dsimp only
    rw [if_neg (by omega), left, back.valid.monthNumber_div, back.valid.monthNumber_mod, length,
      ← back.day_eq]

/-- A later date leads back to a later date or to the same one. -/
theorem MonthsBack.mono (valid : d.Valid) (valid' : d'.Valid) (back : d.MonthsBack n e)
    (back' : d'.MonthsBack n e') (order : d.days < d'.days) : e.days < e'.days ∨ e = e' := by
  have month := back.monthNumber valid
  have month' := back'.monthNumber valid'
  have day := back.day_eq
  have day' := back'.day_eq
  rw [days_lt_iff back.valid back'.valid]
  rcases (days_lt_iff valid valid').1 order with earlier | ⟨same, before⟩
  · exact .inl (.inl (by omega))
  · have target : e.monthNumber = e'.monthNumber := by omega
    rw [target] at day
    rcases Nat.lt_or_ge e.day e'.day with less | more
    · exact .inl (.inr ⟨target, less⟩)
    · exact .inr (eq_of_monthNumber back.valid back'.valid target (by omega))

/-- Just one date lies so many months before another one. -/
theorem MonthsBack.unique (valid : d.Valid) (back : d.MonthsBack n e) (back' : d.MonthsBack n e') :
    e = e' :=
  Option.some.inj (((minusMonths?_eq_some_iff valid).2 back).symm.trans
    ((minusMonths?_eq_some_iff valid).2 back'))

end Date

end Months

section Units

/-- A moment on a whole second has so many milliseconds, from the start of 1970. -/
def Moment.IsMs (m : Moment) (ms : Int) : Prop :=
  m.date.MsAt (RangeSide.clockMs (m.hour, m.minute, m.second)) ms

/-- The moment of some milliseconds lies `n` units before another one and not before year 1. -/
def LookbackUnit.LeadsTo (now : Moment) (n : Nat) (ms : Int) : LookbackUnit → Prop
  | micros k => ∃ current first, now.IsMs current ∧ Date.MsAt ⟨1, 1, 1⟩ 0 first ∧ first ≤ ms ∧
      1000 * (current - ms) = n * k
  | months k => ∃ d, now.date.MonthsBack (n * k) d ∧ Moment.IsMs { now with date := d } ms

variable {m now : Moment} {ms : Int}

theorem Moment.isMs_iff (valid : m.date.Valid) (whole : m.micro = 0) :
    m.IsMs ms ↔ m.micros = ms * 1000 := by
  rw [IsMs, Date.msAt_iff, and_iff_right valid, RangeSide.clockMs, micros, dayMicros, microsPerDay,
    whole]
  omega

/-- A moment of the calendar is within reach. -/
theorem Moment.Valid.inReach (valid : m.Valid) : InReach m.micros := by
  have between := valid.1.days_between
  have least := m.dayMicros_nonneg
  have most := valid.dayMicros_lt
  rw [epochDay] at between
  unfold InReach micros
  rw [microsPerDay] at *
  omega

theorem Moment.exists_seconds (whole : m.micro = 0) : ∃ s : Int, m.micros = s * 1000000 := by
  refine ⟨m.date.days * 86400 + ((m.hour * 60 + m.minute) * 60 + m.second), ?_⟩
  rw [micros, dayMicros, microsPerDay, whole]
  omega

/-- The milliseconds of a moment on a whole second are exact. -/
theorem Moment.epochMs_eq_iff (valid : m.Valid) (whole : m.micro = 0) :
    Logbook.epochMs m.micros = ms ↔ m.IsMs ms := by
  obtain ⟨s, seconds⟩ := exists_seconds whole
  rw [isMs_iff valid.1 whole, seconds, epochMs_whole (seconds ▸ valid.inReach)]
  omega

/-- Units of a fixed length are subtracted, as far as year 1. -/
theorem LookbackUnit.before?_micros_eq_some_iff {now t : Int} {n k : Nat} :
    (micros k).before? now n = some t ↔ t = now - n * k ∧ -epochDay * microsPerDay ≤ t := by
  simp only [before?]
  split <;> grind

/-- Months are subtracted from the date. -/
theorem LookbackUnit.before?_months_eq_some_iff (valid : now.Valid) {n k : Nat} {t : Int} :
    (months k).before? now.micros n = some t ↔
      ∃ d, now.date.MonthsBack (n * k) d ∧ Moment.micros { now with date := d } = t := by
  simp only [before?, Moment.ofMicros?_micros valid, Option.bind_eq_bind, Option.bind_some,
    Option.bind_eq_some_iff, Option.pure_def, Option.some.injEq, Date.minusMonths?_eq_some_iff valid.1]

/-- The units of the table are whole seconds or months. -/
theorem LookbackUnit.dvd_of_mem_names {name : String} {k : Nat} (known : (name, micros k) ∈ names) :
    1000000 ∣ k := by
  have all : names.all fun p => match p.2 with
      | micros k => k % 1000000 == 0
      | months _ => true := by
    decide
  exact Nat.dvd_of_mod_eq_zero (beq_iff_eq.1 (List.all_eq_true.1 all _ known))

/-- The milliseconds of a moment whole seconds before another one are exact. -/
theorem epochMs_before (valid : now.Valid) (whole : now.micro = 0) {current : Int} {back : Nat}
    (start : now.IsMs current) (seconds : 1000000 ∣ back)
    (within : -epochDay * microsPerDay ≤ now.micros - back) :
    epochMs (now.micros - back) = ms ↔ 1000 * (current - ms) = back := by
  obtain ⟨s, clock⟩ := Moment.exists_seconds whole
  obtain ⟨j, rfl⟩ := seconds
  rw [Moment.isMs_iff valid.1 whole, clock] at start
  obtain ⟨-, most⟩ := valid.inReach
  rw [show -epochDay * microsPerDay = -62135596800000000 by decide] at within
  rw [clock] at within most ⊢
  have left : s * 1000000 - (1000000 * j : Nat) = (s - j) * 1000000 := by omega
  rw [left, epochMs_whole (by unfold InReach; omega)]
  omega

/-- The first moment of year 1. -/
theorem msAt_yearOne_iff : Date.MsAt ⟨1, 1, 1⟩ 0 ms ↔ ms * 1000 = -epochDay * microsPerDay := by
  have number : Date.days ⟨1, 1, 1⟩ = -719162 := by decide
  rw [Date.msAt_iff, and_iff_right (by decide), number, epochDay, microsPerDay]
  omega

/-- A lookback of whole seconds leads to just the moment so long before, if it is in the calendar. -/
theorem LookbackUnit.before?_micros_iff_leadsTo (valid : now.Valid) (whole : now.micro = 0) {k n : Nat}
    (seconds : 1000000 ∣ k) :
    (∃ t, (micros k).before? now.micros n = some t ∧ epochMs t = ms) ↔
      (micros k).LeadsTo now n ms := by
  obtain ⟨current, start⟩ : ∃ current, now.IsMs current := ⟨_, Date.msAt_iff.2 ⟨valid.1, rfl⟩⟩
  obtain ⟨first, yearOne⟩ : ∃ first, Date.MsAt ⟨1, 1, 1⟩ 0 first :=
    ⟨_, Date.msAt_iff.2 ⟨by decide, rfl⟩⟩
  have clock := (Moment.isMs_iff valid.1 whole).1 start
  have least := msAt_yearOne_iff.1 yearOne
  have exact_ms (within : -epochDay * microsPerDay ≤ now.micros - (n * k : Nat)) :
      epochMs (now.micros - (n * k : Nat)) = ms ↔ 1000 * (current - ms) = (n * k : Nat) :=
    epochMs_before valid whole start (Dvd.dvd.mul_left seconds n) within
  push_cast at exact_ms
  simp only [before?_micros_eq_some_iff, LeadsTo]
  constructor
  · rintro ⟨-, ⟨rfl, within⟩, same⟩
    have count := (exact_ms within).1 same
    exact ⟨current, first, start, yearOne, by omega, count⟩
  · rintro ⟨current', first', start', yearOne', within, count⟩
    have clock' := (Moment.isMs_iff valid.1 whole).1 start'
    have least' := msAt_yearOne_iff.1 yearOne'
    obtain rfl : current' = current := by omega
    have reached : -epochDay * microsPerDay ≤ now.micros - n * k := by omega
    exact ⟨_, ⟨rfl, reached⟩, (exact_ms reached).2 count⟩

/-- A lookback of months leads to just the moment on the date so many months before. -/
theorem LookbackUnit.before?_months_iff_leadsTo (valid : now.Valid) (whole : now.micro = 0)
    {k n : Nat} : (∃ t, (months k).before? now.micros n = some t ∧ epochMs t = ms) ↔
      (months k).LeadsTo now n ms := by
  have exact_ms {d : Date} (back : now.date.MonthsBack (n * k) d) :
      epochMs (Moment.micros { now with date := d }) = ms ↔ Moment.IsMs { now with date := d } ms :=
    Moment.epochMs_eq_iff ⟨back.valid, valid.2⟩ whole
  simp only [before?_months_eq_some_iff valid, LeadsTo]
  constructor
  · rintro ⟨-, ⟨d, back, rfl⟩, same⟩
    exact ⟨d, back, (exact_ms back).1 same⟩
  · rintro ⟨d, back, same⟩
    exact ⟨_, ⟨d, back, rfl⟩, (exact_ms back).2 same⟩

/-- A lookback of a unit of the table leads to just the moment that the calendar gives. -/
theorem LookbackUnit.before?_iff_leadsTo (valid : now.Valid) (whole : now.micro = 0)
    {unit : LookbackUnit} {name : String} (known : (name, unit) ∈ names) {n : Nat} :
    (∃ t, unit.before? now.micros n = some t ∧ epochMs t = ms) ↔ unit.LeadsTo now n ms := by
  cases unit with
  | micros k => exact before?_micros_iff_leadsTo valid whole (dvd_of_mem_names known)
  | months k => exact before?_months_iff_leadsTo valid whole

end Units

section Reading

/-- The number and the unit of a lookback, if it has no more digits than are read. -/
def lookbackCount? (text : String) : Option (Nat × LookbackUnit) := do
  let (ds, name) ← lookbackParts? text.toList
  return (← Text.limitedValue? ds, ← LookbackUnit.ofText? name)

/-- A text is a number and the name of a unit, in letters of any case, as they are written in ASCII,
with blanks around them. -/
def CountsUnits (text : String) (n : Nat) (unit : LookbackUnit) : Prop :=
  ∃ u ds name v, text.toList = u ++ (ds ++ name) ++ v ∧ (∀ c ∈ u ++ v, Text.isBlank c) ∧ ds ≠ [] ∧
    (∀ c ∈ ds, c.isDigit) ∧ n = Nat.ofDigitChars 10 ds 0 ∧
    (String.ofList (name.map Char.toLower), unit) ∈ LookbackUnit.names

variable {now : Int} {text : String} {ms : Int}

/-- A lookback stands for the milliseconds of the moment so many units before. -/
theorem lookbackMs?_eq_some_iff : lookbackMs? now text = .ok (some ms) ↔
    ∃ n unit, lookbackCount? text = some (n, unit) ∧ ∃ t, unit.before? now n = some t ∧
      epochMs t = ms := by
  unfold lookbackMs? lookbackCount?
  cases lookbackParts? text.toList with
  | none => simp
  | some parts =>
    obtain ⟨ds, name⟩ := parts
    simp only [Option.bind_eq_bind, Option.bind_some]
    cases Text.limitedValue? ds with
    | none => simp
    | some n => cases LookbackUnit.ofText? name <;> simp

/-- The names of the table are words of small letters. -/
theorem LookbackUnit.letters_of_mem_names {name : String} {unit : LookbackUnit}
    (known : (name, unit) ∈ names) : name.toList ≠ [] ∧ ∀ c ∈ name.toList, c.isLower := by
  have all : names.all fun p => !p.1.toList.isEmpty && p.1.toList.all Char.isLower := by decide
  have named := List.all_eq_true.1 all _ known
  simpa [List.all_eq_true] using named

/-- A number and a name with blanks around them are the parts of a lookback. -/
theorem lookbackParts?_of_written {u ds name v : List Char}
    (before : ∀ c ∈ u, Text.isBlank c) (behind : ∀ c ∈ v, Text.isBlank c) (filled : ds ≠ [])
    (digits : ∀ c ∈ ds, c.isDigit) (named : name ≠ []) (letters : ∀ c ∈ name, c.isAlpha) :
    lookbackParts? (u ++ (ds ++ name) ++ v) = some (ds, name) := by
  have solid : ∀ c ∈ ds ++ name, Text.isBlank c = false := by
    intro c mem
    rcases List.mem_append.1 mem with digit | letter
    · exact Text.isBlank_of_isDigit (digits c digit)
    · obtain ⟨least, most⟩ := toNat_of_isAlpha (letters c letter)
      exact Text.isBlank_of_visible (by omega) (by omega)
  have numeral : ∀ c ∈ ds, Text.isDigit c := fun c mem =>
    Option.isSome_iff_exists.2 ⟨_, Text.digitValue?_of_isDigit (digits c mem)⟩
  have word : ∀ c ∈ name, isUnitLetter c := fun c mem => by simp [isUnitLetter, letters c mem]
  exact lookbackParts?_eq_some_iff.2
    ⟨Text.trim_of_blanks before behind solid, filled, numeral, named, word⟩

/-- What is read in ASCII is written so. -/
theorem countsUnits_of_lookbackCount? (ascii : ∀ c ∈ text.toList, c.toNat < 128) {n : Nat}
    {unit : LookbackUnit} (count : lookbackCount? text = some (n, unit)) : CountsUnits text n unit := by
  simp only [lookbackCount?, Option.bind_eq_bind, Option.bind_eq_some_iff, Option.pure_def,
    Option.some.injEq, Prod.exists, Prod.mk.injEq, LookbackUnit.ofText?_eq_some_iff] at count
  obtain ⟨ds, name, parts, n, value, unit, known, rfl, rfl⟩ := count
  obtain ⟨trimmed, filled, digits, -, -⟩ := lookbackParts?_eq_some_iff.1 parts
  obtain ⟨u, v, whole, before, behind⟩ := Text.exists_trim text.toList
  rw [trimmed] at whole
  rw [whole] at ascii
  have plain : ∀ c ∈ ds, c.isDigit := fun c mem =>
    (Text.isDigit_iff_of_ascii (ascii c (by simp [mem]))).1 (digits c mem)
  rw [Text.lower_of_ascii fun c mem => ascii c (by simp [mem])] at known
  have number := Text.digitsValue?_of_limitedValue? value
  rw [Text.digitsValue?_of_digits plain] at number
  exact ⟨u, ds, name, v, whole, List.forall_mem_append.2 ⟨before, behind⟩, filled, plain,
    (Option.some.inj number).symm, known⟩

/-- What is written in ASCII is read, if the digits are not too many. -/
theorem CountsUnits.lookbackCount?_eq (ascii : ∀ c ∈ text.toList, c.toNat < 128)
    (few : (text.toList.filter Char.isDigit).length ≤ Text.maxDigits) {n : Nat}
    {unit : LookbackUnit} (written : CountsUnits text n unit) :
    lookbackCount? text = some (n, unit) := by
  obtain ⟨u, ds, name, v, whole, blanks, filled, digits, rfl, known⟩ := written
  obtain ⟨before, behind⟩ := List.forall_mem_append.1 blanks
  obtain ⟨named, small⟩ := LookbackUnit.letters_of_mem_names known
  rw [String.toList_ofList] at named small
  have letters : ∀ c ∈ name, c.isAlpha := fun c mem =>
    Text.isAlpha_of_isLower_toLower (small _ (List.mem_map_of_mem mem))
  have parts : lookbackParts? text.toList = some (ds, name) := by
    rw [whole]
    exact lookbackParts?_of_written before behind filled digits (by simpa using named) letters
  have length : ds.length ≤ Text.maxDigits := by
    refine Nat.le_trans ?_ few
    simp only [whole, List.filter_append, List.length_append, List.filter_eq_self.2 digits]
    omega
  have number : Text.limitedValue? ds = some (Nat.ofDigitChars 10 ds 0) := by
    rw [Text.limitedValue?, if_pos length, Text.digitsValue?_of_digits digits]
  have unit_named : LookbackUnit.ofText? name = some unit := by
    rw [LookbackUnit.ofText?_eq_some_iff]
    rwa [Text.lower_of_ascii fun c mem => ascii c (by simp [whole, mem])]
  simp [lookbackCount?, parts, number, unit_named]

end Reading

section Reference

/-- A text is a lookback, as it is written in ASCII, that leads from a moment to these milliseconds. -/
def IsLookbackText (now : Moment) (text : String) (ms : Int) : Prop :=
  ∃ n unit, CountsUnits text n unit ∧ unit.LeadsTo now n ms

variable {now : Moment} {text : String}

theorem not_tooManyDigits (ascii : ∀ c ∈ text.toList, c.toNat < 128)
    (few : (text.toList.filter Char.isDigit).length ≤ Text.maxDigits) : ¬TooManyDigits text := by
  rintro ⟨ds, name, trimmed, digits, long, -⟩
  obtain ⟨u, v, whole, -⟩ := Text.exists_trim text.toList
  rw [trimmed] at whole
  rw [whole] at ascii few
  have plain : ∀ c ∈ ds, c.isDigit := fun c mem =>
    (Text.isDigit_iff_of_ascii (ascii c (by simp [mem]))).1 (digits c mem)
  simp only [List.filter_append, List.length_append, List.filter_eq_self.2 plain] at few
  omega

/-- In ASCII a lookback from a whole second is what it is by the calendar, and otherwise it is none. -/
theorem lookbackMs?_reference (valid : now.Valid) (whole : now.micro = 0)
    (ascii : ∀ c ∈ text.toList, c.toNat < 128)
    (few : (text.toList.filter Char.isDigit).length ≤ 4300) :
    (∀ ms, lookbackMs? now.micros text = .ok (some ms) ↔ IsLookbackText now text ms) ∧
      ((∀ ms, ¬IsLookbackText now text ms) → lookbackMs? now.micros text = .ok none) := by
  have reads (ms : Int) :
      lookbackMs? now.micros text = .ok (some ms) ↔ IsLookbackText now text ms := by
    rw [lookbackMs?_eq_some_iff, IsLookbackText]
    refine exists_congr fun n => exists_congr fun unit => ?_
    have count : lookbackCount? text = some (n, unit) ↔ CountsUnits text n unit :=
      ⟨countsUnits_of_lookbackCount? ascii, fun written => written.lookbackCount?_eq ascii few⟩
    rw [count]
    refine and_congr_right ?_
    rintro ⟨-, -, name, -, -, -, -, -, -, known⟩
    exact LookbackUnit.before?_iff_leadsTo valid whole known
  refine ⟨reads, fun other => ?_⟩
  obtain ⟨-, long⟩ | ⟨-, unread | ⟨moment, read, -⟩⟩ := lookbackMs?_cases now.micros text
  · exact absurd long (not_tooManyDigits ascii few)
  · exact unread
  · exact absurd ((reads _).1 read) (other _)

/-- Thirteen months before the end of March 2024 lies the end of February 2023, and no lookback is in
fortnights. -/
theorem lookbackMs?_reference_endOfMarch :
    IsLookbackText ⟨⟨2024, 3, 31⟩, 12, 0, 0, 0⟩ " 13Months\n" 1677585600000 ∧
      ∀ ms, ¬IsLookbackText ⟨⟨2024, 3, 31⟩, 12, 0, 0, 0⟩ "2fortnights" ms := by
  have noon : Moment.Valid ⟨⟨2024, 3, 31⟩, 12, 0, 0, 0⟩ := by decide
  constructor
  · have ascii : ∀ c ∈ " 13Months\n".toList, c.toNat < 128 := Text.ascii_of_all (by decide)
    refine ((lookbackMs?_reference noon rfl ascii (by decide)).1 _).1 ?_
    decide +kernel
  · intro ms lookback
    have ascii : ∀ c ∈ "2fortnights".toList, c.toNat < 128 := Text.ascii_of_all (by decide)
    have read := ((lookbackMs?_reference noon rfl ascii (by decide)).1 ms).2 lookback
    have unread : lookbackMs? (Moment.micros ⟨⟨2024, 3, 31⟩, 12, 0, 0, 0⟩) "2fortnights" =
        .ok none := by
      decide +kernel
    cases unread.symm.trans read

end Reference

section Order

variable {now now' : Moment} {t t' : Int} {n : Nat}

/-- A lookback leads to a moment within reach. -/
theorem LookbackUnit.inReach_of_before? (valid : now.Valid) {unit : LookbackUnit}
    (before : unit.before? now.micros n = some t) : InReach t := by
  cases unit with
  | micros k =>
    obtain ⟨rfl, least⟩ := before?_micros_eq_some_iff.1 before
    have most := valid.inReach.2
    have back : (0 : Int) ≤ n * k := by positivity
    rw [show -epochDay * microsPerDay = -62135596800000000 by decide] at least
    unfold InReach
    omega
  | months k =>
    obtain ⟨d, back, rfl⟩ := (before?_months_eq_some_iff valid).1 before
    exact Moment.Valid.inReach ⟨back.valid, valid.2⟩

/-- A lookback of months leads two moments of different days to one day, and the later moment to an
earlier time of it. -/
def FoldsBack (text : String) (now now' : Moment) : Prop :=
  ∃ n k d, lookbackCount? text = some (n, .months k) ∧ now.date ≠ now'.date ∧
    now.date.MonthsBack (n * k) d ∧ now'.date.MonthsBack (n * k) d ∧ now'.dayMicros < now.dayMicros

/-- On one date the moments are in the order of their times of day. -/
theorem Moment.micros_of_date (m m' : Moment) (d : Date) :
    micros { m with date := d } ≤ micros { m' with date := d } ↔ m.dayMicros ≤ m'.dayMicros := by
  show d.days * microsPerDay + m.dayMicros ≤ d.days * microsPerDay + m'.dayMicros ↔ _
  omega

/-- The same months lead a later moment to a later one, unless they lead both moments to the same day
from different ones. -/
theorem Date.MonthsBack.micros_le (valid : now.Valid) (valid' : now'.Valid)
    (order : now.micros ≤ now'.micros) {d d' : Date} (back : now.date.MonthsBack n d)
    (back' : now'.date.MonthsBack n d')
    (apart : d = d' → now.date ≠ now'.date → now.dayMicros ≤ now'.dayMicros) :
    Moment.micros { now with date := d } ≤ Moment.micros { now' with date := d' } := by
  have first : Moment.Valid { now with date := d } := ⟨back.valid, valid.2⟩
  have second : Moment.Valid { now' with date := d' } := ⟨back'.valid, valid'.2⟩
  rcases (Moment.micros_le_iff valid valid').1 order with earlier | ⟨same, time⟩
  · have other : now.date ≠ now'.date := by
      intro same
      rw [same] at earlier
      exact Int.lt_irrefl _ earlier
    rw [Moment.micros_le_iff first second]
    rcases back.mono valid.1 valid'.1 back' earlier with less | rfl
    · exact .inl less
    · exact .inr ⟨rfl, apart rfl other⟩
  · rw [same] at back
    obtain rfl := back.unique valid'.1 back'
    exact (Moment.micros_of_date now now' d).2 time

/-- A lookback leads a later moment to a later one, unless it folds the two. -/
theorem LookbackUnit.before?_mono (valid : now.Valid) (valid' : now'.Valid)
    (order : now.micros ≤ now'.micros) {text : String} {unit : LookbackUnit}
    (counted : lookbackCount? text = some (n, unit)) (apart : ¬FoldsBack text now now')
    (before : unit.before? now.micros n = some t)
    (before' : unit.before? now'.micros n = some t') : t ≤ t' := by
  cases unit with
  | micros k =>
    obtain ⟨rfl, -⟩ := LookbackUnit.before?_micros_eq_some_iff.1 before
    obtain ⟨rfl, -⟩ := LookbackUnit.before?_micros_eq_some_iff.1 before'
    omega
  | months k =>
    obtain ⟨d, back, rfl⟩ := (LookbackUnit.before?_months_eq_some_iff valid).1 before
    obtain ⟨d', back', rfl⟩ := (LookbackUnit.before?_months_eq_some_iff valid').1 before'
    refine back.micros_le valid valid' order back' ?_
    rintro rfl other
    by_contra late
    exact apart ⟨n, k, d, counted, other, back, back', by omega⟩

/-- A lookback that folds two moments leads the later one to an earlier one. -/
theorem FoldsBack.before?_anti (valid : now.Valid) (valid' : now'.Valid) {text : String}
    {unit : LookbackUnit} (counted : lookbackCount? text = some (n, unit))
    (folds : FoldsBack text now now') (before : unit.before? now.micros n = some t)
    (before' : unit.before? now'.micros n = some t') : t' ≤ t := by
  obtain ⟨n', k, d, counted', -, back, back', late⟩ := folds
  obtain ⟨rfl, rfl⟩ := Prod.mk.inj (Option.some.inj (counted.symm.trans counted'))
  obtain ⟨e, there, rfl⟩ := (LookbackUnit.before?_months_eq_some_iff valid).1 before
  obtain ⟨e', there', rfl⟩ := (LookbackUnit.before?_months_eq_some_iff valid').1 before'
  obtain rfl := there.unique valid.1 back
  obtain rfl := there'.unique valid'.1 back'
  exact (Moment.micros_of_date now' now _).2 (Int.le_of_lt late)

/-- What a text counts is the same at all times. -/
theorem exists_count_of_lookbackMs? {text : String} (first : lookbackMs? now.micros text = .ok (some t))
    (second : lookbackMs? now'.micros text = .ok (some t')) :
    ∃ n unit moment moment', lookbackCount? text = some (n, unit) ∧
      (unit.before? now.micros n = some moment ∧ epochMs moment = t) ∧
      unit.before? now'.micros n = some moment' ∧ epochMs moment' = t' := by
  obtain ⟨n, unit, counted, moment, before, ms⟩ := lookbackMs?_eq_some_iff.1 first
  obtain ⟨n', unit', counted', moment', before', ms'⟩ := lookbackMs?_eq_some_iff.1 second
  obtain ⟨rfl, rfl⟩ := Prod.mk.inj (Option.some.inj (counted.symm.trans counted'))
  exact ⟨n, unit, moment, moment', counted, ⟨before, ms⟩, before', ms'⟩

/-- A lookback stands for no fewer milliseconds at a later time, unless it folds the two times. -/
theorem lookbackMs?_mono (valid : now.Valid) (valid' : now'.Valid) (order : now.micros ≤ now'.micros)
    {text : String} (apart : ¬FoldsBack text now now')
    (first : lookbackMs? now.micros text = .ok (some t))
    (second : lookbackMs? now'.micros text = .ok (some t')) : t ≤ t' := by
  obtain ⟨n, unit, moment, moment', counted, ⟨before, rfl⟩, before', rfl⟩ :=
    exists_count_of_lookbackMs? first second
  exact epochMs_mono (LookbackUnit.inReach_of_before? valid before)
    (LookbackUnit.inReach_of_before? valid' before')
    (LookbackUnit.before?_mono valid valid' order counted apart before before')

/-- A lookback that folds two times stands for no more milliseconds at the later one. -/
theorem FoldsBack.lookbackMs?_anti (valid : now.Valid) (valid' : now'.Valid) {text : String}
    (folds : FoldsBack text now now') (first : lookbackMs? now.micros text = .ok (some t))
    (second : lookbackMs? now'.micros text = .ok (some t')) : t' ≤ t := by
  obtain ⟨n, unit, moment, moment', counted, ⟨before, rfl⟩, before', rfl⟩ :=
    exists_count_of_lookbackMs? first second
  exact epochMs_mono (LookbackUnit.inReach_of_before? valid' before')
    (LookbackUnit.inReach_of_before? valid before)
    (folds.before?_anti valid valid' counted before before')

end Order

end Logbook
