/-!
# Decimal digits

The decimal digits of every script stand in runs of ten, in order of their value. A number may
be written with the digits of any script, and of several. Hexadecimal digits are those of ASCII.
-/

namespace Logbook.Text

/-- The code points of the digits zero, in Unicode version 14. -/
def digitZeros : List Nat := [
  0x30, 0x660, 0x6F0, 0x7C0, 0x966, 0x9E6, 0xA66, 0xAE6, 0xB66, 0xBE6, 0xC66, 0xCE6, 0xD66, 0xDE6,
  0xE50, 0xED0, 0xF20, 0x1040, 0x1090, 0x17E0, 0x1810, 0x1946, 0x19D0, 0x1A80, 0x1A90, 0x1B50,
  0x1BB0, 0x1C40, 0x1C50, 0xA620, 0xA8D0, 0xA900, 0xA9D0, 0xA9F0, 0xAA50, 0xABF0, 0xFF10, 0x104A0,
  0x10D30, 0x11066, 0x110F0, 0x11136, 0x111D0, 0x112F0, 0x11450, 0x114D0, 0x11650, 0x116C0,
  0x11730, 0x118E0, 0x11950, 0x11C50, 0x11D50, 0x11DA0, 0x16A60, 0x16AC0, 0x16B50, 0x1D7CE,
  0x1D7D8, 0x1D7E2, 0x1D7EC, 0x1D7F6, 0x1E140, 0x1E2F0, 0x1E950, 0x1FBF0]

/-- The value of a decimal digit of any script. -/
def digitValue? (c : Char) : Option Nat :=
  let n := c.toNat
  (digitZeros.find? fun z => z ≤ n && n ≤ z + 9).map (n - ·)

/-- A decimal digit of any script. -/
def isDigit (c : Char) : Bool :=
  (digitValue? c).isSome

/-- The number that digits write, most significant first; none if one of them is no digit. -/
def digitsValue? (s : List Char) : Option Nat :=
  s.foldl (fun acc c => do return 10 * (← acc) + (← digitValue? c)) (some 0)

/-- The value of a hexadecimal digit of ASCII. -/
def hexValue? (c : Char) : Option Nat :=
  if '0' ≤ c && c ≤ '9' then some (c.toNat - 48)
  else if 'a' ≤ c && c ≤ 'f' then some (c.toNat - 87)
  else if 'A' ≤ c && c ≤ 'F' then some (c.toNat - 55)
  else none

theorem digitValue?_lt {c : Char} {v : Nat} (h : digitValue? c = some v) : v < 10 := by
  obtain ⟨z, hz, rfl⟩ := Option.map_eq_some_iff.1 h
  have := List.find?_some hz
  simp only [Bool.and_eq_true, decide_eq_true_eq] at this
  omega

/-- Digits of any script write a number. -/
theorem exists_digitsValue? {s : List Char} (digits : ∀ c ∈ s, isDigit c) :
    ∃ n, digitsValue? s = some n := by
  -- more generally, they lengthen what was read before them
  suffices longer : ∀ acc, ∃ n,
      s.foldl (fun acc c => do return 10 * (← acc) + (← digitValue? c)) (some acc) = some n from
    longer 0
  induction s with
  | nil => exact fun acc => ⟨acc, rfl⟩
  | cons c r ih =>
    intro acc
    obtain ⟨v, value⟩ := Option.isSome_iff_exists.1 (digits c (List.mem_cons_self ..))
    rw [List.foldl_cons, value]
    exact ih (fun d mem => digits d (List.mem_cons_of_mem c mem)) (10 * acc + v)

/-- Different numbers are written differently. -/
theorem toString_nat_inj {m n : Nat} (h : toString m = toString n) : m = n := by
  have digits := congrArg (fun s => Nat.ofDigitChars 10 s.toList 0) h
  simpa using digits

end Logbook.Text
