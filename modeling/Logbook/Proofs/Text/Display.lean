import Logbook.Json.Text
import Mathlib.Data.List.TakeWhile

/-!
# What is shown

A value that is put into a text leaves something there, unless it is the empty text
(`Json.display_ne_empty`). Only the numbers need an argument: the digits of a decimal are what is
left of a numeral when the zeros at its end are cut off.
-/

namespace Logbook

namespace Decimal

/-- The zeros alone are a numeral of zero. -/
theorem ofDigitChars_zeros {ds : List Char} (zeros : ∀ c ∈ ds, c = '0') :
    Nat.ofDigitChars 10 ds 0 = 0 := by
  induction ds with
  | nil => rfl
  | cons c rest ih =>
    obtain ⟨rfl, others⟩ := List.forall_mem_cons.1 zeros
    exact ih others

/-- A number other than zero has a digit that is not cut off. -/
theorem digits_ofNat_ne_nil {c : Nat} (positive : c ≠ 0) (k : Int) : (ofNat c k).digits ≠ [] := by
  intro cut
  have zeros : ∀ d ∈ Nat.toDigits 10 c, d = '0' := by
    simpa [ofNat, List.dropWhile_eq_nil_iff] using cut
  have value := ofDigitChars_zeros zeros
  rw [Nat.ofDigitChars_ten_toDigits] at value
  exact positive value

theorem positional_ne_nil (x : Decimal) : x.positional ≠ [] := by
  unfold positional
  dsimp only
  split
  · exact List.cons_ne_nil _ _
  · split <;> simp

theorem scientific_ne_nil {x : Decimal} (digits : x.digits ≠ []) : x.scientific [] ≠ [] := by
  unfold scientific
  split
  · contradiction
  · exact List.cons_ne_nil _ _
  · exact List.cons_ne_nil _ _

end Decimal

namespace Double

/-- A double other than zero is not read from a zero. -/
theorem digits_of_decimalOf? {p m : Nat} {e : Int} {x : Decimal} (positive : m ≠ 0)
    (found : decimalOf? p m e = some x) : x.digits ≠ [] := by
  obtain ⟨c, near, rfl⟩ := Option.map_eq_some_iff.1 found
  have reads := List.find?_some near
  apply Decimal.digits_ofNat_ne_nil
  rintro rfl
  rw [beq_iff_eq, ofDecimal, if_pos rfl, Double.finite.injEq] at reads
  exact positive reads.2.1.symm

theorem digitsText_ne_nil (m : Nat) (e : Int) : digitsText m e ≠ [] := by
  unfold digitsText
  split
  · exact List.cons_ne_nil _ _
  · next positive =>
    dsimp only
    split
    · exact Decimal.positional_ne_nil _
    · next far =>
      apply Decimal.scientific_ne_nil
      unfold shortest at far ⊢
      cases found : (List.range 17).findSome? fun p => decimalOf? (p + 1) m e with
      | none =>
        rw [found] at far
        exact absurd rfl far
      | some x =>
        obtain ⟨p, -, decimal⟩ := List.exists_of_findSome?_eq_some found
        exact digits_of_decimalOf? positive decimal

theorem toList_text_ne_nil (x : Double) : x.text.toList ≠ [] := by
  cases x with
  | finite negative m e => simp [text, textWith, digitsText_ne_nil]
  | infinite negative => cases negative <;> decide
  | nan => decide

end Double

namespace Json

theorem write_ne_nil (v : Json) : write shownStyle v ≠ [] := by
  cases v with
  | null => exact List.cons_ne_nil _ _
  | bool b => cases b <;> exact List.cons_ne_nil _ _
  | int n =>
    intro empty
    have nothing : n.repr = "" := String.toList_eq_nil_iff.1 empty
    rw [Int.repr_eq_if] at nothing
    split at nothing
    · exact Nat.repr_ne_empty nothing
    · simp at nothing
  | float x => exact x.toList_text_ne_nil
  | str s => exact List.cons_ne_nil _ _
  | arr xs => exact List.cons_ne_nil _ _
  | obj fs => exact List.cons_ne_nil _ _

/-- Only the empty text shows nothing. -/
theorem display_ne_empty {v : Json} (filled : v ≠ .str "") : v.display ≠ "" := by
  cases v with
  | str s => exact fun empty => filled (congrArg Json.str empty)
  | _ =>
    intro empty
    apply write_ne_nil _
    exact String.ofList_eq_empty_iff.1 empty

end Json

end Logbook
