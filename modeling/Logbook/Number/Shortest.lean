import Logbook.Number.Double

/-!
# The shortest decimal of a double

A double is written with the fewest significant digits that read back to it and, among those,
with the ones nearest to its value. `Double.shortest` finds the digits; `Double.text` lays
them out: positionally from `0.0001` up to below `10 ^ 16`, and with an exponent of at least two
digits outside.
-/

namespace Logbook

/-- Is `10 ^ k` at most `n / d`? -/
def powerLe (k : Int) (n d : Nat) : Bool :=
  Nat.pow 10 k.toNat * d ≤ n * Nat.pow 10 (-k).toNat

/-- The exponent of the first significant decimal digit of `n / d`, for positive `n` and `d`. -/
def decimalPlace (n d : Nat) : Int :=
  let guess : Int := ((n.log2 : Int) - d.log2) * 30103 / 100000
  (([2, 1, 0, -1] : List Int).find? fun k => powerLe (guess + k) n d).elim (guess - 2) (guess + ·)

/-- The natural number below `(n / d) / 10 ^ k`, and what that leaves, as a numerator over the
second part's denominator. -/
def cutAt (n d : Nat) (k : Int) : Nat × Nat × Nat :=
  let n' := n * Nat.pow 10 (-k).toNat
  let d' := d * Nat.pow 10 k.toNat
  (n' / d', n' % d', d')

/-- Decimal digits and the exponent of the last one, without zeros at the end. -/
structure Decimal where
  digits : List Char
  exponent : Int

namespace Decimal

/-- The digits of `c` at the place `k`, less the zeros at the end. -/
def ofNat (c : Nat) (k : Int) : Decimal :=
  let ds := Nat.toDigits 10 c
  let kept := (ds.reverse.dropWhile (· == '0')).reverse
  ⟨kept, k + (ds.length - kept.length : Nat)⟩

/-- The exponent of the first digit. -/
def leading (x : Decimal) : Int :=
  x.exponent + x.digits.length - 1

/-- The digits with a decimal point at its place, and `.0` where there is no fraction. -/
def positional (x : Decimal) : List Char :=
  let n : Int := x.digits.length
  if x.leading < 0 then
    '0' :: '.' :: List.replicate (-x.leading - 1).toNat '0' ++ x.digits
  else if 0 ≤ x.exponent then
    x.digits ++ List.replicate x.exponent.toNat '0' ++ ['.', '0']
  else
    x.digits.take (n + x.exponent).toNat ++ '.' :: x.digits.drop (n + x.exponent).toNat

/-- An exponent with its sign and at least two digits. -/
def exponentText (e : Int) : List Char :=
  let ds := Nat.toDigits 10 e.natAbs
  'e' :: (if e < 0 then '-' else '+') :: (if ds.length < 2 then '0' :: ds else ds)

/-- The first digit, a point and the others, and the exponent; `fraction` stands for no others. -/
def scientific (fraction : List Char) (x : Decimal) : List Char :=
  match x.digits with
  | [] => []
  | [c] => c :: fraction ++ exponentText x.leading
  | c :: r => c :: '.' :: r ++ exponentText x.leading

end Decimal

namespace Double

/-- The decimal with `p` significant digits that reads back to a finite double and lies nearest
to it, if there is one. -/
def decimalOf? (p : Nat) (mantissa : Nat) (exponent : Int) : Option Decimal :=
  let (n, d) := magnitude mantissa exponent
  let k := decimalPlace n d - p + 1
  let (q, r, unit) := cutAt n d k
  let reads (c : Nat) := ofDecimal false c k == .finite false mantissa exponent
  let near := if 2 * r < unit || (2 * r == unit && q % 2 == 0) then [q, q + 1] else [q + 1, q]
  (near.find? reads).map fun c => Decimal.ofNat c k

/-- The shortest decimal that reads back to a finite double other than zero. Seventeen digits
always do. -/
def shortest (mantissa : Nat) (exponent : Int) : Decimal :=
  ((List.range 17).findSome? fun p => decimalOf? (p + 1) mantissa exponent).getD ⟨[], 0⟩

/-- A finite number without its sign. -/
def digitsText (mantissa : Nat) (exponent : Int) : List Char :=
  if mantissa = 0 then ['0', '.', '0']
  else
    let x := shortest mantissa exponent
    if -4 ≤ x.leading && x.leading < 16 then x.positional else x.scientific []

/-- A number as text, with the given words for infinity and NaN. -/
def textWith (infinity notNumber : String) : Double → String
  | .finite negative m e => String.ofList ((if negative then ['-'] else []) ++ digitsText m e)
  | .infinite negative => (if negative then "-" else "") ++ infinity
  | .nan => notNumber

/-- A number as text. -/
def text (x : Double) : String :=
  x.textWith "inf" "nan"

end Double

end Logbook
