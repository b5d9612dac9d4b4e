import Logbook.Number.Double

/-!
# Extended-precision numbers

Numbers from zero up with mantissas of 64 bits. As with doubles, every operation is one exact
quotient of natural numbers that is rounded once, to the nearest number and in a tie to the even
one. Exponents are not limited here.
-/

namespace Logbook

/-- The number `mantissa * 2 ^ exponent`. Its mantissa has 64 bits unless it is zero. -/
structure Extended where
  mantissa : Nat
  exponent : Int
  deriving DecidableEq, Repr

namespace Extended

/-- The number nearest to `n / d`, for a positive `d`. -/
def ofRatio (n d : Nat) : Extended :=
  if n = 0 then ⟨0, 0⟩
  else
    let k : Int := (n.log2 : Int) - d.log2
    let k := if n * Nat.pow 2 (-k).toNat < d * Nat.pow 2 k.toNat then k - 1 else k
    let e := k - 63
    let m := roundQuotient (n * Nat.pow 2 (-e).toNat) (d * Nat.pow 2 e.toNat)
    if m = Nat.pow 2 64 then ⟨Nat.pow 2 63, e + 1⟩ else ⟨m, e⟩

/-- The number nearest to a natural number. -/
def ofNat (n : Nat) : Extended :=
  ofRatio n 1

/-- A finite double without its sign; zero for the others. -/
def ofDouble : Double → Extended
  | .finite _ m e => let (n, d) := Double.magnitude m e; ofRatio n d
  | _ => ⟨0, 0⟩

/-- The number as a quotient of two natural numbers. -/
def ratio (x : Extended) : Nat × Nat :=
  Double.magnitude x.mantissa x.exponent

/-- The product. -/
def mul (x y : Extended) : Extended :=
  ofRatio (x.ratio.1 * y.ratio.1) (x.ratio.2 * y.ratio.2)

/-- The quotient by a number other than zero. -/
def div (x y : Extended) : Extended :=
  ofRatio (x.ratio.1 * y.ratio.2) (x.ratio.2 * y.ratio.1)

/-- The sum. -/
def add (x y : Extended) : Extended :=
  ofRatio (x.ratio.1 * y.ratio.2 + y.ratio.1 * x.ratio.2) (x.ratio.2 * y.ratio.2)

/-- The difference, zero where the second number is greater. -/
def sub (x y : Extended) : Extended :=
  ofRatio (x.ratio.1 * y.ratio.2 - y.ratio.1 * x.ratio.2) (x.ratio.2 * y.ratio.2)

/-- Is the first number at most the second? -/
def le (x y : Extended) : Bool :=
  x.ratio.1 * y.ratio.2 ≤ y.ratio.1 * x.ratio.2

/-- The greatest natural number that is not above. -/
def floor (x : Extended) : Nat :=
  x.ratio.1 / x.ratio.2

/-- The nearest double, with a sign. -/
def toDouble (negative : Bool) (x : Extended) : Double :=
  Double.ofRatio negative x.ratio.1 x.ratio.2

/-- The product of the powers `10 ^ (2 ^ i)` for the bits `i` of `n`, from the lowest one up; each
power is the square of the one before. -/
def powTenFrom (power acc : Extended) (n : Nat) : Extended :=
  if n ≤ 1 then (if n = 1 then acc.mul power else acc)
  else powTenFrom (power.mul power) (if n % 2 = 1 then acc.mul power else acc) (n / 2)
termination_by n

/-- A power of ten. -/
def powTen (n : Nat) : Extended :=
  powTenFrom (ofNat 10) (ofNat 1) n

end Extended

end Logbook
