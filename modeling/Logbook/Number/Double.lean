/-!
# Double-precision numbers

The 64-bit binary floating-point numbers as data: a sign, a mantissa below `2 ^ 53` and the
exponent of its last place. Every operation here is one exact quotient of natural numbers that
is rounded once, to the nearest double and in a tie to the even one, so that a result never
depends on a machine's arithmetic.
-/

namespace Logbook

/-- The natural number nearest to `n / d`; a half goes to the even neighbour. -/
def roundQuotient (n d : Nat) : Nat :=
  let q := n / d
  let r := n % d
  if 2 * r < d then q else if d < 2 * r then q + 1 else q + q % 2

/-- A double-precision number. A finite one is `mantissa * 2 ^ exponent` with a sign; its
exponent is at least -1074, and its mantissa has 53 bits unless the exponent is -1074. -/
inductive Double where
  | finite (negative : Bool) (mantissa : Nat) (exponent : Int)
  | infinite (negative : Bool)
  | nan
  deriving DecidableEq, Repr, Inhabited

namespace Double

/-- The exponent of the last place of the doubles around `n / d`, for positive `n` and `d`. -/
def placeOf (n d : Nat) : Int :=
  let k : Int := (n.log2 : Int) - d.log2
  let k := if n * Nat.pow 2 (-k).toNat < d * Nat.pow 2 k.toNat then k - 1 else k
  max (k - 52) (-1074)

/-- The double with this mantissa and exponent, or infinity beyond the largest exponent. -/
def pack (negative : Bool) (mantissa : Nat) (exponent : Int) : Double :=
  if 971 < exponent then .infinite negative else .finite negative mantissa exponent

/-- The double nearest to `n / d`, for a positive `d`. -/
def ofRatio (negative : Bool) (n d : Nat) : Double :=
  if n = 0 then .finite negative 0 (-1074)
  else
    let e := placeOf n d
    let m := roundQuotient (n * Nat.pow 2 (-e).toNat) (d * Nat.pow 2 e.toNat)
    if m = Nat.pow 2 53 then pack negative (Nat.pow 2 52) (e + 1) else pack negative m e

/-- The double nearest to an integer's quotient by a positive number. -/
def ofQuotient (n : Int) (d : Nat) : Double :=
  ofRatio (n < 0) n.natAbs d

/-- The double nearest to `digits * 10 ^ exponent`. -/
def ofDecimal (negative : Bool) (digits : Nat) (exponent : Int) : Double :=
  if digits = 0 then .finite negative 0 (-1074)
  else if 400 < exponent then .infinite negative
  else if exponent < -(400 + digits.log2 : Int) then .finite negative 0 (-1074)
  else ofRatio negative (digits * Nat.pow 10 exponent.toNat) (Nat.pow 10 (-exponent).toNat)

/-- A finite number's distance from zero as a quotient of two natural numbers. -/
def magnitude (mantissa : Nat) (exponent : Int) : Nat × Nat :=
  (mantissa * Nat.pow 2 exponent.toNat, Nat.pow 2 (-exponent).toNat)

/-- A number as a quotient of an integer by a positive number; none for infinities and NaN. -/
def ratio? : Double → Option (Int × Nat)
  | .finite negative m e =>
    let (n, d) := magnitude m e
    some (if negative then -n else n, d)
  | _ => none

/-- The product with a natural number. -/
def times (x : Double) (k : Nat) : Double :=
  match x with
  | .finite negative m e => let (n, d) := magnitude m e; ofRatio negative (n * k) d
  | .infinite negative => if k = 0 then .nan else .infinite negative
  | .nan => .nan

/-- The quotient by a positive natural number. -/
def quotient (x : Double) (k : Nat) : Double :=
  match x with
  | .finite negative m e => let (n, d) := magnitude m e; ofRatio negative n (d * k)
  | .infinite negative => .infinite negative
  | .nan => .nan

/-- The difference to a natural number. -/
def minus (x : Double) (k : Nat) : Double :=
  match x.ratio? with
  | some (n, d) => ofQuotient (n - k * d) d
  | none => x

/-- The product of two numbers. -/
def product : Double → Double → Double
  | .finite s m e, .finite t k f =>
    let (n, d) := magnitude m e
    let (p, q) := magnitude k f
    ofRatio (s != t) (n * p) (d * q)
  | .infinite s, .infinite t => .infinite (s != t)
  | .infinite s, .finite t m _ => if m = 0 then .nan else .infinite (s != t)
  | .finite s m _, .infinite t => if m = 0 then .nan else .infinite (s != t)
  | _, _ => .nan

/-- The integer part, toward zero; none for infinities and NaN. -/
def truncate? (x : Double) : Option Int :=
  x.ratio?.map fun (n, d) => n.tdiv d

/-- The least integer that is not below; none for infinities and NaN. -/
def ceil? (x : Double) : Option Int :=
  x.ratio?.map fun (n, d) => -((-n).fdiv d)

/-- The greatest integer that is not above; none for infinities and NaN. -/
def floor? (x : Double) : Option Int :=
  x.ratio?.map fun (n, d) => n.fdiv d

/-- Neither infinite nor NaN. -/
def isFinite : Double → Bool
  | .finite .. => true
  | _ => false

/-- One of the two zeros. -/
def isZero : Double → Bool
  | .finite _ m _ => m == 0
  | _ => false

/-- A finite number without a fraction. -/
def isWhole (x : Double) : Bool :=
  match x.ratio? with
  | some (n, d) => n % d == 0
  | none => false

end Double

/-- Where a number lies, for comparing numbers of different kinds. -/
inductive Magnitude where
  | below
  | at (numerator : Int) (denominator : Nat)
  | above

namespace Magnitude

/-- The place of an integer. -/
def ofInt (n : Int) : Magnitude := .at n 1

/-- The place of a double; NaN has none. -/
def ofDouble? : Double → Option Magnitude
  | .infinite true => some .below
  | .infinite false => some .above
  | .nan => none
  | x => x.ratio?.map fun (n, d) => .at n d

/-- Does the first number lie below the second? -/
def lt : Magnitude → Magnitude → Bool
  | .at n d, .at n' d' => n * d' < n' * d
  | .below, .below => false
  | .below, _ => true
  | .at .., .above => true
  | _, _ => false

end Magnitude

end Logbook
