import Logbook.Fault
import Logbook.Json.Reader
import Logbook.Number.Extended
import Logbook.Number.Shortest
import Logbook.Number.Word

/-!
# Columns

What a table takes. A text column turns numbers into texts, with fifteen significant digits, and
takes no list or object; an integer column takes 64 bits. A column of JSON keeps texts of JSON, but
a text that writes a number alone is kept as that number: as an integer if it is one of 64 bits,
else as a double.

Both conversions of numbers compute in extended precision, one operation after the other, so their
last digits are those of that computation and not always the nearest ones.
-/

namespace Logbook.Column

/-- The nearest extended-precision number to a double that a decimal writes. -/
def constant (digits : Nat) (exponent : Int) : Extended :=
  .ofDouble (.ofDecimal false digits exponent)

/-- The product of `scale` with as many factors `10 ^ k` as the number `x` has room for, and the
exponent of ten that goes with it. -/
def raise (x factor : Extended) (k : Int) : Nat → Extended × Int → Extended × Int
  | 0, p => p
  | fuel + 1, (scale, e) =>
    let next := factor.mul scale
    if next.le x && e ≤ 350 then raise x factor k fuel (next, e + k) else (scale, e)

/-- The number multiplied by `10 ^ k` until it is at least `least`. -/
def lift (least factor : Extended) (k : Int) : Nat → Extended × Int → Extended × Int
  | 0, p => p
  | fuel + 1, (x, e) =>
    if least.le x then (x, e) else lift least factor k fuel (x.mul factor, e - k)

/-- A positive number as one from 1 to below 10, and the exponent of ten that goes with it. -/
def normal (x : Extended) : Extended × Int :=
  let (scale, e) := raise x (constant 1 100) 100 4 (.ofNat 1, 0)
  let (scale, e) := raise x (constant 1 10) 10 10 (scale, e)
  let (scale, e) := raise x (constant 1 1) 1 10 (scale, e)
  let p := lift (constant 1 (-8)) (constant 1 8) 8 50 (x.div scale, e)
  lift (constant 1 0) (constant 1 1) 1 10 p

/-- The number whose decimal digits are the next `n` digits of `x`, behind those of `acc`. -/
def digitsOf : Nat → Nat → Extended → Nat
  | 0, acc, _ => acc
  | n + 1, acc, x =>
    let d := x.floor
    digitsOf n (10 * acc + d) ((x.sub (.ofNat d)).mul (.ofNat 10))

/-- A positive double in decimal, with fifteen digits. -/
def significant (mantissa : Nat) (exponent : Int) : Decimal :=
  let (x, e) := normal (.ofDouble (.finite false mantissa exponent))
  let x := x.add ((constant 5 (-5)).mul (constant 1 (-10)))
  let (x, e) := if (constant 10 0).le x then (x.mul (constant 1 (-1)), e + 1) else (x, e)
  Decimal.ofNat (digitsOf 15 0 x) (e - 14)

/-- A finite number in a text column, where zero has no sign. -/
def numberText (negative : Bool) (mantissa : Nat) (exponent : Int) : String :=
  if mantissa = 0 then "0.0"
  else
    let x := significant mantissa exponent
    let s := if -4 ≤ x.leading && x.leading < 15 then x.positional else x.scientific ['.', '0']
    String.ofList (if negative then '-' :: s else s)

/-- A number for an integer column. -/
def integer (n : Int) : Except Fault Int :=
  if Word.holds n then .ok n else .error .outOfRange

/-- What a text column makes of a value. -/
def text : Json → Except Fault Json
  | .null => .ok .null
  | .str s => .ok (.str s)
  | .bool b => .ok (.str (if b then "1" else "0"))
  | .int n => (fun n => .str (toString n)) <$> integer n
  | .float .nan => .ok .null
  | .float (.infinite negative) => .ok (.str (if negative then "-Inf" else "Inf"))
  | .float (.finite negative m e) => .ok (.str (numberText negative m e))
  | .arr _ => .error .column
  | .obj _ => .error .column

/-- From here on no more digits are taken into the significand of a number. -/
def fullSignificand : Nat := 922337203685477579

/-- The significand with the digits before the point, as long as it has room for them, and the
number of those left over. -/
def wholeDigits : Nat → List Char → Nat × Nat
  | s, [] => (s, 0)
  | s, c :: r =>
    let s := 10 * s + (c.toNat - 48)
    if fullSignificand ≤ s then (s, r.length) else wholeDigits s r

/-- The significand with the digits behind the point, as long as it has room for them, and the
number of those taken. -/
def fractionDigits : Nat → Nat → List Char → Nat × Nat
  | s, n, [] => (s, n)
  | s, n, c :: r =>
    if s < fullSignificand then fractionDigits (10 * s + (c.toNat - 48)) (n + 1) r else (s, n)

/-- A significand and an exponent of ten above zero, as much as possible of it moved into the
significand. -/
def absorbed : Nat → Nat → Nat × Nat
  | s, 0 => (s, 0)
  | s, e + 1 => if fullSignificand < s then (s, e + 1) else absorbed (10 * s) e

/-- A significand and an exponent of ten below zero, as many zeros as possible moved out of the
significand. -/
def stripped : Nat → Nat → Nat × Nat
  | s, 0 => (s, 0)
  | s, e + 1 => if s % 10 ≠ 0 then (s, e + 1) else stripped (s / 10) e

/-- The double nearest to `10 ^ 308`, which is a natural number. -/
def hugeFactor : Nat :=
  match Double.ofDecimal false 1 308 with
  | .finite _ m e => (Double.magnitude m e).1
  | _ => 1

/-- The double that `s * 10 ^ e` is read as. -/
def scaled (negative : Bool) (s : Nat) (e : Int) : Double :=
  if s = 0 then .finite negative 0 (-1074)
  else if 0 ≤ e then
    match absorbed s e.toNat with
    | (s, 0) => .ofRatio negative s 1
    | (s, e) =>
      if 342 ≤ e then .infinite negative
      else if 307 < e then
        (((Extended.ofNat s).mul (.powTen (e - 308))).toDouble negative).times hugeFactor
      else ((Extended.ofNat s).mul (.powTen e)).toDouble negative
  else
    match stripped s (-e).toNat with
    | (s, 0) => .ofRatio negative s 1
    | (s, e) =>
      if 342 ≤ e then .finite negative 0 (-1074)
      else if 307 < e then
        (((Extended.ofNat s).div (.powTen (e - 308))).toDouble negative).quotient hugeFactor
      else ((Extended.ofNat s).div (.powTen e)).toDouble negative

/-- The double that a decimal without a sign is read as: digits, and behind them a point and more
digits, and an exponent. -/
def readDouble (negative : Bool) (s : List Char) : Double :=
  let (ds, r) := Json.Reader.digits s
  let (fs, r) := (Json.Reader.fraction? r).getD ([], r)
  let e := (Json.Reader.exponent? r).elim 0 (·.1)
  let (n, left) := wholeDigits 0 ds
  let (n, taken) := fractionDigits n 0 fs
  scaled negative n (e + left - taken)

/-- A double in a column that prefers integers. -/
def settled (x : Double) : Json :=
  match x.truncate? with
  | some n => if x.isWhole && Word.holds n && Word.holds (-n) then .int n else .float x
  | none => .float x

/-- What a column of JSON makes of a value. -/
def json : Json → Json
  | .int n =>
    if Word.holds n then .int n else settled (readDouble (n < 0) (Nat.toDigits 10 n.natAbs))
  | .float (.finite negative m e) => settled (readDouble negative (Double.digitsText m e))
  | v => v

end Logbook.Column
