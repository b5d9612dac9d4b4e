/-!
# Base64

Three bytes become four characters of an alphabet of 64; what is left at the end is filled up
with equals signs.
-/

namespace Logbook.Digest

/-- The character of a value below 64. -/
def sixBits (n : Nat) : Char :=
  if n < 26 then Char.ofNat (65 + n)
  else if n < 52 then Char.ofNat (71 + n)
  else if n < 62 then Char.ofNat (n - 4)
  else if n = 62 then '+' else '/'

/-- Bytes in base 64. -/
def base64 : List UInt8 → List Char
  | a :: b :: c :: r =>
    let n := 65536 * a.toNat + 256 * b.toNat + c.toNat
    sixBits (n / 262144) :: sixBits (n / 4096 % 64) :: sixBits (n / 64 % 64) :: sixBits (n % 64) ::
      base64 r
  | [a, b] =>
    let n := 1024 * a.toNat + 4 * b.toNat
    [sixBits (n / 4096), sixBits (n / 64 % 64), sixBits (n % 64), '=']
  | [a] =>
    let n := 16 * a.toNat
    [sixBits (n / 64), sixBits (n % 64), '=', '=']
  | [] => []

end Logbook.Digest
