/-!
# Decimal numbers and their binary readings

A number written with a fraction or an exponent is kept as the decimal it spells. Where its value
counts, it is read as a binary floating-point number of 53 significant bits: the nearest one, and of
two equally near ones the one whose last bit is zero.
-/

namespace NearMiss

/-- The number `± digits · 10 ^ exponent`. -/
structure Decimal where
  /-- Whether a minus sign stands before it. -/
  negative : Bool
  /-- Its digits as one natural number. -/
  digits : Nat
  /-- The power of ten that scales them. -/
  exponent : Int
  deriving DecidableEq, Repr

/-- A binary reading: a whole multiple of a power of two, or too large to be one. -/
inductive Binary64 where
  /-- The number `significand · 2 ^ exponent`. -/
  | finite (significand : Int) (exponent : Int)
  /-- A number past the largest finite one. -/
  | infinite
  deriving DecidableEq, Repr

/-- The quotient rounded to the nearest whole number, a half going to the even neighbour. -/
def roundDiv (num den : Nat) : Nat :=
  let q := num / den
  let twice := 2 * (num % den)
  if twice < den then q
  else if den < twice then q + 1
  else q + q % 2

namespace Binary64

/-- The smallest exponent of a binary reading. -/
def minExponent : Int := -1074

/-- The positive number `num / den` in binary. -/
def ofQuotient (num den : Nat) : Nat × Int :=
  let guess : Int := (num.log2 : Int) - den.log2
  let scaled (e : Int) : Nat × Nat := (num * Nat.pow 2 (-e).toNat, den * Nat.pow 2 e.toNat)
  let (n, d) := scaled guess
  let log := if d ≤ n then guess else guess - 1
  let e := max (log - 52) minExponent
  let (n, d) := scaled e
  (roundDiv n d, e)

/-- The whole number that a binary reading is, if it is one. -/
def toInt? : Binary64 → Option Int
  | .infinite => none
  | .finite m e =>
    if 0 ≤ e then some (m * Int.pow 2 e.toNat)
    else if m % Int.pow 2 (-e).toNat = 0 then some (m / Int.pow 2 (-e).toNat)
    else none

end Binary64

namespace Decimal

/-- The binary reading of a decimal. Magnitudes that are out of range at first sight are settled
without writing their powers of ten out. -/
def toBinary64 (d : Decimal) : Binary64 :=
  let size := (Nat.toDigits 10 d.digits).length + d.exponent
  if d.digits = 0 || size < -330 then .finite 0 0
  else if 310 < size then .infinite
  else
    let (m, e) := Binary64.ofQuotient (d.digits * Nat.pow 10 d.exponent.toNat)
      (Nat.pow 10 (-d.exponent).toNat)
    if Nat.pow 2 1024 ≤ m * Nat.pow 2 e.toNat then .infinite
    else .finite (if d.negative then -m else m) e

end Decimal

end NearMiss
