/-!
# Binary floating point as exact numbers

A finite number of binary floating point is `± mantissa · 2 ^ exponent`. Rounding to decimal
places and choosing decimal digits are questions about that exact number, and every answer here
is computed on whole numbers.
-/

namespace ClusterBilling.Decimal

/-- A finite binary floating point number, taken apart. -/
structure Binary where
  negative : Bool
  mantissa : Nat
  exponent : Int
  /-- The number below is nearer than the number above, as right below a power of two. -/
  nearBelow : Bool
deriving Repr, DecidableEq

/-- The parts of a finite number; infinities and not-a-numbers have none. -/
def Binary.ofFloat? (x : Float) : Option Binary :=
  let bits := x.toBits
  let negative := bits >>> 63 == 1
  let field := ((bits >>> 52) &&& 0x7ff).toNat
  let fraction := (bits &&& 0xfffffffffffff).toNat
  if field = 0x7ff then none
  else if field = 0 then some ⟨negative, fraction, -1074, false⟩
  else some ⟨negative, Nat.pow 2 52 + fraction, (field : Int) - 1075, fraction == 0 && field > 1⟩

/-- The magnitude is `numerator / denominator`. -/
def Binary.numerator (x : Binary) : Nat := x.mantissa * Nat.pow 2 x.exponent.toNat

def Binary.denominator (x : Binary) : Nat := Nat.pow 2 (-x.exponent).toNat

/-- The whole number nearest to `n / d`; of two equally near ones the even one. -/
def roundDiv (n d : Nat) : Nat :=
  let q := n / d
  let r := n % d
  if 2 * r < d then q
  else if 2 * r = d then q + q % 2
  else q + 1

/-- The decimal digits of a whole number. -/
def digits (n : Nat) : List Char := Nat.toDigits 10 n

/-- A text of exactly `width` digits, zeros in front. -/
def padDigits (width n : Nat) : List Char :=
  let ds := digits n
  List.replicate (width - ds.length) '0' ++ ds

/-- **Fixed places.** The exact value rounded to `places` decimals, a tie to the even digit. The
sign of a negative number is written even when all digits are zero. -/
def fixed (places : Nat) (x : Float) : String :=
  match Binary.ofFloat? x with
  | none =>
    if x.isNaN then "NaN" else if x < 0 then "-inf" else "inf"
  | some b =>
    let scaled := roundDiv (b.numerator * Nat.pow 10 places) b.denominator
    let whole := digits (scaled / Nat.pow 10 places)
    let fraction := if places = 0 then [] else '.' :: padDigits places (scaled % Nat.pow 10 places)
    String.ofList ((if b.negative then ['-'] else []) ++ whole ++ fraction)

end ClusterBilling.Decimal
