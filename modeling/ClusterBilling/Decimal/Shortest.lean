import ClusterBilling.Decimal.Binary

/-!
# Shortest decimal text

The text of a number is the shortest decimal that reads back as that number: of all decimals in
its rounding interval one with the fewest digits, of those the nearest to the exact value, and of
two equally near ones the even one. How the digits are laid out is a second question, answered by
`Format`.
-/

namespace ClusterBilling.Decimal

/-- The decimal `digits · 10 ^ exponent`. -/
structure Scientific where
  digits : Nat
  exponent : Int
deriving Repr, DecidableEq

/-- How `a · 10 ^ i` compares with `n · 2 ^ j`, exactly. -/
def compareScaled (a : Nat) (i : Int) (n : Nat) (j : Int) : Ordering :=
  compare (a * Nat.pow 10 i.toNat * Nat.pow 2 (-j).toNat)
    (n * Nat.pow 2 j.toNat * Nat.pow 10 (-i).toNat)

/-- Whether a decimal rounds to the magnitude: it lies between the halfway points to both
neighbours, these included when the mantissa is even. -/
def Binary.readsBack (x : Binary) (d : Scientific) : Bool :=
  let low := if x.nearBelow then 4 * x.mantissa - 1 else 4 * x.mantissa - 2
  let closed := x.mantissa % 2 == 0
  let atLow := compareScaled d.digits d.exponent low (x.exponent - 2)
  let atHigh := compareScaled d.digits d.exponent (4 * x.mantissa + 2) (x.exponent - 2)
  (atLow == .gt || (closed && atLow == .eq)) && (atHigh == .lt || (closed && atHigh == .eq))

/-- The least `k` with magnitude below `10 ^ k`, for a magnitude above zero. -/
def Binary.scale (x : Binary) : Int :=
  let n := x.numerator
  let d := x.denominator
  if d ≤ n then (Decimal.digits (n / d)).length
  else
    let t := (Decimal.digits (d / n)).length
    if d ≤ n * Nat.pow 10 (t - 1) then 2 - t else 1 - t

/-- On the grid of multiples of `10 ^ exponent`, the neighbour of the magnitude that reads back,
the nearer of two. -/
def Binary.onGrid? (x : Binary) (exponent : Int) : Option Scientific :=
  let n := x.numerator * Nat.pow 10 (-exponent).toNat
  let d := x.denominator * Nat.pow 10 exponent.toNat
  let below : Scientific := ⟨n / d, exponent⟩
  let above : Scientific := ⟨n / d + 1, exponent⟩
  match 0 < below.digits && x.readsBack below, x.readsBack above with
  | true, true => some ⟨roundDiv n d, exponent⟩
  | true, false => some below
  | false, true => some above
  | false, false => none

/-- Moves the zeros at the end of the digits into the exponent. -/
def Scientific.strip (d : Scientific) : Scientific :=
  let zeros := ((Decimal.digits d.digits).reverse.takeWhile (· == '0')).length
  if d.digits = 0 then ⟨0, 0⟩ else ⟨d.digits / Nat.pow 10 zeros, d.exponent + zeros⟩

/-- The shortest decimal of a magnitude above zero. Seventeen digits always suffice. -/
def Binary.shortest (x : Binary) : Scientific :=
  let found := (List.range 17).findSome? fun (more : Nat) =>
    x.onGrid? (x.scale - ((more : Int) + 1))
  (found.getD ⟨x.numerator * Nat.pow 5 (-x.exponent).toNat, -((-x.exponent).toNat : Int)⟩).strip

/-- The decisions of a number format. -/
structure Format where
  /-- Positional notation needs the point at most this far right of the first digit. -/
  pointAtMost : Int
  /-- Positional notation needs the point more than this far left of the first digit. -/
  pointAbove : Int
  /-- The sign written before an exponent that is not negative. -/
  exponentPlus : String

/-- Digits with a point: positional within the bounds of the format, scientific beyond. A
positional whole number ends in `.0`, a single digit before an exponent stands alone. -/
def Format.layout (format : Format) (d : Scientific) : String :=
  let ds := Decimal.digits d.digits
  let point : Int := ds.length + d.exponent
  if point ≤ format.pointAtMost && 0 ≤ d.exponent then
    String.ofList (ds ++ List.replicate d.exponent.toNat '0' ++ ['.', '0'])
  else if point ≤ format.pointAtMost && 0 < point then
    String.ofList (ds.take point.toNat ++ '.' :: ds.drop point.toNat)
  else if point ≤ 0 && format.pointAbove < point then
    String.ofList ("0.".toList ++ List.replicate (-point).toNat '0' ++ ds)
  else
    let tail := ds.drop 1
    let front := ds.take 1 ++ (if tail.isEmpty then [] else '.' :: tail)
    let power := point - 1
    let sign := if 0 ≤ power then format.exponentPlus else "-"
    String.ofList front ++ "e" ++ sign ++ String.ofList (Decimal.digits power.natAbs)

/-- The text of a finite number in a format; infinities and not-a-numbers have none. -/
def Format.text? (format : Format) (x : Float) : Option String :=
  (Binary.ofFloat? x).map fun b =>
    let magnitude := if b.mantissa = 0 then "0.0" else format.layout b.shortest
    if b.negative then "-" ++ magnitude else magnitude

end ClusterBilling.Decimal
