import ClusterBilling.Decimal.Binary

/-!
# Durations

Waiting times, in whole nanoseconds, of fewer than `2 ^ 64` seconds. They meet binary floating
point in both directions, rounded to the nearest nanosecond on the way back, where a number that is
negative, too large or none at all has no duration. They are written in the largest unit in which
they are at least one.
-/

namespace ClusterBilling

/-- The nanoseconds of `2 ^ 64` seconds. -/
def Duration.limit : Nat := 18446744073709551616000000000

/-- A span of time that is not negative. -/
structure Duration where
  nanos : Nat
  fits : nanos < Duration.limit
deriving DecidableEq, Repr

namespace Duration

def zero : Duration := ⟨0, Nat.zero_lt_succ _⟩

instance : Inhabited Duration := ⟨zero⟩

/-- A number of nanoseconds, if a duration can hold it. -/
def ofNanos? (nanos : Nat) : Option Duration :=
  if fits : nanos < limit then some ⟨nanos, fits⟩ else none

theorem seconds_lt_limit (seconds : UInt64) : seconds.toNat * 1000000000 < limit :=
  Nat.mul_lt_mul_of_pos_right seconds.toNat_lt (Nat.zero_lt_succ _)

def ofSeconds (seconds : UInt64) : Duration :=
  ⟨seconds.toNat * 1000000000, seconds_lt_limit seconds⟩

/-- The longest span. -/
def longest : Duration := ⟨limit - 1, Nat.lt_succ_self _⟩

/-- In whole milliseconds, of which the last one may be begun. -/
def toMillis (d : Duration) : Nat := (d.nanos + 999999) / 1000000

/-- In seconds. Seconds and nanoseconds are converted apart and then added. -/
def toSeconds (d : Duration) : Float :=
  Float.ofNat (d.nanos / 1000000000) + Float.ofNat (d.nanos % 1000000000) / 1000000000.0

/-- **The nearest number of nanoseconds**, the even one of two, if there is such a duration. -/
def ofFloatSeconds? (seconds : Float) : Option Duration :=
  match Decimal.Binary.ofFloat? seconds with
  | some b =>
    if b.negative && b.mantissa != 0 then none
    else ofNanos? (Decimal.roundDiv (b.numerator * 1000000000) b.denominator)
  | none => none

/-- A whole part and a fraction of `places` digits without the zeros at its end. -/
def decimalText (places whole fraction : Nat) : String :=
  let ds := ((Decimal.padDigits places fraction).reverse.dropWhile (· == '0')).reverse
  String.ofList (Decimal.digits whole ++ (if ds.isEmpty then [] else '.' :: ds))

/-- The text in the largest of the units `s`, `ms`, `µs` and `ns` in which the value reaches one. -/
def text (d : Duration) : String :=
  let n := d.nanos
  if 1000000000 ≤ n then decimalText 9 (n / 1000000000) (n % 1000000000) ++ "s"
  else if 1000000 ≤ n then decimalText 6 (n / 1000000) (n % 1000000) ++ "ms"
  else if 1000 ≤ n then decimalText 3 (n / 1000) (n % 1000) ++ "µs"
  else decimalText 0 n 0 ++ "ns"

end Duration

end ClusterBilling
