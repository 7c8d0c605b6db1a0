import ClusterBilling.Decimal.Shortest

/-!
# Reading numbers

Numbers as people write them in tables and price lists: an optional sign, digits with an optional
point, an optional power of ten; or the words for infinity and not-a-number in any case. The value
is the nearest number of binary floating point; one too large becomes infinite.
-/

namespace ClusterBilling.Decimal

/-- The whole number a run of digits writes. -/
def natOfDigits (ds : List Char) : Nat := Nat.ofDigitChars 10 ds 0

/-- The number of binary floating point nearest to a decimal. The exponent is cut off where every
decimal of that length is infinite or zero. -/
def Scientific.toFloat (d : Scientific) : Float :=
  let magnitude := d.exponent + (Decimal.digits d.digits).length
  if d.digits = 0 then 0.0
  else if 400 < magnitude then 1.0 / 0.0
  else if magnitude < -400 then 0.0
  else if 0 ≤ d.exponent then Float.ofScientific d.digits false d.exponent.toNat
  else Float.ofScientific d.digits true d.exponent.natAbs

/-- A sign in front, if there is one, and what follows it. -/
def takeSign : List Char → Bool × List Char
  | '-' :: rest => (true, rest)
  | '+' :: rest => (false, rest)
  | cs => (false, cs)

/-- The power of ten behind the digits: nothing, or `e`, a sign and digits to the end. -/
def readPower : List Char → Option Int
  | [] => some 0
  | c :: rest =>
    if c = 'e' || c = 'E' then
      let (negative, ds) := takeSign rest
      if ds.isEmpty || !ds.all Char.isDigit then none
      else some (if negative then -(natOfDigits ds : Int) else natOfDigits ds)
    else none

/-- Digits with an optional point, at least one digit on either side of it, and an optional power
of ten, to the end of the text. -/
def readScientific (cs : List Char) : Option Scientific := do
  let whole := cs.takeWhile Char.isDigit
  let (fraction, rest) := match cs.dropWhile Char.isDigit with
    | '.' :: more => (more.takeWhile Char.isDigit, more.dropWhile Char.isDigit)
    | more => ([], more)
  if whole.isEmpty && fraction.isEmpty then none
  else
    let power ← readPower rest
    return ⟨natOfDigits (whole ++ fraction), power - fraction.length⟩

/-- **A number as text**, with no blanks around it. -/
def readFloat? (s : String) : Option Float :=
  let (negative, cs) := takeSign s.toList
  let word := String.ofList (cs.map Char.toLower)
  let magnitude :=
    if word = "inf" || word = "infinity" then some (1.0 / 0.0 : Float)
    else if word = "nan" then some (0.0 / 0.0)
    else (readScientific cs).map Scientific.toFloat
  magnitude.map fun x => if negative then -x else x

/-- A whole number below `bound`, as digits with an optional plus sign. -/
def readNat? (bound : Nat) (s : String) : Option Nat :=
  let cs := match s.toList with
    | '+' :: rest => rest
    | cs => cs
  if cs.isEmpty || !cs.all Char.isDigit then none
  else
    let n := natOfDigits cs
    if n < bound then some n else none

/-- What is written for a whole number reads back, if it is below the bound. -/
theorem readNat?_repr (bound n : Nat) :
    readNat? bound n.repr = if n < bound then some n else none := by
  have head : ∀ rest, Nat.toDigits 10 n ≠ '+' :: rest := by
    intro rest same
    have digit : ('+' : Char).isDigit = true :=
      Nat.isDigit_of_mem_toDigits (b := 10) (n := n) (by decide) (by decide) (by rw [same]; simp)
    exact absurd digit (by decide)
  have all : (Nat.toDigits 10 n).all Char.isDigit = true :=
    List.all_eq_true.mpr fun c mem =>
      Nat.isDigit_of_mem_toDigits (b := 10) (by decide) (by decide) mem
  have value : Nat.ofDigitChars 10 (Nat.toDigits 10 n) 0 = n := Nat.ofDigitChars_ten_toDigits
  unfold readNat?
  rw [Nat.toList_repr]
  split
  next rest same => exact absurd same (head rest)
  next => simp [all, natOfDigits, value]

end ClusterBilling.Decimal
