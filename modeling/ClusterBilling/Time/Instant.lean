import ClusterBilling.Time.Calendar
import ClusterBilling.Arithmetic

/-!
# Instants

An instant is a day, a second of that day and nanoseconds, in universal time, within a bounded
span of years. A leap second is the second before it held on: nanoseconds of a thousand million
and more, allowed only at the last second of a minute.

The order is that of day, second and nanosecond. It is one number, the `stamp`, so that every
fact about the order is a fact about whole numbers. The difference of two instants counts a leap
second only where one of the two lies within it and the other at a different second.
-/

namespace ClusterBilling

/-- Nanoseconds in a second. -/
def nanosPerSecond : Nat := 1000000000

/-- An instant of universal time. -/
structure Instant where
  /-- Days since 1970-01-01. -/
  day : Int
  /-- Seconds since midnight. -/
  second : Nat
  /-- Nanoseconds since the second began; more than a second's worth within a leap second. -/
  nano : Nat
  /-- From the first day of the year -262143 to the last of the year 262142. -/
  day_range : -96465292 ≤ day ∧ day ≤ 95026236
  second_lt : second < 86400
  nano_lt : nano < 2000000000
  leap_last : 1000000000 ≤ nano → second % 60 = 59
deriving DecidableEq

namespace Instant

/-- Midnight of 1970-01-01. -/
def epoch : Instant := ⟨0, 0, 0, by decide, by decide, by decide, by decide⟩

/-- The instant of the parts, if they are in range. -/
def ofParts? (day : Int) (second nano : Nat) : Option Instant :=
  if h : (-96465292 ≤ day ∧ day ≤ 95026236) ∧ second < 86400 ∧ nano < 2000000000
      ∧ (1000000000 ≤ nano → second % 60 = 59) then
    some ⟨day, second, nano, h.1, h.2.1, h.2.2.1, h.2.2.2⟩
  else none

/-- The place of an instant in the order: no two instants share one. -/
def stamp (t : Instant) : Int := (t.day * 86400 + t.second) * 2000000000 + t.nano

theorem stamp_injective {a b : Instant} (same : a.stamp = b.stamp) : a = b := by
  obtain ⟨da, sa, na, _, hsa, hna, _⟩ := a
  obtain ⟨db, sb, nb, _, hsb, hnb, _⟩ := b
  simp only [stamp] at same
  have : na = nb := by omega
  have : sa = sb := by omega
  have : da = db := by omega
  subst_vars
  rfl

instance : LT Instant := ⟨fun a b => a.stamp < b.stamp⟩

instance : LE Instant := ⟨fun a b => a.stamp ≤ b.stamp⟩

instance (a b : Instant) : Decidable (a < b) := inferInstanceAs (Decidable (a.stamp < b.stamp))

instance (a b : Instant) : Decidable (a ≤ b) := inferInstanceAs (Decidable (a.stamp ≤ b.stamp))

theorem lt_def {a b : Instant} : a < b ↔ a.stamp < b.stamp := Iff.rfl

theorem le_def {a b : Instant} : a ≤ b ↔ a.stamp ≤ b.stamp := Iff.rfl

instance : Ord Instant := ⟨fun a b => compare a.stamp b.stamp⟩

theorem compare_def (a b : Instant) : compare a b = compare a.stamp b.stamp := rfl

instance : Std.TransOrd Instant where
  eq_swap := fun {a b} => Std.OrientedOrd.eq_swap (a := a.stamp) (b := b.stamp)
  isLE_trans := fun {a b c} => Std.TransOrd.isLE_trans (a := a.stamp) (b := b.stamp) (c := c.stamp)

instance : Std.LawfulEqOrd Instant where
  compare_self := fun {a} => Std.ReflOrd.compare_self (a := a.stamp)
  eq_of_compare := fun same => stamp_injective (Std.LawfulEqOrd.eq_of_compare same)

/-- The earlier of two instants. -/
def earlier (a b : Instant) : Instant := if b < a then b else a

/-- The later of two instants. -/
def later (a b : Instant) : Instant := if a < b then b else a

/-- The second counted for the leap second that one of two instants lies in. -/
def leapSeconds (a b : Instant) : Int :=
  if b.second < a.second && 1000000000 ≤ b.nano then 1
  else if a.second < b.second && 1000000000 ≤ a.nano then -1
  else 0

/-- **The time from `b` to `a`**, in nanoseconds. -/
def nanosSince (a b : Instant) : Int :=
  ((a.day - b.day) * 86400 + ((a.second : Int) - b.second) + leapSeconds a b) * 1000000000
    + ((a.nano : Int) - b.nano)

end Instant

/-- Microseconds that fit a signed 64-bit number. -/
def fitsSigned64 (n : Int) : Bool := -9223372036854775808 ≤ n && n ≤ 9223372036854775807

/-- **Seconds between two instants**, counted in whole microseconds toward zero; in whole seconds
where the microseconds outgrow 64 bits. -/
def secondsBetween {α : Type} [Amount α] (start stop : Instant) : α :=
  let nanos := stop.nanosSince start
  let micros := nanos.tdiv 1000
  if fitsSigned64 micros then Amount.ofInt micros / 1000000.0
  else Amount.ofInt (nanos.tdiv 1000000000)

/-- What a price per hour comes to over a number of seconds. -/
def hourlyCost {α : Type} [Amount α] (seconds price : α) : α := seconds * price / 3600.0

end ClusterBilling
