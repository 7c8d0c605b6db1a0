import Mathlib.Algebra.BigOperators.Group.List.Basic
import Mathlib.Algebra.Order.Field.Rat
import Mathlib.Tactic.NormNum
import Mathlib.Tactic.Ring
import ClusterBilling.Time.Instant

/-!
# Exact arithmetic

The rules of billing read over rational numbers: nothing is rounded, and the sum of no amounts is
nothing. What a rule means, apart from rounding, is what it says here. A total that is kept up from
nothing on (`Amount.running`) depends on the order of its amounts wherever sums are rounded; here it
is their sum (`Amount.running_rat`).

Instants have a place on one scale of seconds, `Instant.seconds`. **The time between two instants
is the difference of their places** (`secondsBetween_eq`) where both are whole microseconds outside
leap seconds and not too far apart (`Instant.Timely`). Without one of these the law fails: a part
of a microsecond is dropped, a leap second counts only for some pairs of instants, and beyond 64
bits only whole seconds count.
-/

namespace ClusterBilling

/-- **Rational numbers.** -/
instance : Amount ℚ where
  ofInt n := n
  emptySum := 0

namespace Amount

variable {α : Type} [Amount α]

/-- The sum of amounts from nothing on, from left to right. -/
def running (amounts : List α) : α := amounts.foldl (· + ·) zero

theorem running_append (first second : List α) :
    running (first ++ second) = second.foldl (· + ·) (running first) :=
  List.foldl_append ..

@[simp] theorem zero_rat : (zero : ℚ) = 0 := by
  show (0.0 : ℚ) = 0
  norm_num

theorem sum_rat (amounts : List ℚ) : sum amounts = amounts.sum :=
  List.sum_eq_foldl.symm

theorem running_rat (amounts : List ℚ) : running amounts = amounts.sum := by
  rw [running, zero_rat]
  exact List.sum_eq_foldl.symm

end Amount

namespace Instant

/-- Microseconds since 1970, those that were only begun left out. -/
def micros (t : Instant) : Int := (t.day * 86400 + t.second) * 1000000 + (t.nano / 1000 : Nat)

/-- The place of an instant on the scale of seconds. -/
def seconds (t : Instant) : ℚ := t.micros / 1000000

/-- Whether an instant is a whole microsecond outside a leap second. -/
structure IsWhole (t : Instant) : Prop where
  ordinary : t.nano < 1000000000
  micro : t.nano % 1000 = 0

instance (t : Instant) : Decidable t.IsWhole :=
  decidable_of_iff (t.nano < 1000000000 ∧ t.nano % 1000 = 0)
    ⟨fun both => ⟨both.1, both.2⟩, fun whole => ⟨whole.ordinary, whole.micro⟩⟩

/-- **Whether some timestamps can be reckoned with exactly**: each is a whole microsecond outside a
leap second, and any two are less than 2⁶³ microseconds apart. -/
structure Timely (timestamps : List Instant) : Prop where
  whole : ∀ t ∈ timestamps, t.IsWhole
  near : ∀ s ∈ timestamps, ∀ t ∈ timestamps, t.micros - s.micros < 9223372036854775808

instance (timestamps : List Instant) : Decidable (Timely timestamps) :=
  decidable_of_iff ((∀ t ∈ timestamps, t.IsWhole)
      ∧ ∀ s ∈ timestamps, ∀ t ∈ timestamps, t.micros - s.micros < 9223372036854775808)
    ⟨fun both => ⟨both.1, both.2⟩, fun timely => ⟨timely.whole, timely.near⟩⟩

theorem nanosSince_eq {s t : Instant} (start : s.IsWhole) (stop : t.IsWhole) :
    t.nanosSince s = (t.micros - s.micros) * 1000 := by
  have noLeap : leapSeconds t s = 0 := by
    have first : ¬ 1000000000 ≤ s.nano := Nat.not_le.mpr start.ordinary
    have second : ¬ 1000000000 ≤ t.nano := Nat.not_le.mpr stop.ordinary
    simp [leapSeconds, first, second]
  have firstMicro := start.micro
  have secondMicro := stop.micro
  unfold nanosSince micros
  rw [noLeap]
  omega

end Instant

variable {timestamps : List Instant}

/-- **The time between two timestamps** is the difference of their places. -/
theorem secondsBetween_eq (timely : Instant.Timely timestamps) {s t : Instant}
    (start : s ∈ timestamps) (stop : t ∈ timestamps) :
    (secondsBetween s t : ℚ) = t.seconds - s.seconds := by
  have nanos := Instant.nanosSince_eq (timely.whole s start) (timely.whole t stop)
  have micros : (t.nanosSince s).tdiv 1000 = t.micros - s.micros := by
    rw [nanos]
    exact Int.mul_tdiv_cancel _ (by decide)
  have fits : fitsSigned64 (t.micros - s.micros) = true := by
    have later := timely.near s start t stop
    have earlier := timely.near t stop s start
    simp only [fitsSigned64, Bool.and_eq_true, decide_eq_true_eq]
    omega
  unfold secondsBetween
  simp only [micros, fits, if_true]
  show ((t.micros - s.micros : ℤ) : ℚ) / 1000000.0 = _
  rw [Instant.seconds, Instant.seconds]
  push_cast
  norm_num
  ring

end ClusterBilling
