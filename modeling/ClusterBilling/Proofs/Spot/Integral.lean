import ClusterBilling.Proofs.OrderedMap
import ClusterBilling.Spot.History

/-!
# What the cost of an interval depends on

The cost of an interval under a price curve is known from the price that holds when the interval
begins and from the observations inside it (`integrate_eq_curveCost`). What else a history holds,
earlier or later, does not count, so two histories that agree on those two price the interval
alike (`integrate_congr`).

An interval that begins on an observation needs no price before it: the price until that
observation is charged for no time (`integrate_eq_of_observed`). That this adds nothing is a matter
of the arithmetic, and so is whether the sum of one product is that product.
-/

namespace ClusterBilling

namespace Instant

theorem not_le {a b : Instant} : ¬ a ≤ b ↔ b < a := Int.not_le

theorem not_lt {a b : Instant} : ¬ a < b ↔ b ≤ a := Int.not_lt

theorem lt_irrefl (a : Instant) : ¬ a < a := Int.lt_irrefl _

theorem lt_trans {a b c : Instant} : a < b → b < c → a < c := Int.lt_trans

theorem le_refl (a : Instant) : a ≤ a := Int.le_refl _

theorem le_of_lt {a b : Instant} : a < b → a ≤ b := Int.le_of_lt

theorem le_trans {a b c : Instant} : a ≤ b → b ≤ c → a ≤ c := Int.le_trans

theorem le_antisymm {a b : Instant} (first : a ≤ b) (second : b ≤ a) : a = b :=
  stamp_injective (Int.le_antisymm first second)

theorem compare_eq_lt {a b : Instant} : compare a b = .lt ↔ a < b := by
  rw [compare_def, Std.compare_eq_lt, lt_def]

end Instant

namespace History

variable {α : Type}

/-- The observations before an instant. -/
def before (h : History α) (start : Instant) : List (Instant × α) :=
  h.points.toList.filter fun point => decide (point.1 < start)

/-- The observations from one instant up to another. -/
def during (h : History α) (start stop : Instant) : List (Instant × α) :=
  h.points.toList.filter fun point => decide (start ≤ point.1) && decide (point.1 < stop)

/-- The price that holds until an observation at or after `start`, if one was observed. -/
def priceBefore? (h : History α) (start : Instant) : Option α :=
  (h.before start).getLast?.map Prod.snd

theorem ascending (h : History α) : h.points.toList.Pairwise fun a b => a.1 < b.1 :=
  h.points.ascending.imp Instant.compare_eq_lt.mp

theorem mem_during {h : History α} {start stop : Instant} {point : Instant × α} :
    point ∈ h.during start stop ↔ point ∈ h.points.toList ∧ start ≤ point.1 ∧ point.1 < stop := by
  simp [during]

/-- An observation at the start of an interval is the first one in it. -/
theorem during_eq_cons {h : History α} {start stop : Instant} {price : α}
    (held : (start, price) ∈ h.points.toList) (ordered : start < stop) :
    ∃ rest, h.during start stop = (start, price) :: rest := by
  have mem : (start, price) ∈ h.during start stop :=
    mem_during.mpr ⟨held, Int.le_refl _, ordered⟩
  have ascending : (h.during start stop).Pairwise fun a b => a.1 < b.1 := h.ascending.filter _
  have late : ∀ point ∈ h.during start stop, start ≤ point.1 := fun point inside =>
    (mem_during.mp inside).2.1
  cases listed : h.during start stop with
  | nil => simp [listed] at mem
  | cons first rest =>
    rw [listed] at mem ascending late
    rcases List.mem_cons.mp mem with same | behind
    · exact ⟨rest, same ▸ rfl⟩
    · have early := (List.pairwise_cons.mp ascending).1 _ behind
      exact absurd early (Instant.not_lt.mpr (late first List.mem_cons_self))

/-! ## Cutting the list of observations -/

section Cutting

variable {β : Type} {p : β → Bool} {l : List β}

theorem takeWhile_eq_filter (front : l.Pairwise fun a b => p b → p a) :
    l.takeWhile p = l.filter p := by
  induction l with
  | nil => rfl
  | cons a rest ih =>
    obtain ⟨first, others⟩ := List.pairwise_cons.mp front
    cases holds : p a with
    | true => simp [holds, ih others]
    | false =>
      have none : ∀ b ∈ rest, ¬ p b := fun b mem later => by simp [first b mem later] at holds
      simp only [List.takeWhile_cons, holds, Bool.false_eq_true, if_false, List.filter_cons]
      exact (List.filter_eq_nil_iff.mpr none).symm

theorem dropWhile_eq_filter (front : l.Pairwise fun a b => p b → p a) :
    l.dropWhile p = l.filter fun b => !p b := by
  induction l with
  | nil => rfl
  | cons a rest ih =>
    obtain ⟨first, others⟩ := List.pairwise_cons.mp front
    cases holds : p a with
    | true => simp [holds, ih others]
    | false =>
      have all : ∀ b ∈ rest, (!p b) = true := fun b mem => by
        cases later : p b with
        | true => simp [first b mem later] at holds
        | false => rfl
      simp only [List.dropWhile_cons, holds, Bool.false_eq_true, if_false, List.filter_cons,
        Bool.not_false, if_true]
      rw [List.filter_eq_self.mpr all]

end Cutting

theorem takeWhile_points (h : History α) (start : Instant) :
    h.points.toList.takeWhile (fun point => decide (point.1 < start)) = h.before start :=
  takeWhile_eq_filter <| h.ascending.imp fun earlier below =>
    decide_eq_true (Instant.lt_trans earlier (of_decide_eq_true below))

/-- The observations that are left at an instant are those of an interval that begins there, and
those behind it. -/
theorem takeWhile_dropWhile_points (h : History α) (start stop : Instant) :
    (h.points.toList.dropWhile fun point => decide (point.1 < start)).takeWhile
      (fun point => decide (point.1 < stop)) = h.during start stop := by
  have front (bound : Instant) : h.points.toList.Pairwise fun a b =>
      decide (b.1 < bound) → decide (a.1 < bound) := h.ascending.imp fun earlier below =>
    decide_eq_true (Instant.lt_trans earlier (of_decide_eq_true below))
  rw [dropWhile_eq_filter (front start), takeWhile_eq_filter ((front stop).filter _),
    List.filter_filter, during]
  refine List.filter_congr fun point _ => ?_
  rw [Bool.and_comm, ← decide_not]
  congr 2
  exact propext Instant.not_lt

/-! ## The cost -/

section Amounts

variable [Amount α]

/-- The cost of an interval that begins at a price and has some changes of it. -/
def curveCost (start stop : Instant) (opening : α) : List (Instant × α) → α
  | [] => segmentCost start stop opening
  | changes => walk stop Amount.zero start opening changes

/-- The walk ends with the interval. -/
theorem walk_takeWhile (stop cursor : Instant) (sum price : α) (points : List (Instant × α)) :
    walk stop sum cursor price (points.takeWhile fun point => decide (point.1 < stop))
      = walk stop sum cursor price points := by
  induction points generalizing sum cursor price with
  | nil => rfl
  | cons point rest ih =>
    obtain ⟨time, next⟩ := point
    by_cases inside : time < stop
    · have goesOn : ¬ stop ≤ time := Instant.not_le.mpr inside
      simp only [List.takeWhile_cons, inside, decide_true, if_true, walk, goesOn, if_false]
      exact ih ..
    · have ends : stop ≤ time := Instant.not_lt.mp inside
      simp only [List.takeWhile_cons, inside, decide_false, Bool.false_eq_true, if_false, walk,
        ends, if_true]

/-- What is charged once the opening price is known: one product where the interval has no
change of it. -/
theorem charge_eq_curveCost (start stop : Instant) (opening : α) (inside : List (Instant × α)) :
    (match inside with
      | [] => segmentCost start stop opening
      | (time, _) :: _ =>
        if stop ≤ time then segmentCost start stop opening
        else walk stop Amount.zero start opening inside)
      = curveCost start stop opening (inside.takeWhile fun point => decide (point.1 < stop)) := by
  cases inside with
  | nil => rfl
  | cons point rest =>
    obtain ⟨time, next⟩ := point
    by_cases inside : time < stop
    · have goesOn : ¬ stop ≤ time := Instant.not_le.mpr inside
      have walked := walk_takeWhile stop start Amount.zero opening ((time, next) :: rest)
      simp only [List.takeWhile_cons, inside, decide_true, if_true] at walked
      simp only [List.takeWhile_cons, inside, decide_true, goesOn, if_true, if_false, curveCost,
        walked]
    · have ends : stop ≤ time := Instant.not_lt.mp inside
      simp only [List.takeWhile_cons, inside, decide_false, Bool.false_eq_true, if_false, ends,
        if_true, curveCost]

/-- **The cost of an interval is known from the price before it and the observations in it.** -/
theorem integrate_eq_curveCost {h : History α} {start stop : Instant} {opening : α}
    (ordered : start < stop) (known : h.priceBefore? start = some opening) :
    h.integrate start stop = curveCost start stop opening (h.during start stop) := by
  have nonempty : ¬ stop ≤ start := Instant.not_le.mpr ordered
  have cut := h.takeWhile_dropWhile_points start stop
  rw [priceBefore?, ← takeWhile_points] at known
  simp only [integrate, nonempty, if_false]
  cases points : h.points.toList with
  | nil => simp [points] at known
  | cons first rest =>
    obtain ⟨time, price⟩ := first
    rw [points] at known cut
    cases rest with
    | nil =>
      by_cases early : time < start
      · simp only [List.takeWhile_cons, early, decide_true, if_true, List.takeWhile_nil,
          List.getLast?_singleton, Option.map_some, Option.some.injEq] at known
        simp only [List.dropWhile_cons, early, decide_true, if_true, List.dropWhile_nil,
          List.takeWhile_nil] at cut
        rw [← cut, ← known, curveCost]
      · simp [early] at known
    | cons second rest =>
      simp only [known, Option.getD_some]
      exact (charge_eq_curveCost ..).trans (congrArg _ cut)

/-- Histories that agree on the price before an interval and on the observations in it price the
interval alike. -/
theorem integrate_congr {h h' : History α} {start stop : Instant} {opening : α}
    (ordered : start < stop) (known : h.priceBefore? start = some opening)
    (known' : h'.priceBefore? start = some opening)
    (same : h.during start stop = h'.during start stop) :
    h.integrate start stop = h'.integrate start stop := by
  rw [integrate_eq_curveCost ordered known, integrate_eq_curveCost ordered known', same]

/-- **An interval that begins on an observation** is charged from that observation's price on, by
one product if the history holds nothing else, and else as a sum, in an arithmetic where no time at
any held price adds nothing to a sum of nothing. -/
theorem integrate_eq_of_observed {h : History α} {start stop : Instant} {price : α}
    {rest : List (Instant × α)} (observed : h.during start stop = (start, price) :: rest)
    (nothing : ∀ point ∈ h.points.toList,
      Amount.zero + segmentCost start start point.2 = (Amount.zero : α)) :
    (rest = [] ∧ h.integrate start stop = segmentCost start stop price)
      ∨ h.integrate start stop = walk stop Amount.zero start price rest := by
  obtain ⟨held, -, ordered⟩ := mem_during.mp (observed ▸ List.mem_cons_self)
  have nonempty : ¬ stop ≤ start := Instant.not_le.mpr ordered
  have cut := h.takeWhile_dropWhile_points start stop
  rw [observed] at cut
  simp only [integrate, nonempty, if_false]
  cases points : h.points.toList with
  | nil => simp [points] at held
  | cons first others =>
    rw [points] at cut held nothing
    cases others with
    | nil =>
      obtain rfl := List.mem_singleton.mp held
      have alone : rest = [] := by
        simpa [Instant.lt_irrefl, ordered, eq_comm] using cut
      exact .inl ⟨alone, rfl⟩
    | cons second others =>
      refine .inr ((charge_eq_curveCost ..).trans ?_)
      simp only [cut, curveCost, walk, nonempty, if_false]
      congr 1
      cases last : ((first :: second :: others).takeWhile
          fun point => decide (point.1 < start)).getLast? with
      | none => exact nothing first List.mem_cons_self
      | some point =>
        have mem := List.mem_of_getLast? last
        exact nothing point ((List.takeWhile_prefix _).subset mem)

end Amounts

end History

end ClusterBilling
