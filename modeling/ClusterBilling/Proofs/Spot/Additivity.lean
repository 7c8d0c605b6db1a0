import ClusterBilling.Proofs.Exact
import ClusterBilling.Proofs.Spot.Integral

/-!
# Intervals under a price curve add up

Without rounding, the cost of an interval is a difference: what has accrued under the price curve
at its end, less what had at its start (`integrate_eq`). What accrued is reckoned from the earliest
observation on, forwards or backwards, whichever interval is asked for. So **the cost of an
interval is the sum of the costs of its parts** (`integrate_add`), wherever it is cut: before all
observations, on one, between two or after the last. A history with no observation costs nothing,
and one with a single observation, which the code charges by one product, is no exception.

In binary floating point this fails; the sum over the segments is then rounded at every step.
-/

namespace ClusterBilling

namespace History

variable {timestamps : List Instant}

/-- What a price per hour comes to is a difference too. -/
theorem segmentCost_eq (timely : Instant.Timely timestamps) {start stop : Instant}
    (first : start ∈ timestamps) (last : stop ∈ timestamps) (price : ℚ) :
    segmentCost start stop price = (stop.seconds - start.seconds) * price / 3600 := by
  have seconds := secondsBetween_eq timely first last
  unfold segmentCost hourlyCost
  rw [seconds]
  norm_num

/-- A walk adds to the sum it begins with. -/
theorem walk_eq_add (stop : Instant) (sum : ℚ) (cursor : Instant) (price : ℚ)
    (points : List (Instant × ℚ)) :
    walk stop sum cursor price points = sum + walk stop 0 cursor price points := by
  induction points generalizing sum cursor price with
  | nil => simp [walk]
  | cons point rest ih =>
    obtain ⟨time, next⟩ := point
    simp only [walk]
    split
    · rw [zero_add]
    · rw [ih, ih (0 + _), zero_add, add_assoc]

/-- One product is a walk without a stop. -/
theorem curveCost_eq_walk (start stop : Instant) (opening : ℚ) (changes : List (Instant × ℚ)) :
    curveCost start stop opening changes = walk stop 0 start opening changes := by
  cases changes with
  | nil => exact (zero_add _).symm
  | cons change others => exact congrArg (walk stop · start opening _) Amount.zero_rat

/-- The price that holds after some observations. -/
def closingPrice (opening : ℚ) (points : List (Instant × ℚ)) : ℚ :=
  (points.getLast?.map Prod.snd).getD opening

theorem closingPrice_cons (opening : ℚ) (point : Instant × ℚ) (points : List (Instant × ℚ)) :
    closingPrice opening (point :: points) = closingPrice point.2 points := by
  unfold closingPrice
  rw [List.getLast?_cons]
  cases points.getLast? <;> rfl

/-- **A walk that begins later** is short of what the whole walk has come to by then. -/
theorem walk_sub (timely : Instant.Timely timestamps) {start stop cursor : Instant}
    (first : start ∈ timestamps) (last : stop ∈ timestamps) (here : cursor ∈ timestamps)
    (ordered : start ≤ stop) (price : ℚ) {points : List (Instant × ℚ)}
    (times : ∀ point ∈ points, point.1 ∈ timestamps) :
    walk stop 0 start (closingPrice price (points.takeWhile fun point => decide (point.1 < start)))
        (points.dropWhile fun point => decide (point.1 < start))
      = walk stop 0 cursor price points - walk start 0 cursor price points := by
  have segment {s t : Instant} (known : s ∈ timestamps) (known' : t ∈ timestamps) (p : ℚ) :=
    segmentCost_eq timely known known' p
  induction points generalizing cursor price with
  | nil =>
    simp only [List.takeWhile_nil, List.dropWhile_nil, walk, closingPrice, List.getLast?_nil,
      Option.map_none, Option.getD_none]
    rw [segment first last, segment here last, segment here first]
    ring
  | cons point rest ih =>
    obtain ⟨time, next⟩ := point
    have there : time ∈ timestamps := times _ List.mem_cons_self
    have others : ∀ point ∈ rest, point.1 ∈ timestamps := fun point mem =>
      times point (List.mem_cons_of_mem _ mem)
    by_cases early : time < start
    · -- Both walks pass the observation, and go on from there.
      have passed : ¬ start ≤ time := Int.not_le.mpr early
      have passed' : ¬ stop ≤ time := Int.not_le.mpr (Int.lt_of_lt_of_le early ordered)
      simp only [List.takeWhile_cons, List.dropWhile_cons, early, decide_true, if_true,
        closingPrice_cons, walk, passed, passed', if_false]
      rw [ih there next others, walk_eq_add stop (0 + _), walk_eq_add start (0 + _)]
      ring
    · -- The shorter walk ends before the observation.
      have ends : start ≤ time := Int.not_lt.mp early
      simp only [List.takeWhile_cons, List.dropWhile_cons, early, decide_false,
        Bool.false_eq_true, if_false, walk, ends, if_true, closingPrice, List.getLast?_nil,
        Option.map_none, Option.getD_none]
      split
      · rw [segment first last, segment here last, segment here first]
        ring
      · rw [walk_eq_add stop (0 + _), walk_eq_add stop (0 + segmentCost cursor time price),
          segment first there, segment here there, segment here first]
        ring

/-- **What has accrued** under a price curve by an instant, since its earliest observation; less
than nothing before that. -/
def accrued (h : History ℚ) (t : Instant) : ℚ :=
  match h.points.toList with
  | [] => 0
  | (first, earliest) :: rest => walk t 0 first earliest ((first, earliest) :: rest)

/-- A price that holds throughout is charged for the whole interval, also where it is observed
once more. -/
theorem walk_single (timely : Instant.Timely timestamps) {start stop time : Instant}
    (first : start ∈ timestamps) (last : stop ∈ timestamps) (here : time ∈ timestamps)
    (price : ℚ) : walk stop 0 start price [(time, price)] = segmentCost start stop price := by
  simp only [walk]
  split
  · exact zero_add _
  · rw [segmentCost_eq timely first here, segmentCost_eq timely here last,
      segmentCost_eq timely first last]
    ring

/-- **The cost of an interval is what accrued meanwhile.** -/
theorem integrate_eq (timely : Instant.Timely timestamps) {h : History ℚ}
    (times : ∀ point ∈ h.points.toList, point.1 ∈ timestamps) {start stop : Instant}
    (first : start ∈ timestamps) (last : stop ∈ timestamps) (ordered : start ≤ stop) :
    h.integrate start stop = h.accrued stop - h.accrued start := by
  unfold integrate accrued
  split
  · next empty =>
    have same : stop = start := Instant.stamp_injective (Int.le_antisymm empty ordered)
    rw [same, sub_self]
    exact Amount.zero_rat
  · cases points : h.points.toList with
    | nil => exact Amount.zero_rat.trans (sub_zero 0).symm
    | cons point rest =>
      obtain ⟨time, price⟩ := point
      rw [points] at times
      have here : time ∈ timestamps := times _ List.mem_cons_self
      have whole := walk_sub timely first last here ordered price times
      cases rest with
      | nil =>
        refine Eq.trans ?_ whole
        by_cases early : time < start
        · simp [early, walk, closingPrice]
        · simpa [early, closingPrice] using (walk_single timely first last here price).symm
      | cons second rest =>
        refine ((charge_eq_curveCost ..).trans ?_).trans whole
        rw [curveCost_eq_walk, walk_takeWhile]
        rfl

/-- **The cost of an interval is the sum of the costs of its parts.** -/
theorem integrate_add (timely : Instant.Timely timestamps) {h : History ℚ}
    (times : ∀ point ∈ h.points.toList, point.1 ∈ timestamps) {start cut stop : Instant}
    (first : start ∈ timestamps) (between : cut ∈ timestamps) (last : stop ∈ timestamps)
    (before : start ≤ cut) (after : cut ≤ stop) :
    h.integrate start stop = h.integrate start cut + h.integrate cut stop := by
  have ordered : start ≤ stop := Int.le_trans before after
  rw [integrate_eq timely times first last ordered, integrate_eq timely times first between before,
    integrate_eq timely times between last after]
  ring

end History

end ClusterBilling
