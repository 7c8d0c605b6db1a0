import Mathlib.MeasureTheory.Integral.IntervalIntegral.Basic
import ClusterBilling.Proofs.Spot.Additivity
import ClusterBilling.Proofs.Spot.Transparency

/-!
# The price curve

Behind a history stands a step function of time, `History.priceAt`: at every moment the price of
the latest observation that was made by then, and before all observations that of the earliest.
**Without rounding, the cost of an interval is the integral of that curve**, in seconds, at a price
per hour (`integrate_eq_integral`). The walk over the segments, the single product for one segment
and the single product for one observation are three ways to reckon the same integral.

**Observations that do not shape the curve within the interval do not count**
(`integrate_eq_of_agree`): not one before the latest that precedes it, and not one at its end or
later. This holds in every arithmetic, so that in binary floating point not a single bit depends on
them: the same products are added in the same order, whatever the history holds besides.
-/

namespace ClusterBilling

namespace Instant

/-- The scale of seconds keeps the order of whole microseconds. -/
theorem seconds_le_seconds {s t : Instant} (first : s.IsWhole) (second : t.IsWhole) :
    s.seconds ≤ t.seconds ↔ s ≤ t := by
  have ordinary := first.ordinary
  have ordinary' := second.ordinary
  have micro := first.micro
  have micro' := second.micro
  have million : (0 : ℚ) < 1000000 := by norm_num
  rw [seconds, seconds, div_le_div_iff_of_pos_right million, Int.cast_le, le_def, micros, micros,
    stamp, stamp]
  omega

end Instant

namespace History

section Relevance

variable {α : Type}

/-- The latest observation of a history before an instant: nothing was observed between the two. -/
structure LatestBefore (h : History α) (start time : Instant) (price : α) : Prop where
  held : h.points.get? time = some price
  early : time < start
  latest : ∀ between, time < between → between < start → h.points.get? between = none

/-- The latest observation before an interval sets the price that it begins at. -/
theorem LatestBefore.priceBefore?_eq {h : History α} {start time : Instant} {price : α}
    (latest : h.LatestBefore start time price) : h.priceBefore? start = some price := by
  have listed := (OrderedMap.get?_eq_some_iff ..).mp latest.held
  have last : (h.before start).getLast? = some (time, price) := by
    refine getLast?_before (mem_before.mpr ⟨listed, latest.early⟩) fun point mem => ?_
    obtain ⟨held, early⟩ := mem_before.mp mem
    refine Instant.not_lt.mp fun behind => ?_
    have known := (OrderedMap.get?_eq_some_iff ..).mpr held
    rw [latest.latest point.1 behind early] at known
    cases known
  rw [priceBefore?, last, Option.map_some]

/-- **Other observations do not count.** Two histories with the same latest observation before an
interval and the same observations in it price the interval alike, in whatever arithmetic. -/
theorem integrate_eq_of_agree [Amount α] {h h' : History α} {start stop time : Instant} {price : α}
    (ordered : start < stop) (latest : h.LatestBefore start time price)
    (latest' : h'.LatestBefore start time price)
    (inside : ∀ t, start ≤ t → t < stop → h.points.get? t = h'.points.get? t) :
    h.integrate start stop = h'.integrate start stop := by
  refine integrate_congr ordered latest.priceBefore?_eq latest'.priceBefore?_eq ?_
  refine OrderedMap.filter_toList_eq (fun t => decide (start ≤ t) && decide (t < stop))
    fun t chosen => ?_
  rw [Bool.and_eq_true, decide_eq_true_eq, decide_eq_true_eq] at chosen
  exact inside t chosen.1 chosen.2

/-- Prices that change twice, at the second hour and at the fifth. -/
def twoChanges : History Float := .ofObservations [⟨.atHour 2, 0.3⟩, ⟨.atHour 5, 0.2⟩]

/-- What was observed too early or too late is of no account, even where it is no number. -/
theorem integrate_eq_of_agree_twoChanges :
    Instant.atHour 3 < .atHour 8
      ∧ (twoChanges.extend [⟨.atHour 1, 0.7⟩]).LatestBefore (.atHour 3) (.atHour 2) 0.3
      ∧ (twoChanges.extend [⟨.atHour 8, 0.0 / 0.0⟩]).LatestBefore (.atHour 3) (.atHour 2) 0.3
      ∧ (∀ t, Instant.atHour 3 ≤ t → t < .atHour 8 →
        (twoChanges.extend [⟨.atHour 1, 0.7⟩]).points.get? t
          = (twoChanges.extend [⟨.atHour 8, 0.0 / 0.0⟩]).points.get? t)
      ∧ (twoChanges.extend [⟨.atHour 1, 0.7⟩]).integrate (.atHour 3) (.atHour 8)
        = (twoChanges.extend [⟨.atHour 8, 0.0 / 0.0⟩]).integrate (.atHour 3) (.atHour 8) := by
  have besides {t : Instant} {o : Observation Float} (other : o.time ≠ t) :
      (twoChanges.extend [o]).points.get? t = twoChanges.points.get? t := by
    simp [get?_extend, lastPrice_eq, other]
  have between (t : Instant) (after : Instant.atHour 2 < t) (before : t < .atHour 3) :
      twoChanges.points.get? t = none := by
    have first : Instant.atHour 2 ≠ t := fun same => Instant.lt_irrefl _ (same ▸ after)
    have second : Instant.atHour 5 ≠ t := fun same => absurd (same ▸ before) (by decide)
    simp [twoChanges, ofObservations, get?_extend, lastPrice_eq, first, second]
  have ordered : Instant.atHour 3 < .atHour 8 := by decide
  have early {t : Instant} (behind : Instant.atHour 2 ≤ t) : Instant.atHour 1 ≠ t :=
    fun same => absurd (same ▸ behind) (by decide)
  have late {t : Instant} (ahead : t < .atHour 8) : Instant.atHour 8 ≠ t :=
    fun same => Instant.lt_irrefl _ (same ▸ ahead)
  have first : (twoChanges.extend [⟨.atHour 1, 0.7⟩]).LatestBefore (.atHour 3) (.atHour 2) 0.3 :=
    ⟨by decide, by decide, fun t after before =>
      (besides (early (Instant.le_of_lt after))).trans (between t after before)⟩
  have second : (twoChanges.extend [⟨.atHour 8, 0.0 / 0.0⟩]).LatestBefore (.atHour 3) (.atHour 2)
      0.3 :=
    ⟨by decide, by decide, fun t after before =>
      (besides (late (Instant.lt_trans before ordered))).trans (between t after before)⟩
  have inside (t : Instant) (behind : Instant.atHour 3 ≤ t) (ahead : t < .atHour 8) :
      (twoChanges.extend [⟨.atHour 1, 0.7⟩]).points.get? t
        = (twoChanges.extend [⟨.atHour 8, 0.0 / 0.0⟩]).points.get? t :=
    (besides (early (Instant.le_trans (by decide) behind))).trans (besides (late ahead)).symm
  exact ⟨ordered, first, second, inside, integrate_eq_of_agree ordered first second inside⟩

end Relevance

/-! ## The curve as a function -/

section Curve

/-- The price at a moment, from a price that holds at first and observations in ascending order. -/
noncomputable def curve (opening : ℚ) (points : List (Instant × ℚ)) (t : ℝ) : ℚ :=
  closingPrice opening (points.filter fun point => decide ((point.1.seconds : ℝ) ≤ t))

/-- **The price curve**: at a moment on the scale of seconds the price of the latest observation at
or before it, or of the earliest observation where there is none. -/
noncomputable def priceAt (h : History ℚ) (t : ℝ) : ℚ :=
  let soFar := h.points.toList.filter fun point => decide ((point.1.seconds : ℝ) ≤ t)
  ((soFar.getLast?.or h.points.first?).map Prod.snd).getD 0

theorem priceAt_eq_curve {h : History ℚ} {point : Instant × ℚ} {rest : List (Instant × ℚ)}
    (points : h.points.toList = point :: rest) (t : ℝ) :
    h.priceAt t = curve point.2 (point :: rest) t := by
  simp only [priceAt, curve, closingPrice, points, OrderedMap.first?]
  cases (List.filter (fun point => decide ((point.1.seconds : ℝ) ≤ t)) (point :: rest)).getLast?
  <;> rfl

/-- An observation ends what held before it. -/
theorem curve_cons (opening : ℚ) (point : Instant × ℚ) (rest : List (Instant × ℚ)) (t : ℝ) :
    curve opening (point :: rest) t
      = if (point.1.seconds : ℝ) ≤ t then curve point.2 rest t else curve opening rest t := by
  unfold curve
  rw [List.filter_cons]
  split <;> simp_all [closingPrice_cons]

/-- Before all observations the opening price holds. -/
theorem curve_eq_opening (opening : ℚ) {points : List (Instant × ℚ)} {t : ℝ}
    (later : ∀ point ∈ points, t < point.1.seconds) : curve opening points t = opening := by
  have none : points.filter (fun point => decide ((point.1.seconds : ℝ) ≤ t)) = [] :=
    List.filter_eq_nil_iff.mpr fun point mem => by simpa using later point mem
  rw [curve, none]
  rfl

theorem intervalIntegrable_curve (opening : ℚ) (points : List (Instant × ℚ)) (a b : ℝ) :
    IntervalIntegrable (fun t => (curve opening points t : ℝ)) MeasureTheory.volume a b := by
  induction points generalizing opening with
  | nil =>
    have constant : IntervalIntegrable (fun _ : ℝ => (opening : ℝ)) MeasureTheory.volume a b :=
      intervalIntegrable_const
    exact constant
  | cons point rest ih =>
    have split : (fun t : ℝ => (curve opening (point :: rest) t : ℝ))
        = (Set.Ici (point.1.seconds : ℝ)).piecewise (fun t => (curve point.2 rest t : ℝ))
          fun t => (curve opening rest t : ℝ) := by
      funext t
      rw [curve_cons, Set.piecewise]
      simp only [Set.mem_Ici]
      split <;> rfl
    rw [split, intervalIntegrable_iff]
    exact .piecewise measurableSet_Ici (intervalIntegrable_iff.mp (ih _)).integrable.integrableOn
      (intervalIntegrable_iff.mp (ih _)).integrable.integrableOn

variable {timestamps : List Instant}

/-- Over a time with no observation in it the cost is the integral of a constant. -/
theorem integral_opening (timely : Instant.Timely timestamps) {start stop : Instant}
    (first : start ∈ timestamps) (last : stop ∈ timestamps) (opening : ℚ)
    {points : List (Instant × ℚ)}
    (later : ∀ point ∈ points, start.seconds ≤ point.1.seconds ∧ stop.seconds ≤ point.1.seconds) :
    ∫ t in (start.seconds : ℝ)..stop.seconds, (curve opening points t : ℝ)
      = ((segmentCost start stop opening : ℚ) : ℝ) * 3600 := by
  have constant : Set.EqOn (fun t : ℝ => (curve opening points t : ℝ)) (fun _ => (opening : ℝ))
      (Set.uIoo (start.seconds : ℝ) stop.seconds) := fun t inside => by
    refine congrArg _ (curve_eq_opening opening fun point mem => inside.2.trans_le ?_)
    exact max_le (Rat.cast_le.mpr (later point mem).1) (Rat.cast_le.mpr (later point mem).2)
  rw [intervalIntegral.integral_congr_uIoo constant, intervalIntegral.integral_const,
    segmentCost_eq timely first last, smul_eq_mul]
  push_cast
  ring

/-- **A walk over the segments is an integral of the curve**, from where it begins to where it
ends, be that forwards or backwards. -/
theorem integral_curve (timely : Instant.Timely timestamps) {stop cursor : Instant}
    (last : stop ∈ timestamps) (here : cursor ∈ timestamps) (opening : ℚ)
    {points : List (Instant × ℚ)} (times : ∀ point ∈ points, point.1 ∈ timestamps)
    (ahead : ∀ point ∈ points, cursor ≤ point.1)
    (ascending : points.Pairwise fun a b => a.1 < b.1) :
    ∫ t in (cursor.seconds : ℝ)..stop.seconds, (curve opening points t : ℝ)
      = ((walk stop 0 cursor opening points : ℚ) : ℝ) * 3600 := by
  have keeps {s t : Instant} (known : s ∈ timestamps) (known' : t ∈ timestamps) (le : s ≤ t) :
      s.seconds ≤ t.seconds :=
    (Instant.seconds_le_seconds (timely.whole s known) (timely.whole t known')).mpr le
  induction points generalizing cursor opening with
  | nil =>
    rw [integral_opening timely here last opening (by simp), walk, zero_add]
  | cons point rest ih =>
    obtain ⟨time, next⟩ := point
    obtain ⟨there, others⟩ := List.forall_mem_cons.mp times
    obtain ⟨after, -⟩ := List.forall_mem_cons.mp ahead
    obtain ⟨above, ascending⟩ := List.pairwise_cons.mp ascending
    have onward (s : Instant) (known : s ∈ timestamps) (le : s ≤ time) :
        ∀ point ∈ (time, next) :: rest, s.seconds ≤ point.1.seconds := by
      intro point mem
      refine keeps known (times point mem) (Instant.le_trans le ?_)
      rcases List.mem_cons.mp mem with rfl | behind
      · exact Instant.le_refl _
      · exact Instant.le_of_lt (above point behind)
    simp only [walk]
    split
    · next ends =>
      rw [integral_opening timely here last opening fun point mem =>
        ⟨onward cursor here after point mem, onward stop last ends point mem⟩, zero_add]
    · next goesOn =>
      -- The walk steps over the observation, and the integral is cut there.
      have behind : time ≤ stop := Instant.le_of_lt (Instant.not_le.mp goesOn)
      have changed : Set.EqOn (fun t : ℝ => (curve opening ((time, next) :: rest) t : ℝ))
          (fun t => (curve next rest t : ℝ)) (Set.uIoo (time.seconds : ℝ) stop.seconds) :=
        fun t inside => by
          have le : (time.seconds : ℝ) ≤ stop.seconds := Rat.cast_le.mpr (keeps there last behind)
          rw [Set.uIoo_of_le le] at inside
          exact congrArg _ ((curve_cons ..).trans (if_pos inside.1.le))
      rw [← intervalIntegral.integral_add_adjacent_intervals
          (intervalIntegrable_curve opening _ _ time.seconds) (intervalIntegrable_curve ..),
        integral_opening timely here there opening fun point mem =>
          ⟨onward cursor here after point mem, onward time there (Instant.le_refl _) point mem⟩,
        intervalIntegral.integral_congr_uIoo changed,
        ih there next others (fun point mem => Instant.le_of_lt (above point mem)) ascending,
        walk_eq_add stop (0 + _), zero_add]
      push_cast
      ring

/-- What has accrued by an instant is the integral of the curve from the earliest observation on. -/
theorem integral_curve_eq_accrued (timely : Instant.Timely timestamps) {h : History ℚ}
    (times : ∀ point ∈ h.points.toList, point.1 ∈ timestamps) {earliest : Instant × ℚ}
    {rest : List (Instant × ℚ)} (points : h.points.toList = earliest :: rest) {t : Instant}
    (known : t ∈ timestamps) :
    ∫ s in (earliest.1.seconds : ℝ)..t.seconds, (curve earliest.2 (earliest :: rest) s : ℝ)
      = ((h.accrued t : ℚ) : ℝ) * 3600 := by
  have ascending := h.ascending
  rw [accrued, points]
  rw [points] at times ascending
  refine integral_curve timely known (times _ List.mem_cons_self) earliest.2 times
    (fun point mem => ?_) ascending
  rcases List.mem_cons.mp mem with rfl | behind
  · exact Instant.le_refl _
  · exact Instant.le_of_lt ((List.pairwise_cons.mp ascending).1 point behind)

/-- **The cost of an interval is the integral of the price curve**, nothing where the interval or
the history is empty. -/
theorem integrate_eq_integral (h : History ℚ) (start stop : Instant) :
    (stop ≤ start ∨ h.isEmpty → h.integrate start stop = 0)
      ∧ (start < stop → h.isEmpty = false →
        Instant.Timely (start :: stop :: h.points.keys) →
          MeasureTheory.IntegrableOn (fun t => (h.priceAt t : ℝ))
              (Set.Ico (start.seconds : ℝ) stop.seconds)
            ∧ ((h.integrate start stop : ℚ) : ℝ)
              = 1 / 3600 * ∫ t in Set.Ico (start.seconds : ℝ) stop.seconds, (h.priceAt t : ℝ)) := by
  constructor
  · intro nothing
    unfold integrate
    split
    · exact Amount.zero_rat
    · next ordered =>
      have empty : h.points.toList = [] := List.isEmpty_iff.mp (nothing.resolve_left ordered)
      rw [empty]
      exact Amount.zero_rat
  · intro ordered nonempty timely
    obtain ⟨earliest, rest, points⟩ : ∃ earliest rest, h.points.toList = earliest :: rest :=
      List.exists_cons_of_ne_nil fun none => by simp [isEmpty, OrderedMap.isEmpty, none] at nonempty
    have times : ∀ p ∈ h.points.toList, p.1 ∈ start :: stop :: h.points.keys := fun p mem =>
      List.mem_cons_of_mem _ (List.mem_cons_of_mem _ (List.mem_map_of_mem mem))
    have first : start ∈ start :: stop :: h.points.keys := List.mem_cons_self
    have last : stop ∈ start :: stop :: h.points.keys := List.mem_cons_of_mem _ List.mem_cons_self
    have le : (start.seconds : ℝ) ≤ stop.seconds := Rat.cast_le.mpr
      ((Instant.seconds_le_seconds (timely.whole _ first) (timely.whole _ last)).mpr
        (Instant.le_of_lt ordered))
    have shape : (fun t : ℝ => (h.priceAt t : ℝ))
        = fun t => (curve earliest.2 (earliest :: rest) t : ℝ) :=
      funext fun t => congrArg _ (priceAt_eq_curve points t)
    have integrable := intervalIntegrable_curve earliest.2 (earliest :: rest)
    rw [shape]
    refine ⟨(intervalIntegrable_iff_integrableOn_Ico_of_le le).mp (integrable _ _), ?_⟩
    -- What accrued meanwhile is what accrued by the end, less what had by the start.
    rw [MeasureTheory.integral_Ico_eq_integral_Ioc, ← intervalIntegral.integral_of_le le,
      ← intervalIntegral.integral_interval_sub_left (integrable earliest.1.seconds stop.seconds)
        (integrable earliest.1.seconds start.seconds),
      integral_curve_eq_accrued timely times points last,
      integral_curve_eq_accrued timely times points first,
      integrate_eq timely times first last (Instant.le_of_lt ordered)]
    push_cast
    ring

section Sample

/-- Prices that change at whole hours. -/
def stepwise : History ℚ := .ofObservations [⟨.atHour 1, 2⟩, ⟨.atHour 3, 5⟩, ⟨.atHour 6, 3⟩]

/-- One hour at two, three hours at five and one hour at three. -/
theorem integrate_eq_integral_stepwise :
    Instant.atHour 2 < .atHour 7
      ∧ stepwise.isEmpty = false
      ∧ Instant.Timely (.atHour 2 :: .atHour 7 :: stepwise.points.keys)
      ∧ stepwise.integrate (.atHour 2) (.atHour 7) = 20
      ∧ 1 / 3600 * ∫ t in Set.Ico ((Instant.atHour 2).seconds : ℝ) (Instant.atHour 7).seconds,
          (stepwise.priceAt t : ℝ) = 20 := by
  have ordered : Instant.atHour 2 < .atHour 7 := by decide
  have nonempty : stepwise.isEmpty = false := by decide
  have timely : Instant.Timely (.atHour 2 :: .atHour 7 :: stepwise.points.keys) := by
    decide +kernel
  have cost : stepwise.integrate (.atHour 2) (.atHour 7) = 20 := by decide +kernel
  have integral := ((stepwise.integrate_eq_integral _ _).2 ordered nonempty timely).2
  rw [cost] at integral
  exact ⟨ordered, nonempty, timely, cost, by exact_mod_cast integral.symm⟩

end Sample

end Curve

end History

end ClusterBilling
