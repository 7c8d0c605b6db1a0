import ClusterBilling.Proofs.Spot.Integral
import ClusterBilling.Proofs.Spot.Queries
import ClusterBilling.Spot.Recording

/-!
# A recording gives out whole ranges

Page after page, a fetch gets from a recording exactly the answer to its range, in one attempt a
page and whatever the size of the pages is (`proceed_start`). A question to a book over a recording
is therefore always answered: from the history as it is, or from the history with the whole range
merged into it (`ask_recording`).
-/

namespace ClusterBilling

namespace SpotRecording

variable {α : Type}

/-- The observations of a market as they were recorded, series by series. -/
def recorded (r : SpotRecording α) (market : Market) : List (Observation α) :=
  (r.series.filter fun s => s.kind == market.kind && s.zone == market.zone).flatMap
    RecordedSeries.observations

theorem mem_sorted {r : SpotRecording α} {market : Market} {o : Observation α} :
    o ∈ r.sorted market ↔ o ∈ r.recorded market :=
  (List.mergeSort_perm ..).mem_iff

theorem length_sorted_lt (r : SpotRecording α) (market : Market) :
    (r.sorted market).length < tokenBound := by
  refine Nat.lt_of_le_of_lt ?_ r.counted
  have own : ((r.series.filter fun s => s.kind == market.kind && s.zone == market.zone).map
      fun s => s.observations.length).Sublist (r.series.map fun s => s.observations.length) :=
    List.filter_sublist.map _
  rw [sorted, List.length_mergeSort, List.length_flatMap]
  exact own.sum_le_sum fun _ _ => Nat.zero_le _

/-- An opening observation is not one of those behind it, so a range is no longer than the
recording. -/
theorem length_range_le (r : SpotRecording α) (market : Market) (start stop : Instant) :
    (r.range market start stop).length ≤ (r.sorted market).length := by
  have inside := List.length_filter_le
    (fun o : Observation α => decide (start < o.time) && decide (o.time ≤ stop)) (r.sorted market)
  simp only [range, List.length_append]
  cases opening : (r.sorted market).reverse.find? (fun o => decide (o.time ≤ start)) with
  | none => simpa using inside
  | some o =>
    have mem : o ∈ r.sorted market := List.mem_reverse.mp (List.mem_of_find?_eq_some opening)
    have early : o.time ≤ start := by simpa using List.find?_some opening
    have fewer := List.length_filter_lt_length_iff_exists
      (p := fun o : Observation α => decide (start < o.time) && decide (o.time ≤ stop)).mpr
      ⟨o, mem, by simp [Instant.not_lt.mpr early]⟩
    simp only [Option.toList_some, List.length_singleton]
    omega

/-- A token that a page names is read as the offset it was made of. -/
theorem offset?_next {r : SpotRecording α} {market : Market} {start stop : Instant} {next : Nat}
    (more : next < (r.range market start stop).length) : offset? (some next.repr) = some next := by
  have counted := r.length_sorted_lt market
  have shorter := r.length_range_le market start stop
  rw [offset?_repr, if_pos (by omega)]

/-- The range that a request is for. -/
def rangeOf (r : SpotRecording α) (request : PageRequest) : List (Observation α) :=
  r.range request.market request.start request.stop

/-- **A page** begins where the one before ended, and names a next one if observations are left. -/
theorem pageAt_eq (r : SpotRecording α) {request : PageRequest} {offset : Nat}
    (read : offset? request.token = some offset) :
    r.pageAt request = .ok ⟨((r.rangeOf request).drop offset).take r.step,
      if offset + r.step < (r.rangeOf request).length then some (offset + r.step).repr
      else none⟩ := by
  simp only [pageAt, read]
  rfl

/-- What is left of a range is a page and what is left behind it. -/
theorem drop_eq_page_append (r : SpotRecording α) (all : List (Observation α)) (offset : Nat) :
    all.drop offset = (all.drop offset).take r.step ++ all.drop (offset + r.step) := by
  rw [← List.drop_drop, List.take_append_drop]

/-- **A fetch gets the whole range**: from any page on, what is left of it. -/
theorem proceed_eq (r : SpotRecording α) (retry : RetryPolicy) (f : SpotFetch α) (s : Unit)
    {offset : Nat} (read : offset? f.request.token = some offset) :
    f.proceed r.source retry s
      = (.ended (.ok (f.gathered ++ (r.range f.request.market f.request.start
          f.request.stop).drop offset)), ()) := by
  show _ = (SpotFetch.Progress.ended (.ok (f.gathered ++ (r.rangeOf f.request).drop offset)), ())
  fun_induction SpotFetch.proceed r.source retry f s generalizing offset with
  | case1 f s page s' answered last =>
    cases answered.symm.trans (congrArg (·, ()) (r.pageAt_eq read))
    split at last
    · next more =>
      have nonempty : (offset + r.step).repr.isEmpty = false := by simp
      simp [SpotPage.next?, nonempty] at last
    · next done =>
      rw [r.drop_eq_page_append _ offset, List.drop_eq_nil_of_le (Nat.le_of_not_lt done),
        List.append_nil, List.take_take, Nat.min_self]
  | case2 f s page s' answered token next ih =>
    cases answered.symm.trans (congrArg (·, ()) (r.pageAt_eq read))
    split at next
    · next more =>
      have nonempty : (offset + r.step).repr.isEmpty = false := by simp
      simp only [SpotPage.next?, nonempty, Bool.false_eq_true, if_false,
        Option.some.injEq] at next
      subst next
      rw [ih (offset?_next more)]
      simp only [SpotFetch.nextPage, List.append_assoc]
      exact congrArg (fun left => (SpotFetch.Progress.ended (.ok (f.gathered ++ left)), ()))
        (r.drop_eq_page_append (r.rangeOf f.request) offset).symm
    · cases next
  | case3 f s fault s' answered | case4 f s fault s' answered =>
    cases answered.symm.trans (congrArg (·, ()) (r.pageAt_eq read))

theorem proceed_start (r : SpotRecording α) (retry : RetryPolicy) (market : Market)
    (start stop : Instant) :
    (SpotFetch.start retry market start stop).proceed r.source retry ()
      = (.ended (.ok (r.range market start stop)), ()) :=
  r.proceed_eq retry (.start retry market start stop) () rfl

variable [Amount α]

/-- **A book over a recording answers every question**, and merges the whole range that it asks
the recording for. -/
theorem ask_recording (r : SpotRecording α) (retry : RetryPolicy) (book : PriceBook Unit α)
    (query : SpotQuery) :
    book.ask r.source retry query =
      if book.fetchesFor query then
        let fetched := r.range query.market query.start query.stop
        (.ok (((book.history query.market).extend fetched).integrate query.start query.stop),
          book.extend query.market fetched)
      else (.ok ((book.history query.market).integrate query.start query.stop), book) := by
  split
  · next unsure => exact PriceBook.ask_of_fetched unsure (r.proceed_start ..)
  · next sure => exact PriceBook.ask_of_not_fetchesFor _ _ (Bool.eq_false_iff.mpr sure)

end SpotRecording

end ClusterBilling
