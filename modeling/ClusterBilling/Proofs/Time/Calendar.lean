import Mathlib
import ClusterBilling.Time.Calendar

/-!
# The civil calendar, both ways

Every day has a date: the date of a day is one that the calendar has (`exists_ofDay`), and its
number is that of the day (`toDay_ofDay`). Both rest on two bounds. The year that a day falls into
has begun by then and has not ended (`daysThrough_yearsPassed`), which holds because the guess by
the mean length of a year is off by less than a year; and the months of a year fill it
(`daysThrough_succ`), so that the days gone in it single out one month.
-/

namespace ClusterBilling.Calendar

/-- **The year of a day** has begun by then, and not ended. -/
theorem daysThrough_yearsPassed (days : Int) :
    daysThrough (yearsPassed days) ≤ days ∧ days < daysThrough (yearsPassed days + 1) := by
  have low : 146097 * (400 * days / 146097) ≤ 400 * days := Int.mul_ediv_self_le (by decide)
  have high : 400 * days < 146097 * (400 * days / 146097) + 146097 :=
    Int.lt_mul_ediv_self_add (by decide)
  simp only [yearsPassed]
  generalize 400 * days / 146097 = guess at low high ⊢
  by_cases early : days < daysThrough guess
  · rw [if_pos early]
    simp only [daysThrough] at early ⊢
    omega
  · by_cases late : daysThrough (guess + 1) ≤ days
    · rw [if_neg early, if_pos late]
      simp only [daysThrough] at late ⊢
      omega
    · rw [if_neg early, if_neg late]
      exact ⟨not_lt.mp early, not_le.mp late⟩

theorem isLeap_iff (year : Int) :
    isLeap year = true ↔ year % 4 = 0 ∧ (year % 100 ≠ 0 ∨ year % 400 = 0) := by
  simp [isLeap]

/-- The months of a year fill it. -/
theorem daysThrough_succ (past : Int) :
    daysThrough (past + 1)
      = daysThrough past + (natSum (monthLengths (isLeap (past + 1))) : Nat) := by
  cases leap : isLeap (past + 1) with
  | true =>
    have divides := (isLeap_iff (past + 1)).mp leap
    have length : natSum (monthLengths true) = 366 := rfl
    simp only [daysThrough, length]
    omega
  | false =>
    have divides := mt (isLeap_iff (past + 1)).mpr (by rw [leap]; exact Bool.false_ne_true)
    have length : natSum (monthLengths false) = 365 := rfl
    simp only [daysThrough, length]
    omega

/-- **The month and its day** that some days gone in a list of months lead to: the months before it
and the days before that one are the days gone. -/
theorem splitMonths_spec {lengths : List Nat} (month gone : Nat) (inside : gone < natSum lengths) :
    ∃ before length, splitMonths month gone lengths
        = (month + before, gone - natSum (lengths.take before) + 1)
      ∧ lengths[before]? = some length
      ∧ natSum (lengths.take before) ≤ gone ∧ gone < natSum (lengths.take before) + length := by
  induction lengths generalizing month gone with
  | nil => exact absurd inside (Nat.not_lt_zero gone)
  | cons first rest ih =>
    by_cases here : gone < first
    · exact ⟨0, first, by rw [splitMonths, if_pos here]; rfl, rfl, Nat.zero_le _,
        by simpa [natSum] using here⟩
    · have later : gone - first < natSum rest := by
        have whole : natSum (first :: rest) = first + natSum rest := rfl
        omega
      obtain ⟨before, length, split, there, begun, ends⟩ := ih (month + 1) (gone - first) later
      have sum : natSum ((first :: rest).take (before + 1)) = first + natSum (rest.take before) :=
        rfl
      refine ⟨before + 1, length, ?_, there, by omega, by omega⟩
      rw [splitMonths, if_neg here, split, sum, Nat.sub_sub, Nat.add_assoc, Nat.add_comm 1]

/-- What is known of the date of a day. -/
theorem ofDay_spec (day : Int) :
    let date := Date.ofDay day
    ∃ length, (monthLengths (isLeap date.year))[date.month - 1]? = some length
      ∧ 1 ≤ date.month ∧ 1 ≤ date.day ∧ date.day ≤ length ∧ date.toDay = day := by
  obtain ⟨begun, ends⟩ := daysThrough_yearsPassed (day + epochOffset)
  rw [daysThrough_succ] at ends
  unfold Date.ofDay
  dsimp only
  generalize yearsPassed (day + epochOffset) = past at begun ends ⊢
  obtain ⟨gone, counted⟩ := Int.eq_ofNat_of_zero_le (Int.sub_nonneg_of_le begun)
  rw [counted, Int.toNat_natCast]
  obtain ⟨before, length, split, there, monthBegun, monthEnds⟩ :=
    splitMonths_spec 1 gone (show gone < natSum (monthLengths (isLeap (past + 1))) by omega)
  rw [split]
  refine ⟨length, ?_, by omega, by omega, by omega, ?_⟩
  · simpa using there
  · simp only [Date.toDay, Nat.add_sub_cancel_left, Int.add_sub_cancel]
    omega

theorem toDay_ofDay (day : Int) : (Date.ofDay day).toDay = day := by
  obtain ⟨length, -, -, -, -, same⟩ := ofDay_spec day
  exact same

theorem exists_ofDay (day : Int) : (Date.ofDay day).exists = true := by
  obtain ⟨length, there, month, first, last, -⟩ := ofDay_spec day
  have bound : (Date.ofDay day).month - 1 < 12 := (List.getElem?_eq_some_iff.mp there).1
  simp only [Date.exists, there, Option.getD_some, Bool.and_eq_true, decide_eq_true_eq]
  omega

end ClusterBilling.Calendar
