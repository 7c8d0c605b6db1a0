import ClusterBilling.Proofs.Spot.Integral
import ClusterBilling.Time.Window

/-!
# Windows that are cut in two

Clipping a life span to a window goes together with cutting the window. **What lies of a life span
inside a window is what lies of it before the cut and what lies behind it** (`cut_clip`): all of it
is on one side, or it is cut at the same instant. No bound of the window need be there, but the cut
has to lie between those that are.
-/

namespace ClusterBilling

namespace Instant

theorem later_of_le {a b : Instant} (le : b ≤ a) : later a b = a := if_neg (not_lt.mpr le)

theorem later_of_lt {a b : Instant} (lt : a < b) : later a b = b := if_pos lt

theorem earlier_of_le {a b : Instant} (le : a ≤ b) : earlier a b = a := if_neg (not_lt.mpr le)

theorem earlier_of_lt {a b : Instant} (lt : b < a) : earlier a b = b := if_pos lt

end Instant

namespace TimeWindow

/-- Whether an instant lies between the bounds of a window, or on one. -/
structure Spans (w : TimeWindow) (cut : Instant) : Prop where
  start : ∀ a ∈ w.start, a ≤ cut
  stop : ∀ b ∈ w.stop, cut ≤ b

/-- The part of a window before an instant. -/
def upTo (w : TimeWindow) (cut : Instant) : TimeWindow := ⟨w.start, some cut⟩

/-- The part of a window from an instant on. -/
def onward (w : TimeWindow) (cut : Instant) : TimeWindow := ⟨some cut, w.stop⟩

/-- **Whether some time is what lies of it before a cut and behind it.** -/
inductive Cut (cut : Instant) :
    Option (Instant × Instant) → Option (Instant × Instant) → Option (Instant × Instant) → Prop
  | before (time : Option (Instant × Instant)) : Cut cut time time none
  | behind (time : Option (Instant × Instant)) : Cut cut time none time
  | across {start stop : Instant} (first : start < cut) (second : cut < stop) :
    Cut cut (some (start, stop)) (some (start, cut)) (some (cut, stop))

/-- When the time begins that is billed of a life span. -/
def opens (w : TimeWindow) (created : Instant) : Instant :=
  w.start.elim created (Instant.later · created)

/-- When the time ends that is billed of a life span. -/
def closes (w : TimeWindow) (ended : Instant) : Instant :=
  w.stop.elim ended (Instant.earlier · ended)

theorem clip_eq (w : TimeWindow) (created ended : Instant) :
    w.clip created ended
      = if w.opens created < w.closes ended then some (w.opens created, w.closes ended)
        else none := rfl

variable {w : TimeWindow} {cut created ended : Instant}

theorem le_opens (w : TimeWindow) (created : Instant) : created ≤ w.opens created := by
  unfold opens
  cases w.start with
  | none => exact Instant.le_refl _
  | some a =>
    by_cases inside : a < created
    · rw [Option.elim_some, Instant.later_of_lt inside]
      exact Instant.le_refl _
    · rw [Option.elim_some, Instant.later_of_le (Instant.not_lt.mp inside)]
      exact Instant.not_lt.mp inside

/-- A life span that begins before the cut is billed from before the cut on. -/
theorem Spans.opens_le (spans : w.Spans cut) (born : created ≤ cut) : w.opens created ≤ cut := by
  unfold opens
  cases start : w.start with
  | none => exact born
  | some a =>
    by_cases inside : a < created
    · rw [Option.elim_some, Instant.later_of_lt inside]
      exact born
    · rw [Option.elim_some, Instant.later_of_le (Instant.not_lt.mp inside)]
      exact spans.start a start

/-- A life span that begins behind the cut is billed from its beginning on. -/
theorem Spans.opens_eq (spans : w.Spans cut) (unborn : cut ≤ created) :
    w.opens created = created := by
  unfold opens
  cases start : w.start with
  | none => rfl
  | some a =>
    have late : a ≤ created := Instant.le_trans (spans.start a start) unborn
    by_cases inside : a < created
    · exact Instant.later_of_lt inside
    · exact (Instant.later_of_le (Instant.not_lt.mp inside)).trans
        (Instant.le_antisymm late (Instant.not_lt.mp inside))

/-- A life span that ends behind the cut is billed beyond the cut. -/
theorem Spans.le_closes (spans : w.Spans cut) (alive : cut ≤ ended) : cut ≤ w.closes ended := by
  unfold closes
  cases stop : w.stop with
  | none => exact alive
  | some b =>
    by_cases inside : ended < b
    · rw [Option.elim_some, Instant.earlier_of_lt inside]
      exact alive
    · rw [Option.elim_some, Instant.earlier_of_le (Instant.not_lt.mp inside)]
      exact spans.stop b stop

/-- A life span that ends before the cut is billed to its end. -/
theorem Spans.closes_eq (spans : w.Spans cut) (gone : ended ≤ cut) : w.closes ended = ended := by
  unfold closes
  cases stop : w.stop with
  | none => rfl
  | some b =>
    have early : ended ≤ b := Instant.le_trans gone (spans.stop b stop)
    by_cases inside : ended < b
    · exact Instant.earlier_of_lt inside
    · exact (Instant.earlier_of_le (Instant.not_lt.mp inside)).trans
        (Instant.le_antisymm (Instant.not_lt.mp inside) early)

/-- **A window that is cut in two** leaves of a life span the same time. -/
theorem cut_clip (spans : w.Spans cut) (ordered : created ≤ ended) :
    Cut cut (w.clip created ended) ((w.upTo cut).clip created ended)
      ((w.onward cut).clip created ended) := by
  have first : (w.upTo cut).clip created ended
      = if w.opens created < Instant.earlier cut ended
        then some (w.opens created, Instant.earlier cut ended) else none := rfl
  have second : (w.onward cut).clip created ended
      = if Instant.later cut created < w.closes ended
        then some (Instant.later cut created, w.closes ended) else none := rfl
  rw [clip_eq, first, second]
  by_cases unborn : cut < created
  · -- All of it lies behind the cut.
    have early := Instant.le_of_lt unborn
    have nothing : ¬ w.opens created < Instant.earlier cut ended := by
      rw [Instant.earlier_of_le (Instant.le_trans early ordered)]
      exact Instant.not_lt.mpr (Instant.le_trans early (w.le_opens created))
    rw [if_neg nothing, Instant.later_of_lt unborn, spans.opens_eq early]
    exact .behind _
  have born : created ≤ cut := Instant.not_lt.mp unborn
  rw [Instant.later_of_le born]
  by_cases gone : ended < cut
  · -- All of it lies before the cut.
    have late := Instant.le_of_lt gone
    have nothing : ¬ cut < w.closes ended := by
      rw [spans.closes_eq late]
      exact Instant.not_lt.mpr late
    rw [if_neg nothing, Instant.earlier_of_lt gone, spans.closes_eq late]
    exact .before _
  have alive : cut ≤ ended := Instant.not_lt.mp gone
  rw [Instant.earlier_of_le alive]
  by_cases opened : w.opens created < cut
  · by_cases open_ : cut < w.closes ended
    · rw [if_pos opened, if_pos open_, if_pos (Instant.lt_trans opened open_)]
      exact .across opened open_
    · have same := Instant.le_antisymm (Instant.not_lt.mp open_) (spans.le_closes alive)
      rw [if_neg open_, same]
      exact .before _
  · have same := Instant.le_antisymm (spans.opens_le born) (Instant.not_lt.mp opened)
    rw [if_neg opened, same]
    exact .behind _

/-- The bounds of what is billed are bounds of the window or of the life span. -/
theorem mem_of_clip {timestamps : List Instant} {start stop : Instant}
    (bounds : ∀ t, t ∈ w.start ∨ t ∈ w.stop → t ∈ timestamps) (first : created ∈ timestamps)
    (last : ended ∈ timestamps) (billed : w.clip created ended = some (start, stop)) :
    start ∈ timestamps ∧ stop ∈ timestamps := by
  have begins : w.opens created ∈ timestamps := by
    unfold opens
    cases known : w.start with
    | none => exact first
    | some a =>
      rw [Option.elim_some, Instant.later]
      split
      · exact first
      · exact bounds a (.inl known)
  have ends : w.closes ended ∈ timestamps := by
    unfold closes
    cases known : w.stop with
    | none => exact last
    | some b =>
      rw [Option.elim_some, Instant.earlier]
      split
      · exact last
      · exact bounds b (.inr known)
  rw [clip_eq] at billed
  split at billed
  · cases billed
    exact ⟨begins, ends⟩
  · cases billed

end TimeWindow

end ClusterBilling
