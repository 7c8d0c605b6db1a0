import ClusterBilling.Time.Instant

/-!
# Time windows

A window bounds the time that is billed, on either side or on none. Clipping an interval to a
window gives the part inside, if there is any.
-/

namespace ClusterBilling

/-- The time from `start` until `stop`; an absent bound is no bound. -/
structure TimeWindow where
  start : Option Instant
  stop : Option Instant
deriving DecidableEq

namespace TimeWindow

/-- The window without bounds. -/
def unbounded : TimeWindow := ⟨none, none⟩

/-- The part of the interval from `start` until `stop` inside the window, if it is not empty. -/
def clip (w : TimeWindow) (start stop : Instant) : Option (Instant × Instant) :=
  let start := w.start.elim start (Instant.later · start)
  let stop := w.stop.elim stop (Instant.earlier · stop)
  if start < stop then some (start, stop) else none

end TimeWindow

end ClusterBilling
