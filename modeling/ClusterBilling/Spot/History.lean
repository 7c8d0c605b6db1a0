import ClusterBilling.OrderedMap
import ClusterBilling.Time.Instant

/-!
# Spot price histories

A history holds the prices observed in one market, by instant. The price curve behind it is a
step function: an observation holds from its instant until the next one, and before the earliest
observation the earliest price holds. `integrate` charges that curve over an interval, segment by
segment in ascending order, each segment at its price per hour.

Two checks say whether a history can be trusted for an interval: `needsRefresh` looks at its ends
and `gaps` between neighbours. That neither alarm means that no instant of the interval is far
from an observation is a law about both together.
-/

namespace ClusterBilling

/-- A price and the instant it was observed at. -/
structure Observation (α : Type) where
  time : Instant
  price : α

/-- Observed prices by instant. -/
structure History (α : Type) where
  points : OrderedMap Instant α

namespace History

variable {α : Type}

/-- The longest time between observations that counts as none missing: 25 hours, in
nanoseconds. -/
def maxGapNanos : Int := 90000000000000

def empty : History α := ⟨.empty⟩

instance : Inhabited (History α) := ⟨empty⟩

/-- Records a price, over any price of the same instant. -/
def insert (h : History α) (time : Instant) (price : α) : History α := ⟨h.points.insert time price⟩

/-- Records observations in order, so that the last one of an instant stays. -/
def extend (h : History α) (observations : List (Observation α)) : History α :=
  ⟨h.points.overlay (observations.map fun o => (o.time, o.price))⟩

def ofObservations (observations : List (Observation α)) : History α := empty.extend observations

/-- The observations in ascending order. -/
def observations (h : History α) : List (Observation α) :=
  h.points.toList.map fun point => ⟨point.1, point.2⟩

def size (h : History α) : Nat := h.points.size

def isEmpty (h : History α) : Bool := h.points.isEmpty

def earliest? (h : History α) : Option Instant := h.points.first?.map Prod.fst

def latest? (h : History α) : Option Instant := h.points.last?.map Prod.fst

/-- Whether observations for the interval may be missing at its ends: there are none, the latest
lies too long before its end, or the earliest after its start. -/
def needsRefresh (h : History α) (start stop : Instant) : Bool :=
  match h.earliest?, h.latest? with
  | some earliest, some latest => maxGapNanos < stop.nanosSince latest || start < earliest
  | _, _ => true

/-- Neighbours that are too far apart. -/
def gaps (h : History α) : List (Instant × Instant) :=
  let instants := h.points.keys
  (instants.zip (instants.drop 1)).filter fun (a, b) => maxGapNanos < b.nanosSince a

section Amounts

variable [Amount α]

/-- The cost of an interval at one price. -/
def segmentCost (start stop : Instant) (price : α) : α :=
  hourlyCost (secondsBetween start stop) price

/-- The running sum over an interval that begins at `cursor` in a segment of price `price`, the
further observations given in ascending order. -/
def walk (stop : Instant) (sum : α) (cursor : Instant) (price : α) :
    List (Instant × α) → α
  | [] => sum + segmentCost cursor stop price
  | (time, next) :: rest =>
    if stop ≤ time then sum + segmentCost cursor stop price
    else walk stop (sum + segmentCost cursor time price) time next rest

/-- **The cost of an interval** under the price curve. Nothing for an empty interval or an empty
history; one product where one price holds throughout; else the sum over the segments, from
zero. -/
def integrate (h : History α) (start stop : Instant) : α :=
  if stop ≤ start then Amount.zero
  else
    match h.points.toList with
    | [] => Amount.zero
    | [(_, price)] => segmentCost start stop price
    | (first, earliest) :: rest =>
      let points := (first, earliest) :: rest
      let before := points.takeWhile fun point => point.1 < start
      let inside := points.dropWhile fun point => point.1 < start
      let opening := (before.getLast?.map Prod.snd).getD earliest
      match inside with
      | [] => segmentCost start stop opening
      | (time, _) :: _ =>
        if stop ≤ time then segmentCost start stop opening
        else walk stop Amount.zero start opening inside

end Amounts

end History

end ClusterBilling
