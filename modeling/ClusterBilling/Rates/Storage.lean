import ClusterBilling.Arithmetic
import ClusterBilling.Inventory.Record

/-!
# Storage rates

Volumes are priced per gigabyte and month by their type, declared in binary gigabytes and billed
by the hour. Every instance carries a root volume besides the declared ones. A type without a
price costs nothing.
-/

namespace ClusterBilling.Storage

variable {α : Type} [Amount α]

/-- The hours of a month of billing. -/
def hoursPerMonth : α := 720.0

/-- The factor between declared and billed size. -/
def gibFactor : α := 0.931323

def rootType : String := "gp2"

def rootSizeGib : Nat := 15

/-- The price per gigabyte and month of a type. -/
def rate? (volumeType : String) : Option α :=
  if volumeType = "gp2" then some 0.10
  else if volumeType = "gp3" then some 0.08
  else if volumeType = "io1" || volumeType = "io2" then some 0.125
  else if volumeType = "standard" then some 0.05
  else if volumeType = "st1" then some 0.045
  else if volumeType = "sc1" then some 0.015
  else none

/-- The cost of one volume over some hours. -/
def volumeCost (hours : α) (volumeType : String) (sizeGib : Nat) : α :=
  match rate? volumeType with
  | some rate => Amount.ofInt sizeGib * rate * gibFactor * hours / hoursPerMonth
  | none => Amount.zero

/-- The cost of the root volume. -/
def rootCost (hours : α) : α := volumeCost hours rootType rootSizeGib

/-- **The storage of an instance**: its declared volumes, then the root volume. -/
def instanceCost (hours : α) (volumes : List Volume) : α :=
  Amount.sum (volumes.map fun v => volumeCost hours v.volumeType v.sizeGib) + rootCost hours

end ClusterBilling.Storage
