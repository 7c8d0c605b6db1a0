import ClusterBilling.PriceList.Offer
import ClusterBilling.Rates.Surcharge

/-!
# Price catalogs

A catalog holds the list prices of one region by kind of machine: the price of machine time, the
fee of the managed service, the surcharge by compute units, and the hardware attributes published
with the price.

**Looking a price up never fails.** What the catalog does not know costs nothing and has no
attributes; whether a price is known is a question of its own.
-/

namespace ClusterBilling

/-- The list prices of a region. -/
structure PriceCatalog (α : Type) where
  /-- The region the prices are of, unless they were put together by hand. -/
  region : Option Region
  onDemand : OrderedMap InstanceKind α
  serviceFees : OrderedMap InstanceKind α
  specs : OrderedMap InstanceKind Attributes
  surcharges : SurchargeTable α
  counts : IndexCounts

namespace PriceCatalog

variable {α : Type}

/-- The catalog without any price. -/
def empty : PriceCatalog α := ⟨none, .empty, .empty, .empty, .empty, .zero⟩

/-- The catalog with one price of machine time set. -/
def withOnDemand (c : PriceCatalog α) (kind : InstanceKind) (price : α) : PriceCatalog α :=
  { c with onDemand := c.onDemand.insert kind price }

/-- The catalog with one service fee set. -/
def withServiceFee (c : PriceCatalog α) (kind : InstanceKind) (fee : α) : PriceCatalog α :=
  { c with serviceFees := c.serviceFees.insert kind fee }

/-- Whether the price of machine time is known. -/
def hasPrice (c : PriceCatalog α) (kind : InstanceKind) : Bool := c.onDemand.contains kind

/-- How many prices of machine time are known. -/
def onDemandCount (c : PriceCatalog α) : Nat := c.onDemand.size

/-- The hardware attributes of a kind. -/
def specsOf (c : PriceCatalog α) (kind : InstanceKind) : Attributes := c.specs.getD kind .empty

variable [Amount α]

/-- The hourly price of machine time. -/
def priceOf (c : PriceCatalog α) (kind : InstanceKind) : α := c.onDemand.getD kind Amount.zero

/-- The hourly fee of the managed service. -/
def serviceFeeOf (c : PriceCatalog α) (kind : InstanceKind) : α :=
  c.serviceFees.getD kind Amount.zero

/-- The compute units per hour and what they cost. -/
def unitsOf (c : PriceCatalog α) (kind : InstanceKind) (workload : Workload)
    (plan : ServicePlan) : UnitInfo α :=
  (c.surcharges.get? kind workload plan).getD ⟨Amount.zero, Amount.zero⟩

end PriceCatalog

end ClusterBilling
