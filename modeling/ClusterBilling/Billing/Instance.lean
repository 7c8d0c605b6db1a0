import ClusterBilling.Billing.SurchargeModel
import ClusterBilling.Catalog.Basic
import ClusterBilling.Rates.Storage
import ClusterBilling.Spot.Book
import ClusterBilling.Time.Notation
import ClusterBilling.Time.Window

/-!
# The cost of an instance

An instance is billed for its life span, up to now while it runs, as far as it lies inside the
window asked for. Machine time is charged at list price or, for an instance that is priced on the
spot market, by the price book; the surcharge and the storage by the hour.

**Only two things can fail**: a life span that ends before it begins, and the fetching of spot
prices. An instance with no time inside the window costs nothing, and its spot prices are not
asked for. `Biller.opening` is the cost of an instance as far as the book is not needed for it,
`Biller.quote` asks the book, and `Biller.instanceCost` does both and waits.
-/

namespace ClusterBilling

/-- What the instances of a cluster are billed by. -/
structure BillingTerms where
  /-- Where the machines run. -/
  zone : Zone
  surcharge : SurchargeModel
  /-- The time that is billed. -/
  window : TimeWindow
  /-- Until when machines that run are billed. -/
  now : Instant

/-- What an instance costs. -/
structure InstanceCost (α : Type) where
  compute : α
  surcharge : α
  /-- The compute units behind the surcharge. -/
  surchargeUnits : α
  storage : α

/-- The prices that bills are made from. -/
structure Biller (σ α : Type) where
  catalog : PriceCatalog α
  spot : SpotSource σ α
  retry : RetryPolicy

namespace Instance

/-- The part of the life span that is billed, if there is any. -/
def billed (i : Instance) (terms : BillingTerms) : Except Fault (Option (Instant × Instant)) :=
  let stop := i.endOr terms.now
  if stop < i.createdAt then
    .error (.invalidInterval ("instance " ++ i.id ++ " ends at " ++ stop.displayText
      ++ " before its creation at " ++ i.createdAt.displayText))
  else .ok (terms.window.clip i.createdAt stop)

/-- Where the spot price of an instance is made. -/
def market (i : Instance) (terms : BillingTerms) : Market := ⟨i.kind, terms.zone⟩

/-- The volumes that count: those of the group, if it has any. -/
def billedVolumes (i : Instance) (groupVolumes : List Volume) : List Volume :=
  if groupVolumes.isEmpty then i.volumes else groupVolumes

end Instance

variable {σ α : Type} [Amount α]

namespace InstanceCost

def nothing : InstanceCost α := ⟨Amount.zero, Amount.zero, Amount.zero, Amount.zero⟩

/-- What an instance costs altogether. -/
def total (c : InstanceCost α) : α := c.compute + c.surcharge + c.storage

end InstanceCost

/-- The surcharge over some hours, and the compute units behind it. -/
def PriceCatalog.surchargeOf (catalog : PriceCatalog α) (model : SurchargeModel)
    (kind : InstanceKind) (hours : α) : α × α :=
  match model with
  | .absent => (Amount.zero, Amount.zero)
  | .serviceFee => (catalog.serviceFeeOf kind * hours, Amount.zero)
  | .computeUnits workload plan =>
    let info := catalog.unitsOf kind workload plan
    (info.costPerHour * hours, info.unitsPerHour * hours)

/-- The hours between two instants. -/
def hoursBetween (start stop : Instant) : α := secondsBetween start stop / 3600.0

namespace Biller

/-- What else an instance costs between two instants, beside its machine time. -/
def withExtras (b : Biller σ α) (terms : BillingTerms) (volumes : List Volume) (i : Instance)
    (start stop : Instant) (compute : α) : InstanceCost α :=
  let hours := hoursBetween start stop
  let surcharge := b.catalog.surchargeOf terms.surcharge i.kind hours
  ⟨compute, surcharge.1, surcharge.2, Storage.instanceCost hours (i.billedVolumes volumes)⟩

/-- **The cost of an instance** in a group with certain volumes, or the fetch that its price is
asked for with. -/
def opening (b : Biller σ α) (terms : BillingTerms) (volumes : List Volume) (i : Instance) :
    Pricing α (InstanceCost α) :=
  match i.billed terms with
  | .error fault => .priced (.error fault)
  | .ok none => .priced (.ok .nothing)
  | .ok (some (start, stop)) =>
    match i.pricingMode with
    | .onDemand =>
      let compute := b.catalog.priceOf i.kind * hoursBetween start stop
      .priced (.ok (b.withExtras terms volumes i start stop compute))
    | .spot => .waiting (.start b.retry (i.market terms) start stop)

/-- Asks the book for the price of an instance. -/
def quote (b : Biller σ α) (terms : BillingTerms) (volumes : List Volume) (i : Instance)
    (fetch : SpotFetch α) (book : PriceBook σ α) : Pricing α (InstanceCost α) × PriceBook σ α :=
  let (compute, book) := book.price b.spot b.retry fetch
  (compute.map (b.withExtras terms volumes i fetch.request.start fetch.request.stop), book)

/-- Goes on with the fetch that the price of an instance waits for. -/
def resume (b : Biller σ α) (terms : BillingTerms) (volumes : List Volume) (i : Instance)
    (fetch : SpotFetch α) (book : PriceBook σ α) : Pricing α (InstanceCost α) × PriceBook σ α :=
  let (compute, book) := book.resume b.spot b.retry fetch
  (compute.map (b.withExtras terms volumes i fetch.request.start fetch.request.stop), book)

/-- **The cost of an instance** that is billed on its own, after all waits. -/
def instanceCost (b : Biller σ α) (terms : BillingTerms) (volumes : List Volume) (i : Instance)
    (book : PriceBook σ α) : Except Fault (InstanceCost α) × PriceBook σ α :=
  match b.opening terms volumes i with
  | .priced outcome => (outcome, book)
  | .waiting fetch =>
    let (compute, book) := book.settle b.spot b.retry fetch
    (compute.map (b.withExtras terms volumes i fetch.request.start fetch.request.stop), book)

end Biller

end ClusterBilling
