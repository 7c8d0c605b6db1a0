import ClusterBilling.Billing.Estimate
import ClusterBilling.Inventory.Source

/-!
# The estimate of a cluster

To bill a cluster its groups and their instances are listed first, all of them, and only then
billed. A cluster that refuses to be listed by groups is listed by fleets; any other failure of the
inventory leaves the cluster without an estimate. Machines that run are billed until the cluster
ended, or until now.
-/

namespace ClusterBilling

namespace Inventory

variable {ι : Type}

/-- The groups of a cluster and how they were listed. -/
def parts (inventory : Inventory ι) (cluster : ClusterId) :
    Asked ι (Listing × List ResourceGroup) := fun s =>
  match inventory.groups cluster s with
  | (.ok groups, s) => (.ok (.groups, groups), s)
  | (.error (.unsupportedListing _ _), s) =>
    (inventory.fleets cluster).andThen (fun fleets => .answer (.fleets, fleets)) s
  | (.error fault, s) => (.error fault, s)

/-- A group with its instances. -/
def withInstances (inventory : Inventory ι) (cluster : ClusterId) (listing : Listing)
    (group : ResourceGroup) : Asked ι GroupInstances :=
  (inventory.instances cluster group.id listing).andThen fun instances =>
    .answer ⟨group, instances⟩

/-- **The groups of a cluster with their instances.** -/
def layout (inventory : Inventory ι) (cluster : ClusterId) : Asked ι (List GroupInstances) :=
  (inventory.parts cluster).andThen fun (listing, groups) =>
    .each (inventory.withInstances cluster listing) groups

end Inventory

/-- Until when the machines of a cluster are billed while they run. -/
def ClusterDescriptor.billedUntil (cluster : ClusterDescriptor) (now : Instant) : Instant :=
  cluster.endedAt.elim now (Instant.earlier · now)

/-- The terms on which the machines of a cluster are billed. -/
def ClusterDescriptor.terms (cluster : ClusterDescriptor) (surcharge : SurchargeModel)
    (window : TimeWindow) (now : Instant) : BillingTerms :=
  ⟨cluster.zone, surcharge, window, cluster.billedUntil now⟩

namespace Biller

variable {ι σ α : Type} [Amount α]

/-- **The estimate of a cluster**, with what became of the inventory, the steps of the round and
the price book. -/
def clusterEstimate (b : Biller σ α) (inventory : Inventory ι) (cluster : ClusterDescriptor)
    (surcharge : SurchargeModel) (window : TimeWindow) (now : Instant) (s : ι) (steps : Nat)
    (book : PriceBook σ α) : Except Fault (ClusterEstimate α) × ι × Nat × PriceBook σ α :=
  match inventory.layout cluster.id s with
  | (.error fault, s) => (.error fault, s, steps, book)
  | (.ok groups, s) =>
    let billed := b.groupsEstimate (cluster.terms surcharge window now) cluster.id groups steps book
    (.ok billed.estimate, s, billed.steps, billed.book)

end Biller

end ClusterBilling
