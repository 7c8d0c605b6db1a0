import ClusterBilling.Billing.Estimate

/-!
# The result cache

What a cluster that is gone has cost does not change any more, so its description and its estimate
are kept. Only what belongs to a cluster in a final state is kept, and what is kept stays: a second
result for the same cluster changes nothing.

Requests for the estimate of one cluster exclude each other while one of them computes; the slot
they compete for is that of the cluster and no other.
-/

namespace ClusterBilling

/-- Kept results, by cluster. -/
structure ResultCache (α : Type) where
  estimates : OrderedMap ClusterId (ClusterEstimate α)
  descriptors : OrderedMap ClusterId ClusterDescriptor

/-- The right to compute the estimate of a cluster, which one request has at a time. -/
structure EstimateSlot where
  cluster : ClusterId
deriving DecidableEq, Repr

namespace ResultCache

variable {α : Type}

def empty : ResultCache α := ⟨.empty, .empty⟩

/-- How many estimates are kept. -/
def size (c : ResultCache α) : Nat := c.estimates.size

def isEmpty (c : ResultCache α) : Bool := c.estimates.isEmpty

def estimate? (c : ResultCache α) (cluster : ClusterId) : Option (ClusterEstimate α) :=
  c.estimates.get? cluster

/-- The breakdown of a kept estimate. -/
def cost? (c : ResultCache α) (cluster : ClusterId) : Option (Breakdown α) :=
  (c.estimate? cluster).map ClusterEstimate.breakdown

def descriptor? (c : ResultCache α) (cluster : ClusterId) : Option ClusterDescriptor :=
  c.descriptors.get? cluster

/-- Whether an estimate of a cluster would be kept. -/
def takesEstimate (c : ResultCache α) (cluster : ClusterDescriptor) : Bool :=
  cluster.isTerminal && !c.estimates.contains cluster.id

/-- Keeps an estimate of a cluster, if it is one to keep. -/
def keepEstimate (c : ResultCache α) (cluster : ClusterDescriptor)
    (estimate : ClusterEstimate α) : ResultCache α :=
  if c.takesEstimate cluster then
    { c with estimates := c.estimates.insert cluster.id estimate }
  else c

/-- Whether a description of a cluster would be kept. -/
def takesDescriptor (c : ResultCache α) (cluster : ClusterDescriptor) : Bool :=
  cluster.isTerminal && !c.descriptors.contains cluster.id

/-- Keeps the description of a cluster, if it is one to keep. -/
def keepDescriptor (c : ResultCache α) (cluster : ClusterDescriptor) : ResultCache α :=
  if c.takesDescriptor cluster then
    { c with descriptors := c.descriptors.insert cluster.id cluster }
  else c

end ResultCache

end ClusterBilling
