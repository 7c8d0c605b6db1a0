import ClusterBilling.Billing.Cluster
import ClusterBilling.Service.ResultCache
import ClusterBilling.Service.Selection

/-!
# The cost service

The service answers what clusters cost. It describes a cluster, chooses the surcharge model, lists
and bills its instances, and keeps the result where it will not change any more: the cluster is
gone, all of its time was asked for, and no instance was left out.

**Every answer is an estimate or a refusal of unsupported input.** Any other failure on the way to
an estimate gives the empty one, which is never kept. Requests for one cluster exclude each other
while one of them computes: before a result is computed that may be kept, the slot of the cluster is
taken, and what is kept is looked at once more, as somebody else may have computed it meanwhile.
Several clusters at a time are the matter of `Service/Concurrent`.

Looking up what is kept takes steps of the same rounds as billing does. Where no step is left a
new round begins.
-/

namespace ClusterBilling

/-- What the service works with. `ι` is the state of what is outside, `σ` that of the source of
spot prices. -/
structure CostService (ι σ α : Type) where
  inventory : Inventory ι
  clock : ι → Instant × ι
  biller : Biller σ α
  platform : Platform
  plan : ServicePlan
  /-- The time that is billed. -/
  window : TimeWindow

/-- The service's memory, and the states of what it works with. -/
structure ServiceState (ι σ α : Type) where
  cache : ResultCache α
  /-- The slots that were asked for so far. -/
  slots : List EstimateSlot
  outside : ι
  book : PriceBook σ α
  /-- The steps that are left in the round. -/
  steps : Nat

namespace ServiceState

variable {ι σ α : Type}

/-- The state before any request. -/
def start (outside : ι) (source : σ) : ServiceState ι σ α :=
  ⟨.empty, [], outside, .start source, GroupBilling.roundSteps⟩

/-- The state at the beginning of a round. -/
def newRound (s : ServiceState ι σ α) : ServiceState ι σ α :=
  { s with steps := GroupBilling.roundSteps }

/-- The state after one more step. -/
def spend (s : ServiceState ι σ α) : ServiceState ι σ α :=
  { s with steps := (if s.steps = 0 then GroupBilling.roundSteps else s.steps) - 1 }

/-- The state once the slot of a cluster is taken; one that is new is first listed. -/
def takeSlot (s : ServiceState ι σ α) (cluster : ClusterId) : ServiceState ι σ α :=
  if s.slots.contains ⟨cluster⟩ then s.spend.spend
  else { s.spend.spend.spend with slots := ⟨cluster⟩ :: s.slots }

/-- The state once a description was handed over to be kept. -/
def keepDescriptor (s : ServiceState ι σ α) (descriptor : ClusterDescriptor) :
    ServiceState ι σ α :=
  let s := { s with cache := s.cache.keepDescriptor descriptor }
  if descriptor.isTerminal then s.spend else s

/-- The state once an estimate was handed over to be kept. -/
def keepEstimate (s : ServiceState ι σ α) (descriptor : ClusterDescriptor)
    (estimate : ClusterEstimate α) : ServiceState ι σ α :=
  let s := { s with cache := s.cache.keepEstimate descriptor estimate }
  if descriptor.isTerminal then s.spend else s

end ServiceState

namespace CostService

variable {ι σ α : Type}

/-- Whether estimates are kept: all of a cluster's time is billed. -/
def keepsResults (service : CostService ι σ α) : Bool := service.window = .unbounded

/-- **The description of a cluster**, kept or asked for. -/
def describe (service : CostService ι σ α) (cluster : ClusterId) :
    Asked (ServiceState ι σ α) ClusterDescriptor := fun s =>
  let s := s.spend
  match s.cache.descriptor? cluster with
  | some descriptor => (.ok descriptor, s)
  | none =>
    match service.inventory.describe cluster s.outside with
    | (.ok descriptor, outside) =>
      (.ok descriptor, { s with outside := outside }.keepDescriptor descriptor)
    | (.error fault, outside) => (.error fault, { s with outside := outside })

/-- The state after an estimate was computed. -/
def remember (service : CostService ι σ α) (cluster : ClusterDescriptor)
    (estimate : ClusterEstimate α) (s : ServiceState ι σ α) : ServiceState ι σ α :=
  if service.keepsResults && !estimate.isDegraded then s.keepEstimate cluster estimate else s

variable [Amount α]

/-- The estimate of a described cluster under a surcharge model. -/
def billCluster (service : CostService ι σ α) (cluster : ClusterDescriptor)
    (surcharge : SurchargeModel) : Asked (ServiceState ι σ α) (ClusterEstimate α) := fun s =>
  let (now, outside) := service.clock s.outside
  let (outcome, outside, steps, book) := service.biller.clusterEstimate service.inventory cluster
    surcharge service.window now outside s.steps s.book
  let s := { s with outside := outside, steps := steps, book := book }
  match outcome with
  | .ok estimate => (.ok estimate, service.remember cluster estimate s)
  | .error fault => (.error fault, s)

/-- The estimate of a described cluster. -/
def billDescribed (service : CostService ι σ α) (cluster : ClusterDescriptor) :
    Asked (ServiceState ι σ α) (ClusterEstimate α) := fun s =>
  match SurchargeModel.ofCluster service.platform cluster service.plan with
  | .ok surcharge => service.billCluster cluster surcharge s
  | .error fault => (.error fault, s)

/-- **The computation of an estimate.** -/
def compute (service : CostService ι σ α) (cluster : ClusterId) :
    Asked (ServiceState ι σ α) (ClusterEstimate α) :=
  (service.describe cluster).andThen service.billDescribed

/-- An estimate with the empty one for failures, those of unsupported input apart. -/
def orEmpty (cluster : ClusterId) :
    Except Fault (ClusterEstimate α) → Except Fault (ClusterEstimate α)
  | .ok estimate => .ok estimate
  | .error fault => if fault.isUnsupportedInput then .error fault else .ok (.empty cluster)

/-- The estimate of a cluster, computed whatever is kept. -/
def computeOrEmpty (service : CostService ι σ α) (cluster : ClusterId) :
    Asked (ServiceState ι σ α) (ClusterEstimate α) := fun s =>
  let (outcome, s) := service.compute cluster s
  (orEmpty cluster outcome, s)

/-- The estimate of a cluster whose slot is taken, kept or computed. -/
def estimateInSlot (service : CostService ι σ α) (cluster : ClusterId) :
    Asked (ServiceState ι σ α) (ClusterEstimate α) := fun s =>
  let s := s.spend
  match s.cache.estimate? cluster with
  | some estimate => (.ok estimate, s)
  | none => service.computeOrEmpty cluster s

/-- **The estimate of a cluster**, kept or computed. -/
def estimate (service : CostService ι σ α) (cluster : ClusterId) :
    Asked (ServiceState ι σ α) (ClusterEstimate α) := fun s =>
  if service.keepsResults then
    let s := s.spend
    match s.cache.estimate? cluster with
    | some estimate => (.ok estimate, s)
    | none => service.estimateInSlot cluster (s.takeSlot cluster)
  else service.computeOrEmpty cluster s

/-- The breakdown of a cluster's costs. -/
def cost (service : CostService ι σ α) (cluster : ClusterId) :
    Asked (ServiceState ι σ α) (Breakdown α) :=
  (service.estimate cluster).andThen fun estimate => .answer estimate.breakdown

end CostService

end ClusterBilling
