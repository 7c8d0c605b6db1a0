import ClusterBilling.Billing.Interleaved
import ClusterBilling.Service.CostService

/-!
# Several clusters at a time

The estimates of several clusters are computed side by side. Each cluster of the request has a task
that goes from stage to stage, as `CostService.step` says, and from one move of a task to its next
the others may move. All of them share the memory of the service, the inventory and the price book.

**The slots are the only order among them.** A task that finds no estimate kept waits until no other
task is in the slot of its cluster, and leaves the slot when it ends. Everything else is left to a
schedule: a list of moves, each by the task at a place of the request. A schedule is free to pass the
gate of a market that somebody is at, so that there are more schedules here than the tasks of a
program could come by.

A request is over when all of its tasks have ended. Where the schedule does not bring them there, the
moves of `CostService.closing` follow it; behind an empty schedule they take the clusters in the
order of the request, each to its end.
-/

namespace ClusterBilling

/-- How far a move goes where the outside is asked. -/
inductive Pace
  /-- One call of the inventory, or one turn of the bill, by the instance at a place. -/
  | turn (place : Nat)
  /-- The rest of the listing, or of the bill. -/
  | onward
deriving DecidableEq, Repr

/-- How far the estimate of a cluster has come. -/
inductive EstimateStage (α : Type)
  | begun
  /-- No estimate is kept; the task waits for the slot. -/
  | queued
  /-- In the slot; what is kept is to be looked at again. -/
  | admitted
  /-- The description is to be looked up. -/
  | describing
  /-- No description is kept; the inventory is to be asked. -/
  | asking
  /-- The inventory has described the cluster. -/
  | answered (descriptor : ClusterDescriptor)
  | described (descriptor : ClusterDescriptor)
  | listing (descriptor : ClusterDescriptor) (terms : BillingTerms) (layout : LayoutStage)
  | billing (descriptor : ClusterDescriptor) (terms : BillingTerms) (bill : RunningBill α)
  /-- The estimate is computed, and may be kept. -/
  | billed (descriptor : ClusterDescriptor) (estimate : ClusterEstimate α)
  | ended (outcome : Except Fault (ClusterEstimate α))

namespace EstimateStage

variable {α : Type}

def isQueued : EstimateStage α → Bool
  | .queued => true
  | _ => false

/-- Whether a task is in the slot of its cluster, where slots are taken. -/
def holdsSlot : EstimateStage α → Bool
  | .begun | .queued | .ended _ => false
  | _ => true

def outcome? : EstimateStage α → Option (Except Fault (ClusterEstimate α))
  | .ended outcome => some outcome
  | _ => none

/-- The end of a computation that failed. -/
def failed [Amount α] (cluster : ClusterId) (fault : Fault) : EstimateStage α :=
  .ended (CostService.orEmpty cluster (.error fault))

end EstimateStage

/-- One of the estimates that a request asks for. -/
structure EstimateTask (α : Type) where
  cluster : ClusterId
  stage : EstimateStage α

/-- A request for several estimates on its way. -/
structure ServiceRun (ι σ α : Type) where
  /-- In the order of the request. -/
  tasks : List (EstimateTask α)
  state : ServiceState ι σ α

/-- A move of the task at a place of the request. -/
structure Move where
  place : Nat
  pace : Pace
deriving DecidableEq, Repr

namespace ServiceRun

variable {ι σ α : Type}

/-- The request for some clusters before the first move. -/
def start (clusters : List ClusterId) (s : ServiceState ι σ α) : ServiceRun ι σ α :=
  ⟨clusters.map (⟨·, .begun⟩), s⟩

/-- Whether a task waits for a slot that another one is in. -/
def blocks (r : ServiceRun ι σ α) (task : EstimateTask α) : Bool :=
  task.stage.isQueued
    && r.tasks.any fun other => other.cluster = task.cluster && other.stage.holdsSlot

/-- The task at a place, if it has not ended and need not wait. -/
def ready? (r : ServiceRun ι σ α) (place : Nat) : Option (EstimateTask α) :=
  r.tasks[place]?.filter fun task => task.stage.outcome?.isNone && !r.blocks task

/-- What was answered so far, in the order of the request. -/
def outcomes (r : ServiceRun ι σ α) : List (Except Fault (ClusterEstimate α)) :=
  r.tasks.filterMap fun task => task.stage.outcome?

end ServiceRun

namespace CostService

variable {ι σ α : Type} [Amount α]

/-- A look at the kept estimates: what is found is the answer. -/
def lookFor (cluster : ClusterId) (next : EstimateStage α) (s : ServiceState ι σ α) :
    EstimateStage α × ServiceState ι σ α :=
  let s := s.spend
  match s.cache.estimate? cluster with
  | some estimate => (.ended (.ok estimate), s)
  | none => (next, s)

/-- The inventory is asked for a description. -/
def askFor (service : CostService ι σ α) (cluster : ClusterId) (s : ServiceState ι σ α) :
    EstimateStage α × ServiceState ι σ α :=
  match service.inventory.describe cluster s.outside with
  | (.ok descriptor, outside) => (.answered descriptor, { s with outside := outside })
  | (.error fault, outside) => (.failed cluster fault, { s with outside := outside })

/-- The terms of the bill are settled. -/
def openListing (service : CostService ι σ α) (cluster : ClusterId)
    (descriptor : ClusterDescriptor) (s : ServiceState ι σ α) :
    EstimateStage α × ServiceState ι σ α :=
  match SurchargeModel.ofCluster service.platform descriptor service.plan with
  | .ok surcharge =>
    let (now, outside) := service.clock s.outside
    (.listing descriptor (descriptor.terms surcharge service.window now) .groups,
      { s with outside := outside })
  | .error fault => (.failed cluster fault, s)

/-- The listing goes on. -/
def goOnListing (service : CostService ι σ α) (cluster : ClusterId)
    (descriptor : ClusterDescriptor) (terms : BillingTerms) (layout : LayoutStage)
    (s : ServiceState ι σ α) : Pace → EstimateStage α × ServiceState ι σ α
  | .turn _ =>
    match layout.listed? with
    | some groups => (.billing descriptor terms (.start descriptor.id groups), s)
    | none =>
      match service.inventory.layoutCall descriptor.id layout s.outside with
      | (.ok layout, outside) => (.listing descriptor terms layout, { s with outside := outside })
      | (.error fault, outside) => (.failed cluster fault, { s with outside := outside })
  | .onward =>
    match service.inventory.layoutFrom descriptor.id layout s.outside with
    | (.ok groups, outside) =>
      (.billing descriptor terms (.start descriptor.id groups), { s with outside := outside })
    | (.error fault, outside) => (.failed cluster fault, { s with outside := outside })

/-- The bill goes on. -/
def goOnBilling (service : CostService ι σ α) (descriptor : ClusterDescriptor)
    (terms : BillingTerms) (bill : RunningBill α) (s : ServiceState ι σ α) :
    Pace → EstimateStage α × ServiceState ι σ α
  | .turn place =>
    match bill.total? with
    | some estimate => (.billed descriptor estimate, s)
    | none =>
      let (bill, book) := service.biller.turnAt terms place bill s.book
      (.billing descriptor terms bill, { s with book := book })
  | .onward =>
    let billed := service.biller.finishBill terms bill s.steps s.book
    (.billed descriptor billed.estimate, { s with steps := billed.steps, book := billed.book })

/-- **What a task does next.** -/
def step (service : CostService ι σ α) (cluster : ClusterId) (pace : Pace) :
    EstimateStage α → ServiceState ι σ α → EstimateStage α × ServiceState ι σ α
  | .begun, s => if service.keepsResults then lookFor cluster .queued s else (.describing, s)
  | .queued, s => (.admitted, s.takeSlot cluster)
  | .admitted, s => lookFor cluster .describing s
  | .describing, s =>
    let s := s.spend
    match s.cache.descriptor? cluster with
    | some descriptor => (.described descriptor, s)
    | none => (.asking, s)
  | .asking, s => service.askFor cluster s
  | .answered descriptor, s => (.described descriptor, s.keepDescriptor descriptor)
  | .described descriptor, s => service.openListing cluster descriptor s
  | .listing descriptor terms layout, s =>
    service.goOnListing cluster descriptor terms layout s pace
  | .billing descriptor terms bill, s => service.goOnBilling descriptor terms bill s pace
  | .billed descriptor estimate, s =>
    (.ended (.ok estimate), service.remember descriptor estimate s)
  | .ended outcome, s => (.ended outcome, s)

/-- **A move**, which does nothing if the task has ended or must wait. -/
def move (service : CostService ι σ α) (r : ServiceRun ι σ α) (m : Move) : ServiceRun ι σ α :=
  match r.ready? m.place with
  | some task =>
    let (stage, s) := service.step task.cluster m.pace task.stage r.state
    ⟨r.tasks.set m.place ⟨task.cluster, stage⟩, s⟩
  | none => r

/-- What becomes of a request by some moves. -/
def run (service : CostService ι σ α) (moves : List Move) (r : ServiceRun ι σ α) :
    ServiceRun ι σ α :=
  moves.foldl service.move r

/-- The most moves that a task makes which goes onward. -/
def longestWay : Nat := 10

/-- The moves that end so many tasks: each is taken to its end in its turn, and then those that had
to wait for others are. -/
def closing (count : Nat) : List Move :=
  let inTurn := (List.range count).flatMap fun place => List.replicate longestWay ⟨place, .onward⟩
  inTurn ++ inTurn

/-- The answers for several clusters, computed side by side by a schedule. -/
def outcomes (service : CostService ι σ α) (schedule : List Move) (clusters : List ClusterId)
    (s : ServiceState ι σ α) : List (Except Fault (ClusterEstimate α)) × ServiceState ι σ α :=
  let r := service.run (schedule ++ closing clusters.length) (.start clusters s)
  (r.outcomes, r.state)

/-- The values, if none of the outcomes is a failure; else the first failure. -/
def gather {β : Type} (outcomes : List (Except Fault β)) : Except Fault (List β) :=
  outcomes.mapM id

/-- **The estimates of several clusters.** All of them are computed; the first refusal in the order
of the request, if there is one, is the answer. -/
def estimates (service : CostService ι σ α) (schedule : List Move) (clusters : List ClusterId) :
    Asked (ServiceState ι σ α) (List (ClusterEstimate α)) := fun s =>
  let (outcomes, s) := service.outcomes schedule clusters s
  (gather outcomes, s)

/-- The sum of the costs of several clusters. -/
def costs (service : CostService ι σ α) (schedule : List Move) (clusters : List ClusterId) :
    Asked (ServiceState ι σ α) (Breakdown α) :=
  (service.estimates schedule clusters).andThen fun estimates =>
    .answer (.sum (estimates.map ClusterEstimate.breakdown))

/-- The sum of the costs of a selection. -/
def selectionCost (service : CostService ι σ α) (schedule : List Move) (selection : String) :
    Asked (ServiceState ι σ α) (Breakdown α) :=
  service.costs schedule (Selection.clusters selection)

end CostService

end ClusterBilling
