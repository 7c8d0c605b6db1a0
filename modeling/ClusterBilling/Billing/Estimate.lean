import ClusterBilling.Billing.Group
import ClusterBilling.Breakdown

/-!
# Cluster estimates

The estimate of a cluster is the breakdown of what its instances cost, by the role of the group
each belongs to. An instance that cannot be billed adds nothing to the breakdown; it is listed with
the reason, so that every instance counts exactly once, in the amounts or in the list.
-/

namespace ClusterBilling

/-- An instance that could not be billed. -/
structure UnbilledInstance where
  id : String
  role : String
  reason : String
deriving DecidableEq, Repr, Inhabited

/-- What a cluster costs, as far as it could be billed. -/
structure ClusterEstimate (α : Type) where
  cluster : ClusterId
  breakdown : Breakdown α
  /-- The compute units consumed. -/
  surchargeUnits : α
  /-- The instances left out. -/
  unbilled : List UnbilledInstance

namespace ClusterEstimate

variable {α : Type}

/-- Whether instances are left out, so that the costs are understated. -/
def isDegraded (e : ClusterEstimate α) : Bool := !e.unbilled.isEmpty

variable [Amount α]

/-- The estimate before any group. -/
def start (cluster : ClusterId) : ClusterEstimate α := ⟨cluster, .start, Amount.zero, []⟩

/-- **The empty estimate**, for a cluster that could not be billed at all. -/
def empty (cluster : ClusterId) : ClusterEstimate α := ⟨cluster, .emptyCluster, Amount.zero, []⟩

/-- The estimate with room for a role. -/
def ensureRole (e : ClusterEstimate α) (role : String) : ClusterEstimate α :=
  { e with breakdown := e.breakdown.ensureRole role }

/-- The estimate with the costs of one more instance. -/
def addCost (e : ClusterEstimate α) (role : String) (cost : InstanceCost α) : ClusterEstimate α :=
  { e with
    breakdown := ((e.breakdown.add role .compute cost.compute).add role .surcharge
      cost.surcharge).add role .storage cost.storage
    surchargeUnits := e.surchargeUnits + cost.surchargeUnits }

/-- The estimate with one more instance left out. -/
def addUnbilled (e : ClusterEstimate α) (role : String) (i : Instance) (fault : Fault) :
    ClusterEstimate α :=
  { e with unbilled := e.unbilled ++ [⟨i.id, role, fault.message⟩] }

/-- The estimate with one more instance, billed or not. -/
def addInstance (e : ClusterEstimate α) (role : String) (i : Instance) :
    Except Fault (InstanceCost α) → ClusterEstimate α
  | .ok cost => e.addCost role cost
  | .error fault => e.addUnbilled role i fault

/-- The estimate with the instances of one more group. -/
def addGroup (e : ClusterEstimate α) (role : String)
    (costs : List (Instance × Except Fault (InstanceCost α))) : ClusterEstimate α :=
  costs.foldl (fun e cost => e.addInstance role cost.1 cost.2) (e.ensureRole role)

end ClusterEstimate

namespace Biller

variable {σ α : Type} [Amount α]

/-- The way through the groups of a cluster. -/
structure RunningEstimate (σ α : Type) where
  estimate : ClusterEstimate α
  /-- The steps that are left in the round. -/
  steps : Nat
  book : PriceBook σ α

/-- Bills one more group. -/
def billGroup (b : Biller σ α) (terms : BillingTerms) (state : RunningEstimate σ α)
    (g : GroupInstances) : RunningEstimate σ α :=
  let billed := b.groupCosts terms g state.steps state.book
  ⟨state.estimate.addGroup g.group.role billed.costs, billed.steps, billed.book⟩

/-- **The estimate of groups**, billed one after the other, when a certain number of steps is left
at first. -/
def groupsEstimate (b : Biller σ α) (terms : BillingTerms) (cluster : ClusterId)
    (groups : List GroupInstances) (steps : Nat) (book : PriceBook σ α) : RunningEstimate σ α :=
  groups.foldl (b.billGroup terms) ⟨.start cluster, steps, book⟩

end Biller

end ClusterBilling
