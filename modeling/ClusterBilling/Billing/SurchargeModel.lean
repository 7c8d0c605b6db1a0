import ClusterBilling.Inventory.Record
import ClusterBilling.Workload

/-!
# Surcharge models

What a platform charges on top of machine time. Managed clusters pay a fee per instance hour;
notebook clusters pay by compute units, which depend on the kind of work they do and on the plan
subscribed to. A notebook cluster whose kind of work cannot be told has no model.
-/

namespace ClusterBilling

/-- How the surcharge of a cluster is reckoned. -/
inductive SurchargeModel
  /-- There is none. -/
  | absent
  /-- By the list of service fees. -/
  | serviceFee
  /-- By compute units. -/
  | computeUnits (workload : Workload) (plan : ServicePlan)
deriving DecidableEq, Repr, Inhabited

namespace SurchargeModel

/-- **The model of a cluster** on a platform. Signals that are missing count as empty. -/
def ofCluster (platform : Platform) (cluster : ClusterDescriptor) (plan : ServicePlan) :
    Except Fault SurchargeModel :=
  match platform with
  | .emr => .ok .serviceFee
  | .databricks =>
    let signals := cluster.runtime.getD ⟨"", ""⟩
    (Workload.determine signals.jobFlag signals.runtimeVersion).map fun workload =>
      .computeUnits workload plan

end SurchargeModel

end ClusterBilling
