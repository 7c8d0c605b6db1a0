import ClusterBilling.Proofs.Billing.Accounts
import ClusterBilling.Proofs.Billing.Clock
import ClusterBilling.Proofs.Inventory.Replay

/-!
# Estimates of recorded clusters

A recorded cluster is always laid out, so it always has an estimate: the one of its groups as they
are laid out, in which every instance of theirs counts once for its own group (`bills_laidOut`).
**How the cluster is listed makes no difference** (`clusterEstimate_flip`), neither to the estimate
nor to the prices that were fetched on the way.

**The groups are billed as they were recorded** where groups of one name have the same instances
(`clusterEstimate_recorded`). Where they do not, the instances of the first group of the name are
billed for every group of the name, and the others for none (`clusterEstimate_misbooked`).
-/

namespace ClusterBilling

open InventoryRecording (replay)

namespace Biller

variable {σ α : Type} [Amount α] (b : Biller σ α)

/-- **Whether a recorded cluster is billed as some groups**, on whatever terms and from whatever
prices: the estimate is the one of the groups, and each of their instances counts once in it, for
the role of its own group. -/
def Bills (r : InventoryRecording) (cluster : ClusterDescriptor) (groups : List GroupInstances) :
    Prop :=
  ∀ (surcharge : SurchargeModel) (window : TimeWindow) (now : Instant) (steps : Nat)
    (book : PriceBook σ α),
    let billed := b.groupsEstimate (cluster.terms surcharge window now) cluster.id groups steps book
    b.clusterEstimate replay cluster surcharge window now r steps book
        = (.ok billed.estimate, r, billed.steps, billed.book)
      ∧ ∃ charges : List (Charge α),
        billed.estimate.Accounts (groups.map fun g => g.group.role) charges
        ∧ charges.map (fun c => (c.role, c.volumes, c.item))
          = groups.flatMap fun g => g.instances.map fun i => (g.group.role, g.group.volumes, i)

variable {r : InventoryRecording} {cluster : ClusterId} {c : RecordedCluster}

/-- **A recorded cluster is billed as its groups are laid out.** -/
theorem bills_laidOut (known : r.cluster c.descriptor.id = .ok c) :
    b.Bills r c.descriptor c.laidOut := by
  intro surcharge window now steps book
  let terms := c.descriptor.terms surcharge window now
  constructor
  · rw [clusterEstimate, InventoryRecording.layout_replay known]
  · exact ⟨b.charges terms c.laidOut steps book,
      b.accounts_groupsEstimate terms c.descriptor.id c.laidOut steps book,
      b.items_charges terms c.laidOut steps book⟩

/-- **Listed by groups or by fleets, a recorded cluster costs the same.** Any of the recorded
clusters may be listed the other way: every one of them goes on having an estimate, which stays
the same, as do the prices that are known afterwards. -/
theorem clusterEstimate_flip (r : InventoryRecording) {cluster : ClusterId}
    (recorded : cluster ∈ r.clusterIds) (place : Nat) :
    ∃ descriptor, replay.describe cluster r = (.ok descriptor, r)
      ∧ replay.describe cluster (r.flip place) = (.ok descriptor, r.flip place)
      ∧ ∀ (surcharge : SurchargeModel) (window : TimeWindow) (now : Instant) (steps : Nat)
        (book : PriceBook σ α), ∃ estimate steps' book',
        b.clusterEstimate replay descriptor surcharge window now r steps book
            = (.ok estimate, r, steps', book')
          ∧ b.clusterEstimate replay descriptor surcharge window now (r.flip place) steps book
            = (.ok estimate, r.flip place, steps', book') := by
  obtain ⟨c, -, rfl, known⟩ := InventoryRecording.exists_cluster recorded
  -- What is found afterwards has the same descriptor and the same groups.
  have flipped : ∃ c', (r.flip place).cluster c.descriptor.id = .ok c'
      ∧ c'.descriptor = c.descriptor ∧ c'.laidOut = c.laidOut := by
    rcases InventoryRecording.cluster_flip known place with same | other
    · exact ⟨c, same, rfl, rfl⟩
    · exact ⟨c.flipped, other, rfl, c.laidOut_flipped⟩
  obtain ⟨c', known', described, laidOut⟩ := flipped
  refine ⟨c.descriptor, InventoryRecording.describe_replay known, ?_, ?_⟩
  · rw [InventoryRecording.describe_replay known', described]
  · intro surcharge window now steps book
    have first := (b.bills_laidOut known surcharge window now steps book).1
    rw [← described] at known'
    have second := (b.bills_laidOut known' surcharge window now steps book).1
    rw [described, laidOut] at second
    exact ⟨_, _, _, first, second⟩

/-- **A recorded cluster is billed as it was recorded** if its groups are unambiguous; in any case
it is billed as they are laid out. -/
theorem clusterEstimate_recorded (r : InventoryRecording) {cluster : ClusterId}
    (recorded : cluster ∈ r.clusterIds) :
    ∃ c, r.clusters.find? (fun c => c.descriptor.id == cluster) = some c
      ∧ replay.describe cluster r = (.ok c.descriptor, r)
      ∧ b.Bills r c.descriptor c.laidOut
      ∧ (c.laidOut = c.groups ↔ c.Unambiguous)
      ∧ (c.Unambiguous → b.Bills r c.descriptor c.groups) := by
  obtain ⟨c, found, rfl, known⟩ := InventoryRecording.exists_cluster recorded
  have laidOut := b.bills_laidOut known
  refine ⟨c, found, InventoryRecording.describe_replay known, laidOut, c.laidOut_eq_iff, ?_⟩
  intro unambiguous
  rwa [c.laidOut_eq_iff.mpr unambiguous] at laidOut

section Sample

/-- A group of machines that are paid by the hour from one o'clock on, each until some hour. -/
def hourlyGroup (id : GroupId) (role : String) (machines : List (String × Nat)) : GroupInstances :=
  ⟨⟨id, role, "m5.large", []⟩, machines.map fun (name, stop) =>
    ⟨name, "m5.large", .onDemand, .atHour 1, some (.atHour stop), []⟩⟩

/-- A cluster that is gone, with some groups. -/
def recordedCluster (fleetsOnly : Bool) (groups : List GroupInstances) : RecordedCluster :=
  ⟨{ goneCluster with endedAt := some (.atHour 10) }, fleetsOnly, groups⟩

/-- A cluster of fleets, one of which has no instances, and another one of the same name. -/
def fleetRecording : InventoryRecording :=
  ⟨[recordedCluster true [hourlyGroup "if-1" "CORE" [("i-1", 6)], hourlyGroup "if-2" "TASK" []],
    recordedCluster false []]⟩

theorem clusterEstimate_flip_fleets :
    "j-1" ∈ fleetRecording.clusterIds ∧ fleetRecording.flip 0 ≠ fleetRecording
      ∧ ∃ descriptor, replay.describe "j-1" fleetRecording = (.ok descriptor, fleetRecording)
        ∧ ∃ estimate steps book,
          dollarBiller.clusterEstimate replay descriptor .absent .unbounded (.atHour 8)
              fleetRecording GroupBilling.roundSteps (.start ())
            = (.ok estimate, fleetRecording, steps, book)
          ∧ dollarBiller.clusterEstimate replay descriptor .absent .unbounded (.atHour 8)
              (fleetRecording.flip 0) GroupBilling.roundSteps (.start ())
            = (.ok estimate, fleetRecording.flip 0, steps, book) := by
  have recorded : "j-1" ∈ fleetRecording.clusterIds := by decide
  obtain ⟨descriptor, described, -, same⟩ :=
    dollarBiller.clusterEstimate_flip fleetRecording recorded 0
  exact ⟨recorded, by decide, descriptor, described,
    same .absent .unbounded (.atHour 8) GroupBilling.roundSteps (.start ())⟩

/-- A cluster with two groups. -/
def twoGroups : RecordedCluster :=
  recordedCluster false
    [hourlyGroup "ig-1" "MASTER" [("i-1", 6)], hourlyGroup "ig-2" "CORE" [("i-2", 2)]]

theorem clusterEstimate_recorded_twoGroups :
    "j-1" ∈ InventoryRecording.clusterIds ⟨[twoGroups]⟩ ∧ twoGroups.Unambiguous
      ∧ dollarBiller.Bills ⟨[twoGroups]⟩ twoGroups.descriptor twoGroups.groups := by
  have recorded : "j-1" ∈ InventoryRecording.clusterIds ⟨[twoGroups]⟩ := by decide
  have unambiguous : twoGroups.Unambiguous := .of_nodup (by decide)
  obtain ⟨c, found, -, -, -, bills⟩ := dollarBiller.clusterEstimate_recorded ⟨[twoGroups]⟩ recorded
  cases found
  exact ⟨recorded, unambiguous, bills unambiguous⟩

/-- A cluster with two groups of one name. -/
def namesakes : RecordedCluster :=
  recordedCluster false
    [hourlyGroup "ig-1" "MASTER" [("i-1", 6)], hourlyGroup "ig-1" "CORE" [("i-2", 2)]]

/-- The estimate of the cluster with two groups of one name. -/
def namesakesEstimate : Except Fault (ClusterEstimate Float) :=
  (dollarBiller.clusterEstimate replay namesakes.descriptor .absent .unbounded (.atHour 8)
    ⟨[namesakes]⟩ GroupBilling.roundSteps (.start ())).1

/-- The estimate of the groups as they were recorded. -/
def namesakesRecorded : ClusterEstimate Float :=
  (dollarBiller.groupsEstimate (namesakes.descriptor.terms .absent .unbounded (.atHour 8))
    namesakes.descriptor.id namesakes.groups GroupBilling.roundSteps (.start ())).estimate

/-- What is paid for computing time of a role. -/
def computeOf (role : String) (estimate : Except Fault (ClusterEstimate Float)) : Option Float :=
  estimate.toOption.map fun e => e.breakdown.category role .compute

/-- **Of two groups of one name, the second one is billed for the machines of the first**: they are
paid for twice, and its own are not paid for. -/
theorem clusterEstimate_misbooked :
    replay.describe "j-1" ⟨[namesakes]⟩ = (.ok namesakes.descriptor, ⟨[namesakes]⟩)
      ∧ computeOf "MASTER" namesakesEstimate = some 5.0
      ∧ computeOf "CORE" namesakesEstimate = some 5.0
      ∧ computeOf "MASTER" (.ok namesakesRecorded) = some 5.0
      ∧ computeOf "CORE" (.ok namesakesRecorded) = some 1.0
      ∧ ¬ dollarBiller.Bills ⟨[namesakes]⟩ namesakes.descriptor namesakes.groups := by
  have billed : computeOf "CORE" namesakesEstimate = some 5.0 := by decide +kernel
  have recorded : computeOf "CORE" (.ok namesakesRecorded) = some 1.0 := by decide +kernel
  refine ⟨rfl, by decide +kernel, billed, by decide +kernel, recorded, fun bills => ?_⟩
  have same : namesakesEstimate = .ok namesakesRecorded := congrArg Prod.fst
    (bills .absent .unbounded (.atHour 8) GroupBilling.roundSteps (.start ())).1
  rw [same, recorded] at billed
  exact absurd billed (by decide +kernel)

end Sample

end Biller

end ClusterBilling
