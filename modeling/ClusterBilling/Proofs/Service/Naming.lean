import ClusterBilling.Proofs.Service.Cache
import ClusterBilling.Proofs.Service.Requests

/-!
# Whose estimate is answered

An estimate names its cluster. The name is the one that was asked for, whether the estimate is
remembered, computed or empty (`invariant_named`): billing keeps the name it starts with, the
inventory describes the clusters it is asked for, and what is remembered is remembered under its own
name. So **the estimates of several clusters are one for each**, in their order
(`cluster_each_estimate`).
-/

namespace ClusterBilling

namespace ClusterEstimate

variable {α : Type} [Amount α]

theorem cluster_addInstance (e : ClusterEstimate α) (role : String) (i : Instance)
    (outcome : Except Fault (InstanceCost α)) :
    (e.addInstance role i outcome).cluster = e.cluster := by
  cases outcome with
  | ok cost => simp only [addInstance, addCost]
  | error fault => simp only [addInstance, addUnbilled]

theorem cluster_addGroup (e : ClusterEstimate α) (role : String)
    (costs : List (Instance × Except Fault (InstanceCost α))) :
    (e.addGroup role costs).cluster = e.cluster := by
  unfold addGroup
  refine List.foldlRecOn (motive := fun e' : ClusterEstimate α => e'.cluster = e.cluster)
    costs _ rfl ?_
  intro e' same cost _
  rw [cluster_addInstance, same]

end ClusterEstimate

namespace Biller

variable {σ α : Type} [Amount α] (b : Biller σ α) (terms : BillingTerms)

/-- Billing keeps the name of the cluster. -/
theorem cluster_foldl (groups : List GroupInstances) (state : RunningEstimate σ α) :
    (groups.foldl (b.billGroup terms) state).estimate.cluster = state.estimate.cluster := by
  refine List.foldlRecOn (motive := fun running : RunningEstimate σ α =>
    running.estimate.cluster = state.estimate.cluster) groups _ rfl ?_
  intro running same group _
  rw [billGroup, ClusterEstimate.cluster_addGroup, same]

theorem cluster_turnAt (place : Nat) (bill : RunningBill α) (book : PriceBook σ α) :
    (b.turnAt terms place bill book).1.estimate.cluster = bill.estimate.cluster := by
  obtain ⟨estimate, current, left⟩ := bill
  cases current with
  | none => cases left <;> rfl
  | some current =>
    obtain ⟨group, lines⟩ := current
    simp only [turnAt]
    split
    · exact ClusterEstimate.cluster_addGroup ..
    · split <;> rfl

theorem cluster_finishBill (bill : RunningBill α) (steps : Nat) (book : PriceBook σ α) :
    (b.finishBill terms bill steps book).estimate.cluster = bill.estimate.cluster := by
  obtain ⟨estimate, current, left⟩ := bill
  cases current with
  | none => exact b.cluster_foldl terms left _
  | some current =>
    exact (b.cluster_foldl terms left _).trans (ClusterEstimate.cluster_addGroup ..)

end Biller

namespace CostService

variable {ι σ α : Type} [Amount α] {service : CostService ι σ α}

omit [Amount α] in
/-- **Whether all that is remembered is remembered under its own name.** -/
structure NamedMemory (cache : ResultCache α) : Prop where
  estimates : ∀ cluster estimate, cache.estimate? cluster = some estimate →
    estimate.cluster = cluster
  descriptors : ∀ cluster descriptor, cache.descriptor? cluster = some descriptor →
    descriptor.id = cluster

/-- Whether a task has nothing to show that is not under the name of its cluster. -/
def NamedStage (cluster : ClusterId) : EstimateStage α → Prop
  | .answered descriptor | .described descriptor | .listing descriptor _ _ =>
    descriptor.id = cluster
  | .billing descriptor _ bill => descriptor.id = cluster ∧ bill.estimate.cluster = cluster
  | .billed descriptor estimate => descriptor.id = cluster ∧ estimate.cluster = cluster
  | .ended outcome => ∀ estimate, outcome = .ok estimate → estimate.cluster = cluster
  | _ => True

omit [Amount α] in
/-- Nothing is remembered at first. -/
theorem namedMemory_empty : NamedMemory (ResultCache.empty : ResultCache α) :=
  ⟨fun _ _ held => (by cases held), fun _ _ held => (by cases held)⟩

theorem namedStage_orEmpty (cluster : ClusterId) (fault : Fault) :
    NamedStage cluster (.ended (orEmpty (α := α) cluster (.error fault))) := by
  intro estimate answered
  unfold orEmpty at answered
  dsimp only at answered
  split at answered
  · cases answered
  · cases answered
    rfl

omit [Amount α] in
theorem NamedMemory.keepDescriptor {cache : ResultCache α} (named : NamedMemory cache)
    (descriptor : ClusterDescriptor) : NamedMemory (cache.keepDescriptor descriptor) where
  estimates other estimate held :=
    named.estimates other estimate ((ResultCache.estimate?_keepDescriptor ..).symm.trans held)
  descriptors other other' held := by
    rw [ResultCache.descriptor?_keepDescriptor] at held
    split at held
    · next new =>
      cases held
      exact new.1.symm
    · exact named.descriptors other other' held

omit [Amount α] in
theorem NamedMemory.keepEstimate {cache : ResultCache α} (named : NamedMemory cache)
    {descriptor : ClusterDescriptor} {estimate : ClusterEstimate α}
    (own : estimate.cluster = descriptor.id) :
    NamedMemory (cache.keepEstimate descriptor estimate) where
  estimates other other' held := by
    rw [ResultCache.estimate?_keepEstimate] at held
    split at held
    · next new =>
      cases held
      exact own.trans new.1.symm
    · exact named.estimates other other' held
  descriptors other other' held :=
    named.descriptors other other' ((ResultCache.descriptor?_keepEstimate ..).symm.trans held)

/-- **An estimate that is answered is one of the cluster that was asked for**, and what is
remembered is remembered under its own name. -/
theorem invariant_named (asked : DescribesAsked service.inventory) :
    service.Invariant (fun s => NamedMemory s.cache) NamedStage where
  begun cluster := trivial
  step {cluster pace stage s stage' s'} steps named task := by
    constructor
    · rcases steps.cache_cases with
        same | ⟨descriptor, rfl, kept⟩ | ⟨descriptor, estimate, rfl, -, -, kept⟩
      · rwa [same]
      · rw [kept]
        exact named.keepDescriptor descriptor
      · rw [kept]
        exact named.keepEstimate (task.2.trans task.1.symm)
    · cases steps with
      | found _ _ _ held | foundAgain _ _ held =>
        rintro _ ⟨⟩
        exact named.estimates cluster _ held
      | recalled _ _ held => exact named.descriptors cluster _ held
      | answered _ _ described => exact asked _ _ _ _ described
      | unanswered | refused | uncalled | unlisted => exact namedStage_orEmpty cluster _
      | handedOver | opened | called => exact task
      | listed | laidOut => exact ⟨task, task⟩
      | totalled _ _ _ _ total => exact RunningBill.estimate_of_total? total ▸ task
      | turned place _ _ terms bill =>
        exact ⟨task.1, (service.biller.cluster_turnAt terms place bill s.book).trans task.2⟩
      | finished _ _ terms bill =>
        exact ⟨task.1, (service.biller.cluster_finishBill terms bill s.steps s.book).trans task.2⟩
      | kept =>
        rintro _ ⟨⟩
        exact task.2
      | rests => exact task
      | _ => trivial

/-- **The estimates of several clusters are one for each**, in their order. -/
theorem cluster_each_estimate (asked : DescribesAsked service.inventory) {s : ServiceState ι σ α}
    (named : NamedMemory s.cache) {clusters : List ClusterId}
    {estimates : List (ClusterEstimate α)}
    (answered : (Asked.each service.estimate clusters s).1 = .ok estimates) :
    estimates.map ClusterEstimate.cluster = clusters := by
  induction clusters generalizing s estimates with
  | nil =>
    cases answered
    rfl
  | cons cluster rest ih =>
    have first := (invariant_named asked).estimate named cluster
    unfold Asked.each Asked.andThen at answered
    split at answered
    · next estimate s' one =>
      rw [one] at first
      dsimp only at answered
      split at answered
      · next others s'' more =>
        cases answered
        rw [List.map_cons, first.2 estimate rfl, ih first.1 (congrArg Prod.fst more)]
      · cases answered
    · cases answered

end CostService

end ClusterBilling
