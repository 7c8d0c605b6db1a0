import ClusterBilling.Proofs.OrderedMap
import ClusterBilling.Proofs.Service.Steps

/-!
# What is kept

What becomes of the kept descriptions and estimates: by handing something over to be kept, by a step
of a task, and by describing a cluster. **Nothing that is kept is changed or dropped**
(`Steps.isPartOf`, `isPartOf_describe`), and there are two ways only in which something is added
(`Steps.cache_cases`): a description that the inventory gave, and an estimate that was billed.
-/

namespace ClusterBilling

namespace ResultCache

variable {α : Type}

/-- Whether a later cache still holds all that a cache holds. -/
structure IsPartOf (c later : ResultCache α) : Prop where
  estimates : ∀ cluster estimate, c.estimate? cluster = some estimate →
    later.estimate? cluster = some estimate
  descriptors : ∀ cluster descriptor, c.descriptor? cluster = some descriptor →
    later.descriptor? cluster = some descriptor

theorem IsPartOf.refl (c : ResultCache α) : c.IsPartOf c :=
  ⟨fun _ _ held => held, fun _ _ held => held⟩

theorem IsPartOf.trans {c d e : ResultCache α} (first : c.IsPartOf d) (second : d.IsPartOf e) :
    c.IsPartOf e :=
  ⟨fun cluster estimate held => second.estimates cluster estimate
      (first.estimates cluster estimate held),
    fun cluster descriptor held => second.descriptors cluster descriptor
      (first.descriptors cluster descriptor held)⟩

/-- An estimate is kept only for a cluster in a final state that has none. -/
theorem estimate?_keepEstimate (c : ResultCache α) (cluster : ClusterDescriptor)
    (estimate : ClusterEstimate α) (other : ClusterId) :
    (c.keepEstimate cluster estimate).estimate? other
      = if other = cluster.id ∧ cluster.isTerminal ∧ c.estimate? cluster.id = none then
          some estimate
        else c.estimate? other := by
  have free : c.takesEstimate cluster = true
      ↔ cluster.isTerminal ∧ c.estimate? cluster.id = none := by
    simp [takesEstimate, estimate?, OrderedMap.contains_eq_isSome]
  rw [keepEstimate]
  by_cases takes : c.takesEstimate cluster = true
  · obtain ⟨terminal, none⟩ := free.mp takes
    rw [if_pos takes]
    simp only [terminal, none, and_true]
    exact OrderedMap.get?_insert ..
  · rw [if_neg takes, if_neg fun all => takes (free.mpr all.2)]

theorem descriptor?_keepDescriptor (c : ResultCache α) (cluster : ClusterDescriptor)
    (other : ClusterId) :
    (c.keepDescriptor cluster).descriptor? other
      = if other = cluster.id ∧ cluster.isTerminal ∧ c.descriptor? cluster.id = none then
          some cluster
        else c.descriptor? other := by
  have free : c.takesDescriptor cluster = true
      ↔ cluster.isTerminal ∧ c.descriptor? cluster.id = none := by
    simp [takesDescriptor, descriptor?, OrderedMap.contains_eq_isSome]
  rw [keepDescriptor]
  by_cases takes : c.takesDescriptor cluster = true
  · obtain ⟨terminal, none⟩ := free.mp takes
    rw [if_pos takes]
    simp only [terminal, none, and_true]
    exact OrderedMap.get?_insert ..
  · rw [if_neg takes, if_neg fun all => takes (free.mpr all.2)]

theorem descriptor?_keepEstimate (c : ResultCache α) (cluster : ClusterDescriptor)
    (estimate : ClusterEstimate α) (other : ClusterId) :
    (c.keepEstimate cluster estimate).descriptor? other = c.descriptor? other := by
  unfold keepEstimate
  split <;> rfl

theorem estimate?_keepDescriptor (c : ResultCache α) (cluster : ClusterDescriptor)
    (other : ClusterId) : (c.keepDescriptor cluster).estimate? other = c.estimate? other := by
  unfold keepDescriptor
  split <;> rfl

theorem isPartOf_keepEstimate (c : ResultCache α) (cluster : ClusterDescriptor)
    (estimate : ClusterEstimate α) : c.IsPartOf (c.keepEstimate cluster estimate) where
  estimates other kept held := by
    rw [estimate?_keepEstimate, if_neg, held]
    rintro ⟨rfl, -, none⟩
    simp [none] at held
  descriptors other kept held := (c.descriptor?_keepEstimate ..).trans held

theorem isPartOf_keepDescriptor (c : ResultCache α) (cluster : ClusterDescriptor) :
    c.IsPartOf (c.keepDescriptor cluster) where
  estimates other kept held := (c.estimate?_keepDescriptor ..).trans held
  descriptors other kept held := by
    rw [descriptor?_keepDescriptor, if_neg, held]
    rintro ⟨rfl, -, none⟩
    simp [none] at held

end ResultCache

namespace ServiceState

variable {ι σ α : Type} (s : ServiceState ι σ α)

@[simp] theorem cache_spend : s.spend.cache = s.cache := rfl

@[simp] theorem cache_takeSlot (cluster : ClusterId) : (s.takeSlot cluster).cache = s.cache := by
  unfold takeSlot
  split <;> rfl

@[simp] theorem outside_takeSlot (cluster : ClusterId) :
    (s.takeSlot cluster).outside = s.outside := by
  unfold takeSlot
  split <;> rfl

@[simp] theorem book_takeSlot (cluster : ClusterId) : (s.takeSlot cluster).book = s.book := by
  unfold takeSlot
  split <;> rfl

@[simp] theorem cache_keepDescriptor (descriptor : ClusterDescriptor) :
    (s.keepDescriptor descriptor).cache = s.cache.keepDescriptor descriptor := by
  unfold keepDescriptor
  dsimp only
  split <;> rfl

@[simp] theorem cache_keepEstimate (descriptor : ClusterDescriptor)
    (estimate : ClusterEstimate α) :
    (s.keepEstimate descriptor estimate).cache = s.cache.keepEstimate descriptor estimate := by
  unfold keepEstimate
  dsimp only
  split <;> rfl

end ServiceState

/-- The description that a task works with at a stage. -/
def EstimateStage.descriptor? {α : Type} : EstimateStage α → Option ClusterDescriptor
  | .answered descriptor | .described descriptor | .listing descriptor _ _
  | .billing descriptor _ _ | .billed descriptor _ => some descriptor
  | _ => none

namespace CostService

variable {ι σ α : Type} [Amount α] (service : CostService ι σ α)

/-! ## Steps -/

/-- Whether the inventory describes the clusters it is asked for. -/
def DescribesAsked (inventory : Inventory ι) : Prop :=
  ∀ cluster s descriptor s', inventory.describe cluster s = (.ok descriptor, s') →
    descriptor.id = cluster

omit [Amount α] in
theorem keepsResults_eq_true_iff : service.keepsResults = true ↔ service.window = .unbounded := by
  simp [keepsResults]

variable {service} {cluster : ClusterId} {pace : Pace} {stage stage' : EstimateStage α}
  {s s' : ServiceState ι σ α}

/-- **What a step does to the memory**: nothing, or the description that the inventory gave is
handed over to be kept, or a computed estimate if all time was billed and no instance left out. -/
theorem Steps.cache_cases (steps : service.Steps cluster pace stage s stage' s') :
    s'.cache = s.cache
      ∨ (∃ descriptor, stage = .answered descriptor
        ∧ s'.cache = s.cache.keepDescriptor descriptor)
      ∨ ∃ descriptor estimate, stage = .billed descriptor estimate
        ∧ service.window = .unbounded ∧ estimate.isDegraded = false
        ∧ s'.cache = s.cache.keepEstimate descriptor estimate := by
  cases steps with
  | entered => exact .inl (s.cache_takeSlot cluster)
  | handedOver _ _ descriptor =>
    exact .inr (.inl ⟨descriptor, rfl, s.cache_keepDescriptor descriptor⟩)
  | kept _ _ descriptor estimate =>
    unfold remember
    split
    · next worth =>
      have whole : service.window = .unbounded ∧ estimate.isDegraded = false := by
        simpa [keepsResults] using worth
      exact .inr (.inr ⟨descriptor, estimate, rfl, whole.1, whole.2,
        s.cache_keepEstimate descriptor estimate⟩)
    · exact .inl rfl
  | _ => exact .inl rfl

/-- A step forgets nothing. -/
theorem Steps.isPartOf (steps : service.Steps cluster pace stage s stage' s') :
    s.cache.IsPartOf s'.cache := by
  rcases steps.cache_cases with
    same | ⟨descriptor, -, kept⟩ | ⟨descriptor, estimate, -, -, -, kept⟩
  · exact same ▸ .refl _
  · exact kept ▸ s.cache.isPartOf_keepDescriptor descriptor
  · exact kept ▸ s.cache.isPartOf_keepEstimate descriptor estimate

/-- **Where the description comes from that a task works with**: it had it before, it is remembered,
or the inventory gave it. -/
theorem Steps.descriptor?_cases (steps : service.Steps cluster pace stage s stage' s')
    {descriptor : ClusterDescriptor} (works : stage'.descriptor? = some descriptor) :
    stage.descriptor? = some descriptor
      ∨ s.cache.descriptor? cluster = some descriptor
      ∨ ∃ outside, service.inventory.describe cluster s.outside = (.ok descriptor, outside) := by
  cases steps with
  | recalled _ _ held =>
    cases works
    exact .inr (.inl held)
  | answered _ _ asked =>
    cases works
    exact .inr (.inr ⟨_, asked⟩)
  | handedOver | opened | listed | called | laidOut | totalled | turned | finished =>
    exact .inl works
  | _ => cases works

/-! ## Describing a cluster -/

omit [Amount α] in
/-- A description is remembered, or it is one of the inventory and handed over to be kept. -/
theorem cache_describe (cluster : ClusterId) (s : ServiceState ι σ α) :
    (service.describe cluster s).2.cache = s.cache
      ∨ ∃ descriptor outside,
        service.inventory.describe cluster s.outside = (.ok descriptor, outside)
        ∧ (service.describe cluster s).2.cache = s.cache.keepDescriptor descriptor := by
  simp only [describe]
  split
  · exact .inl rfl
  · split
    · next descriptor outside described =>
      exact .inr ⟨descriptor, outside, described, ServiceState.cache_keepDescriptor ..⟩
    · exact .inl rfl

omit [Amount α] in
/-- Describing a cluster forgets nothing either. -/
theorem isPartOf_describe (cluster : ClusterId) (s : ServiceState ι σ α) :
    s.cache.IsPartOf (service.describe cluster s).2.cache := by
  rcases service.cache_describe cluster s with same | ⟨descriptor, outside, -, kept⟩
  · exact same ▸ .refl _
  · exact kept ▸ s.cache.isPartOf_keepDescriptor descriptor

end CostService

end ClusterBilling
