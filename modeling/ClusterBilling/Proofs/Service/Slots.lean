import ClusterBilling.Proofs.Service.Cache
import ClusterBilling.Proofs.Service.Moves

/-!
# One task in a slot

Where all time is billed, a task comes to its computation through the slot of its cluster. **No two
tasks of one cluster are past it at a time** (`Orderly.alone`), so nobody else adds to what is
remembered of the cluster while one of them computes: it has no estimate until the task ends, and
its description is the one that the task works with (`Orderly.fits`). Both are preserved by every
move that is made (`Orderly.move`).
-/

namespace ClusterBilling

namespace CostService

variable {ι σ α : Type} [Amount α] {service : CostService ι σ α}

/-- **Whether what is remembered of a cluster fits the stage of a task that is in its slot.** The
other tasks fit whatever is remembered. -/
def Fits (cache : ResultCache α) (cluster : ClusterId) : EstimateStage α → Prop
  | .begun | .queued | .admitted | .ended _ => True
  | .describing => cache.estimate? cluster = none
  | .asking => cache.estimate? cluster = none ∧ cache.descriptor? cluster = none
  | .answered descriptor =>
    cache.estimate? cluster = none ∧ cache.descriptor? cluster = none ∧ descriptor.id = cluster
  | .described descriptor | .listing descriptor _ _ | .billing descriptor _ _
  | .billed descriptor _ =>
    cache.estimate? cluster = none ∧ descriptor.id = cluster
      ∧ cache.descriptor? cluster = if descriptor.isTerminal then some descriptor else none

/-- Whether the descriptions that are remembered are those of their clusters, in final states. -/
def NamesGone (cache : ResultCache α) : Prop :=
  ∀ cluster descriptor, cache.descriptor? cluster = some descriptor →
    descriptor.isTerminal = true ∧ descriptor.id = cluster

/-- **A request on its way where slots are kept.** -/
structure Orderly (r : ServiceRun ι σ α) : Prop where
  names : NamesGone r.state.cache
  fits : ∀ task ∈ r.tasks, Fits r.state.cache task.cluster task.stage
  alone : ∀ (place place' : Nat) (task task' : EstimateTask α), r.tasks[place]? = some task →
    r.tasks[place']? = some task' → task.cluster = task'.cluster →
    task.stage.holdsSlot = true → task'.stage.holdsSlot = true → place = place'

omit [Amount α] in
theorem fits_of_free {stage : EstimateStage α} (free : stage.holdsSlot = false)
    (cache : ResultCache α) (cluster : ClusterId) : Fits cache cluster stage := by
  cases stage <;> trivial

omit [Amount α] in
theorem Fits.congr {cache cache' : ResultCache α} {cluster : ClusterId} {stage : EstimateStage α}
    (fits : Fits cache cluster stage)
    (estimate : cache'.estimate? cluster = cache.estimate? cluster)
    (descriptor : cache'.descriptor? cluster = cache.descriptor? cluster) :
    Fits cache' cluster stage := by
  unfold Fits at fits ⊢
  rw [estimate, descriptor]
  exact fits

omit [Amount α] in
/-- A task that fits works with a description of its own cluster. -/
theorem Fits.id_eq {cache : ResultCache α} {cluster : ClusterId} {stage : EstimateStage α}
    (fits : Fits cache cluster stage) {descriptor : ClusterDescriptor}
    (works : stage.descriptor? = some descriptor) : descriptor.id = cluster := by
  cases stage <;> cases works
  · exact fits.2.2
  all_goals exact fits.2.1

/-! ## One step -/

section Steps

variable {cluster : ClusterId} {pace : Pace} {stage stage' : EstimateStage α}
  {s s' : ServiceState ι σ α}

/-- **A step leaves alone what is remembered of other clusters.** -/
theorem Fits.cache_of_ne (fits : Fits s.cache cluster stage)
    (steps : service.Steps cluster pace stage s stage' s') {other : ClusterId}
    (differs : other ≠ cluster) :
    s'.cache.estimate? other = s.cache.estimate? other
      ∧ s'.cache.descriptor? other = s.cache.descriptor? other := by
  rcases steps.cache_cases with
    same | ⟨descriptor, rfl, kept⟩ | ⟨descriptor, estimate, rfl, -, -, kept⟩
  · exact ⟨by rw [same], by rw [same]⟩
  · have own : descriptor.id = cluster := fits.id_eq rfl
    rw [kept, ResultCache.estimate?_keepDescriptor, ResultCache.descriptor?_keepDescriptor, own,
      if_neg fun new => differs new.1]
    exact ⟨rfl, rfl⟩
  · have own : descriptor.id = cluster := fits.id_eq rfl
    rw [kept, ResultCache.descriptor?_keepEstimate, ResultCache.estimate?_keepEstimate, own,
      if_neg fun new => differs new.1]
    exact ⟨rfl, rfl⟩

/-- A task that is in no slot adds nothing to what is remembered. -/
theorem Steps.cache_of_free (steps : service.Steps cluster pace stage s stage' s')
    (free : stage.holdsSlot = false) : s'.cache = s.cache := by
  rcases steps.cache_cases with same | ⟨descriptor, rfl, -⟩ | ⟨descriptor, estimate, rfl, -⟩
  · exact same
  · cases free
  · cases free

theorem NamesGone.step (names : NamesGone s.cache)
    (steps : service.Steps cluster pace stage s stage' s') : NamesGone s'.cache := by
  intro other descriptor held
  rcases steps.cache_cases with same | ⟨own, -, kept⟩ | ⟨own, estimate, -, -, -, kept⟩
  · exact names other descriptor (same ▸ held)
  · rw [kept, ResultCache.descriptor?_keepDescriptor] at held
    split at held
    · next new =>
      cases held
      exact ⟨new.2.1, new.1.symm⟩
    · exact names other descriptor held
  · rw [kept, ResultCache.descriptor?_keepEstimate] at held
    exact names other descriptor held

variable (whole : service.window = .unbounded)

include whole

/-- **A task comes into a slot from its queue.** -/
theorem Steps.holdsSlot (steps : service.Steps cluster pace stage s stage' s')
    (holds : stage'.holdsSlot = true) : stage.holdsSlot = true ∨ stage = .queued := by
  cases steps with
  | skipped _ _ forgets =>
    rw [service.keepsResults_eq_true_iff.mpr whole] at forgets
    cases forgets
  | entered => exact .inr rfl
  | missed | found | rests => cases holds
  | _ => exact .inl rfl

/-- **A step leads a task to where it fits again.** -/
theorem Fits.step (asked : DescribesAsked service.inventory) (names : NamesGone s.cache)
    (fits : Fits s.cache cluster stage)
    (steps : service.Steps cluster pace stage s stage' s') : Fits s'.cache cluster stage' := by
  cases steps with
  | skipped _ _ forgets =>
    rw [service.keepsResults_eq_true_iff.mpr whole] at forgets
    cases forgets
  | missedAgain _ _ new => exact new
  | recalled _ _ held =>
    obtain ⟨terminal, own⟩ := names cluster _ held
    exact ⟨fits, own, by rw [if_pos terminal]; exact held⟩
  | unknown _ _ new => exact ⟨fits, new⟩
  | answered _ _ described => exact ⟨fits.1, fits.2, asked _ _ _ _ described⟩
  | handedOver _ _ descriptor =>
    obtain ⟨new, unknown, own⟩ := fits
    simp only [Fits, ServiceState.cache_keepDescriptor, ResultCache.estimate?_keepDescriptor,
      ResultCache.descriptor?_keepDescriptor, own, unknown, true_and, and_true]
    exact new
  | opened | listed | called | laidOut | totalled | turned | finished => exact fits
  | _ => trivial

end Steps

section Unbounded

variable (whole : service.window = .unbounded) (asked : DescribesAsked service.inventory)
  {tasks : List (EstimateTask α)} {s : ServiceState ι σ α} {place : Nat} {task : EstimateTask α}

include whole

/-- **No task comes into a slot that another one is in.** -/
theorem Orderly.holdsSlot_step (orderly : Orderly ⟨tasks, s⟩) (pace : Pace)
    (ready : (⟨tasks, s⟩ : ServiceRun ι σ α).ready? place = some task) {place' : Nat}
    {other : EstimateTask α} (there : tasks[place']? = some other) (differs : place' ≠ place)
    (same : other.cluster = task.cluster) (holds : other.stage.holdsSlot = true) :
    (service.step task.cluster pace task.stage s).1.holdsSlot = false := by
  obtain ⟨here, -, free⟩ := ServiceRun.ready?_eq_some_iff.mp ready
  by_contra held
  have stepped := service.steps task.cluster pace task.stage s
  rcases stepped.holdsSlot whole (by simpa using held) with before | queued
  · exact differs (orderly.alone place' place other task there here same holds before)
  · have present : other ∈ tasks := List.mem_of_getElem? there
    have blocked : (⟨tasks, s⟩ : ServiceRun ι σ α).blocks task = true :=
      ServiceRun.blocks_eq_true_iff.mpr ⟨queued, other, present, same, holds⟩
    rw [blocked] at free
    cases free

include asked

/-- **Every move that is made keeps the order.** -/
theorem Orderly.move (orderly : Orderly ⟨tasks, s⟩) (pace : Pace)
    (ready : (⟨tasks, s⟩ : ServiceRun ι σ α).ready? place = some task) :
    Orderly (⟨tasks.set place ⟨task.cluster, (service.step task.cluster pace task.stage s).1⟩,
      (service.step task.cluster pace task.stage s).2⟩ : ServiceRun ι σ α) := by
  obtain ⟨here, -, -⟩ := ServiceRun.ready?_eq_some_iff.mp ready
  obtain ⟨bound, -⟩ := List.getElem?_eq_some_iff.mp here
  have stepped := service.steps task.cluster pace task.stage s
  have own : Fits s.cache task.cluster task.stage := orderly.fits task (List.mem_of_getElem? here)
  constructor
  case names =>
    have names : NamesGone s.cache := orderly.names
    exact names.step stepped
  case fits =>
    intro other mem
    obtain ⟨place', there⟩ := List.mem_iff_getElem?.mp mem
    by_cases same : place' = place
    · subst same
      rw [List.getElem?_set_self bound] at there
      cases there
      exact own.step whole asked orderly.names stepped
    · rw [List.getElem?_set_ne (Ne.symm same)] at there
      have fits : Fits s.cache other.cluster other.stage :=
        orderly.fits other (List.mem_of_getElem? there)
      by_cases differs : other.cluster = task.cluster
      · by_cases free' : other.stage.holdsSlot = true
        · have moverFree : task.stage.holdsSlot = false := by
            by_contra held
            exact same (orderly.alone place' place other task there here differs free'
              (by simpa using held))
          show Fits (service.step task.cluster pace task.stage s).2.cache _ _
          rwa [stepped.cache_of_free moverFree]
        · exact fits_of_free (by simpa using free') _ _
      · obtain ⟨estimate, descriptor⟩ := own.cache_of_ne stepped differs
        exact fits.congr estimate descriptor
  case alone =>
    intro p q first second atP atQ clusters holdsP holdsQ
    by_cases ownP : p = place <;> by_cases ownQ : q = place
    · rw [ownP, ownQ]
    · subst ownP
      rw [List.getElem?_set_self bound] at atP
      rw [List.getElem?_set_ne (Ne.symm ownQ)] at atQ
      cases atP
      rw [orderly.holdsSlot_step whole pace ready atQ ownQ clusters.symm holdsQ] at holdsP
      cases holdsP
    · subst ownQ
      rw [List.getElem?_set_self bound] at atQ
      rw [List.getElem?_set_ne (Ne.symm ownP)] at atP
      cases atQ
      rw [orderly.holdsSlot_step whole pace ready atP ownP clusters holdsP] at holdsQ
      cases holdsQ
    · rw [List.getElem?_set_ne (Ne.symm ownP)] at atP
      rw [List.getElem?_set_ne (Ne.symm ownQ)] at atQ
      exact orderly.alone p q first second atP atQ clusters holdsP holdsQ

end Unbounded

omit [Amount α] in
/-- A request that begins is in order. -/
theorem Orderly.start {s : ServiceState ι σ α} (names : NamesGone s.cache)
    (clusters : List ClusterId) : Orderly (.start clusters s) := by
  have free : ∀ task ∈ (ServiceRun.start clusters s).tasks, task.stage.holdsSlot = false := by
    intro task mem
    obtain ⟨cluster, -, rfl⟩ := List.mem_map.mp mem
    rfl
  refine ⟨names, fun task mem => fits_of_free (free task mem) _ _, ?_⟩
  intro place place' task task' here _ _ holds
  rw [free task (List.mem_of_getElem? here)] at holds
  cases holds

end CostService

end ClusterBilling
