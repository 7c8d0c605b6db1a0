import ClusterBilling.Proofs.Service.Requests

/-!
# A service that bills a part of the time

Where a part of the time is billed, no estimate is kept. **Such a service takes no notice of the kept
estimates** (`ignoresEstimates_serve`): whatever they are, its answers are the same, and it hands them
on as they were. No task comes to a slot then, which is where it would look at them.
-/

namespace ClusterBilling

namespace ServiceState

variable {ι σ α : Type} (s : ServiceState ι σ α)

/-- The state with other remembered estimates. -/
def withEstimates (estimates : OrderedMap ClusterId (ClusterEstimate α)) : ServiceState ι σ α :=
  { s with cache := { s.cache with estimates := estimates } }

end ServiceState

namespace CostService

variable {ι σ α : Type} [Amount α] (service : CostService ι σ α)

/-- Whether something neither looks at the remembered estimates nor changes them. -/
def IgnoresEstimates {β : Type} (f : ServiceState ι σ α → β × ServiceState ι σ α) : Prop :=
  ∀ s estimates, f (s.withEstimates estimates) = ((f s).1, (f s).2.withEstimates estimates)

omit [Amount α] in
theorem IgnoresEstimates.andThen {β γ : Type} {first : Asked (ServiceState ι σ α) β}
    {next : β → Asked (ServiceState ι σ α) γ} (ignores : IgnoresEstimates first)
    (after : ∀ b, IgnoresEstimates (next b)) : IgnoresEstimates (first.andThen next) := by
  intro s estimates
  simp only [Asked.andThen, ignores s estimates]
  cases first s with
  | mk outcome s' =>
    cases outcome with
    | ok b => exact after b s' estimates
    | error fault => rfl

omit [Amount α] in
theorem IgnoresEstimates.map {β γ : Type} {f : ServiceState ι σ α → β × ServiceState ι σ α}
    (ignores : IgnoresEstimates f) (g : β → γ) : IgnoresEstimates fun s => (f s).map g id :=
  fun s estimates => by simp only [ignores s estimates, Prod.map_apply, id_eq, Prod.map_fst,
    Prod.map_snd]

omit [Amount α] in
theorem keepDescriptor_withEstimates (s : ServiceState ι σ α)
    (estimates : OrderedMap ClusterId (ClusterEstimate α)) (descriptor : ClusterDescriptor) :
    (s.withEstimates estimates).keepDescriptor descriptor
      = (s.keepDescriptor descriptor).withEstimates estimates := by
  have takes : (s.withEstimates estimates).cache.takesDescriptor descriptor
      = s.cache.takesDescriptor descriptor := rfl
  simp only [ServiceState.keepDescriptor, ResultCache.keepDescriptor, takes]
  by_cases new : s.cache.takesDescriptor descriptor = true <;>
    by_cases terminal : descriptor.isTerminal = true <;> simp only [new, terminal] <;> rfl

omit [Amount α] in
theorem ignoresEstimates_describe (cluster : ClusterId) :
    IgnoresEstimates (service.describe cluster) := by
  intro s estimates
  have same : (s.withEstimates estimates).spend.cache.descriptor? cluster
      = s.spend.cache.descriptor? cluster := rfl
  simp only [describe, same]
  cases s.spend.cache.descriptor? cluster with
  | some descriptor => rfl
  | none =>
    have outside : (s.withEstimates estimates).spend.outside = s.spend.outside := rfl
    simp only [outside]
    cases service.inventory.describe cluster s.spend.outside with
    | mk outcome outside =>
      cases outcome with
      | error fault => rfl
      | ok descriptor =>
        exact congrArg (Except.ok descriptor, ·)
          (keepDescriptor_withEstimates { s.spend with outside := outside } estimates descriptor)

/-- Whether a task has nothing to do with slots: it has not begun, or is past them. -/
def Slotless (stage : EstimateStage α) : Prop := stage = .begun ∨ stage.distance ≤ 7

section Bounded

variable (bounded : service.window ≠ .unbounded)

include bounded

/-- Where a part of the time is billed, no task comes to a slot. -/
theorem slotless_step (cluster : ClusterId) (pace : Pace) {stage : EstimateStage α}
    (slotless : Slotless stage) (s : ServiceState ι σ α) :
    Slotless (service.step cluster pace stage s).1 := by
  rcases slotless with rfl | past
  · have forgets : service.keepsResults = false := by simpa [keepsResults] using bounded
    simp only [step, forgets, Bool.false_eq_true, if_false]
    exact .inr (Nat.le_refl 7)
  · exact .inr ((service.steps cluster pace stage s).distance_le.trans past)

/-- **Where a part of the time is billed, no step looks at the remembered estimates**. -/
theorem ignoresEstimates_step (cluster : ClusterId) (pace : Pace) {stage : EstimateStage α}
    (slotless : Slotless stage) : IgnoresEstimates (service.step cluster pace stage) := by
  intro s estimates
  have forgets : service.keepsResults = false := by simpa [keepsResults] using bounded
  have outside : (s.withEstimates estimates).outside = s.outside := rfl
  cases stage with
  | begun =>
    simp only [step, forgets, Bool.false_eq_true, if_false]
  | queued => simp [Slotless, EstimateStage.distance] at slotless
  | admitted => simp [Slotless, EstimateStage.distance] at slotless
  | describing =>
    have same : (s.withEstimates estimates).spend.cache.descriptor? cluster
        = s.spend.cache.descriptor? cluster := rfl
    simp only [step, same]
    split <;> rfl
  | asking =>
    simp only [step, askFor, outside]
    split <;> rfl
  | answered descriptor =>
    exact congrArg (EstimateStage.described descriptor, ·)
      (keepDescriptor_withEstimates s estimates descriptor)
  | described descriptor =>
    simp only [step, openListing]
    split <;> rfl
  | listing descriptor terms layout =>
    cases pace with
    | turn place =>
      simp only [step, goOnListing, outside]
      split
      · rfl
      · split <;> rfl
    | onward =>
      simp only [step, goOnListing, outside]
      split <;> rfl
  | billing descriptor terms bill =>
    cases pace with
    | turn place =>
      simp only [step, goOnBilling]
      split <;> rfl
    | onward => rfl
  | billed descriptor estimate =>
    simp only [step, remember, forgets, Bool.false_and, Bool.false_eq_true, if_false]
  | ended outcome => rfl

theorem ignoresEstimates_run (moves : List Move) {tasks : List (EstimateTask α)}
    (slotless : ∀ task ∈ tasks, Slotless task.stage) (s : ServiceState ι σ α)
    (estimates : OrderedMap ClusterId (ClusterEstimate α)) :
    service.run moves ⟨tasks, s.withEstimates estimates⟩
      = ⟨(service.run moves ⟨tasks, s⟩).tasks,
        (service.run moves ⟨tasks, s⟩).state.withEstimates estimates⟩ := by
  induction moves generalizing tasks s with
  | nil => rfl
  | cons m rest ih =>
    have same : (⟨tasks, s.withEstimates estimates⟩ : ServiceRun ι σ α).ready? m.place
        = (⟨tasks, s⟩ : ServiceRun ι σ α).ready? m.place := rfl
    show service.run rest (service.move ⟨tasks, s.withEstimates estimates⟩ m)
      = ⟨(service.run rest (service.move ⟨tasks, s⟩ m)).tasks,
        (service.run rest (service.move ⟨tasks, s⟩ m)).state.withEstimates estimates⟩
    cases ready : (⟨tasks, s⟩ : ServiceRun ι σ α).ready? m.place with
    | none =>
      rw [service.move_of_unready ready, service.move_of_unready (same.trans ready)]
      exact ih slotless s
    | some task =>
      obtain ⟨here, -, -⟩ := ServiceRun.ready?_eq_some_iff.mp ready
      have own := slotless task (List.mem_of_getElem? here)
      rw [service.move_of_ready ready, service.move_of_ready (same.trans ready),
        service.ignoresEstimates_step bounded task.cluster m.pace own]
      refine ih (fun other mem => ?_) _
      rcases List.mem_or_eq_of_mem_set mem with old | rfl
      · exact slotless other old
      · exact service.slotless_step bounded task.cluster m.pace own s

theorem ignoresEstimates_outcomes (schedule : List Move) (clusters : List ClusterId) :
    IgnoresEstimates (service.outcomes schedule clusters) := by
  intro s estimates
  have begins : ∀ task ∈ (ServiceRun.start clusters s).tasks, Slotless task.stage := by
    intro task mem
    obtain ⟨cluster, -, rfl⟩ := List.mem_map.mp mem
    exact .inl rfl
  have ran := service.ignoresEstimates_run bounded (schedule ++ closing clusters.length) begins s
    estimates
  unfold CostService.outcomes
  dsimp only
  rw [show ServiceRun.start clusters (s.withEstimates estimates)
    = ⟨(ServiceRun.start clusters s).tasks, s.withEstimates estimates⟩ from rfl, ran]
  rfl

theorem ignoresEstimates_estimate (cluster : ClusterId) :
    IgnoresEstimates (service.estimate cluster) := by
  intro s estimates
  have single := service.ignoresEstimates_outcomes bounded [] [cluster] s estimates
  rw [outcomes_single, outcomes_single] at single
  obtain ⟨outcome, state⟩ := Prod.mk.inj single
  exact Prod.ext (List.singleton_inj.mp outcome) state

/-- **A service that bills a part of the time** takes no notice of the remembered estimates. -/
theorem ignoresEstimates_serve (request : ServiceRequest) :
    IgnoresEstimates (service.serve request) := by
  have estimates (schedule : List Move) (clusters : List ClusterId) :
      IgnoresEstimates (service.estimates schedule clusters) := fun s estimates => by
    simp only [CostService.estimates,
      service.ignoresEstimates_outcomes bounded schedule clusters s estimates]
  have costs (schedule : List Move) (clusters : List ClusterId) :
      IgnoresEstimates (service.costs schedule clusters) :=
    (estimates schedule clusters).andThen fun _ _ _ => rfl
  have cost (cluster : ClusterId) : IgnoresEstimates (service.cost cluster) :=
    (service.ignoresEstimates_estimate bounded cluster).andThen fun _ _ _ => rfl
  cases request with
  | describe cluster => exact (service.ignoresEstimates_describe cluster).map _
  | estimate cluster => exact (service.ignoresEstimates_estimate bounded cluster).map _
  | cost cluster => exact (cost cluster).map _
  | estimates schedule clusters => exact (estimates schedule clusters).map _
  | costs schedule clusters => exact (costs schedule clusters).map _
  | selectionCost schedule selection => exact (costs schedule (Selection.clusters selection)).map _
  | newRound => exact fun _ _ => rfl

end Bounded

end CostService

end ClusterBilling
