import ClusterBilling.Proofs.Service.Moves

/-!
# Requests and what they come down to

A request asks for the description of one cluster, or for the estimates of some, whose tasks move by
the schedule that the request comes with. The history of some requests is what they come down to, in
order: descriptions, and moves of tasks, each with the state of the service in which it happens. A
run of tasks is told move by move (`Moving`), with the moves left out that do nothing.

What every step of a task preserves is preserved by requests as well (`Invariant.serveAll`).
-/

namespace ClusterBilling

/-- A request to the service. Those for several clusters come with the schedule of their tasks. -/
inductive ServiceRequest
  | describe (cluster : ClusterId)
  | estimate (cluster : ClusterId)
  | cost (cluster : ClusterId)
  | estimates (schedule : List Move) (clusters : List ClusterId)
  | costs (schedule : List Move) (clusters : List ClusterId)
  | selectionCost (schedule : List Move) (selection : String)
  /-- Nothing is requested; what follows comes in a new round. -/
  | newRound

/-- The answer to a request. -/
inductive ServiceAnswer (α : Type)
  | descriptor (outcome : Except Fault ClusterDescriptor)
  | estimate (outcome : Except Fault (ClusterEstimate α))
  | estimates (outcome : Except Fault (List (ClusterEstimate α)))
  | breakdown (outcome : Except Fault (Breakdown α))
  | nothing

/-- A move that a task made, and the state of the service in which it did. -/
structure TaskMove (ι σ α : Type) where
  /-- The place of the task in its request. -/
  place : Nat
  cluster : ClusterId
  pace : Pace
  stage : EstimateStage α
  state : ServiceState ι σ α

/-- What a request comes down to. -/
inductive ServiceEvent (ι σ α : Type)
  /-- A cluster is described. -/
  | described (cluster : ClusterId) (state : ServiceState ι σ α)
  | moved (move : TaskMove ι σ α)

/-- The state in which something happens. -/
def ServiceEvent.state {ι σ α : Type} : ServiceEvent ι σ α → ServiceState ι σ α
  | .described _ state => state
  | .moved move => move.state

namespace CostService

variable {ι σ α : Type} [Amount α] (service : CostService ι σ α)

/-- **The answer to a request**, and the state of the service afterwards. -/
def serve (request : ServiceRequest) (s : ServiceState ι σ α) :
    ServiceAnswer α × ServiceState ι σ α :=
  match request with
  | .describe cluster => (service.describe cluster s).map .descriptor id
  | .estimate cluster => (service.estimate cluster s).map .estimate id
  | .cost cluster => (service.cost cluster s).map .breakdown id
  | .estimates schedule clusters => (service.estimates schedule clusters s).map .estimates id
  | .costs schedule clusters => (service.costs schedule clusters s).map .breakdown id
  | .selectionCost schedule selection =>
    (service.selectionCost schedule selection s).map .breakdown id
  | .newRound => (.nothing, s.newRound)

/-- The state of the service after some requests. -/
def serveAll (requests : List ServiceRequest) (s : ServiceState ι σ α) : ServiceState ι σ α :=
  requests.foldl (fun s request => (service.serve request s).2) s

/-! ## Moves that are made -/

/-- What a move of a task leads to. -/
def after (m : TaskMove ι σ α) : EstimateStage α × ServiceState ι σ α :=
  service.step m.cluster m.pace m.stage m.state

/-- The moves that are made of those of a schedule. -/
def movesMade : List Move → ServiceRun ι σ α → List (TaskMove ι σ α)
  | [], _ => []
  | m :: rest, r =>
    match r.ready? m.place with
    | some task =>
      ⟨m.place, task.cluster, m.pace, task.stage, r.state⟩ :: movesMade rest (service.move r m)
    | none => movesMade rest r

/-- **A run told by the moves that are made in it**, from a request on its way to what becomes of
it. -/
inductive Moving : ServiceRun ι σ α → List (TaskMove ι σ α) → ServiceRun ι σ α → Prop
  | still (r : ServiceRun ι σ α) : Moving r [] r
  | move {tasks : List (EstimateTask α)} {s : ServiceState ι σ α} {place : Nat}
    {task : EstimateTask α} {made : List (TaskMove ι σ α)} {r : ServiceRun ι σ α} (pace : Pace)
    (ready : (⟨tasks, s⟩ : ServiceRun ι σ α).ready? place = some task)
    (rest : Moving ⟨tasks.set place ⟨task.cluster,
        (service.step task.cluster pace task.stage s).1⟩,
      (service.step task.cluster pace task.stage s).2⟩ made r) :
    Moving ⟨tasks, s⟩ (⟨place, task.cluster, pace, task.stage, s⟩ :: made) r

theorem moving_run (moves : List Move) (r : ServiceRun ι σ α) :
    service.Moving r (service.movesMade moves r) (service.run moves r) := by
  induction moves generalizing r with
  | nil => exact .still r
  | cons m rest ih =>
    show service.Moving r _ (service.run rest (service.move r m))
    cases ready : r.ready? m.place with
    | none =>
      simp only [movesMade, ready]
      rw [service.move_of_unready ready]
      exact ih r
    | some task =>
      have others := ih (service.move r m)
      simp only [movesMade, ready]
      rw [service.move_of_ready ready] at others ⊢
      exact .move m.pace ready others

/-- **The course of a task**: moves of its own, in whatever states, that lead it to a stage. -/
inductive Course (cluster : ClusterId) : List (TaskMove ι σ α) → EstimateStage α → Prop
  | begun : Course cluster [] .begun
  | move {own : List (TaskMove ι σ α)} {m : TaskMove ι σ α}
    (course : Course cluster own m.stage) (same : m.cluster = cluster) :
    Course cluster (own ++ [m]) (service.after m).1

/-! ## Histories -/

/-- What a request for several clusters comes down to. -/
def taskEvents (schedule : List Move) (clusters : List ClusterId) (s : ServiceState ι σ α) :
    List (ServiceEvent ι σ α) :=
  (service.movesMade (schedule ++ closing clusters.length) (.start clusters s)).map .moved

/-- **What a request comes down to**, in order. -/
def events (request : ServiceRequest) (s : ServiceState ι σ α) : List (ServiceEvent ι σ α) :=
  match request with
  | .describe cluster => [.described cluster s]
  | .estimate cluster | .cost cluster => service.taskEvents [] [cluster] s
  | .estimates schedule clusters | .costs schedule clusters =>
    service.taskEvents schedule clusters s
  | .selectionCost schedule selection =>
    service.taskEvents schedule (Selection.clusters selection) s
  | .newRound => []

/-- **What some requests come down to.** -/
def history : List ServiceRequest → ServiceState ι σ α → List (ServiceEvent ι σ α)
  | [], _ => []
  | request :: rest, s => service.events request s ++ history rest (service.serve request s).2

omit [Amount α] in
theorem fst_andThen_answer {β γ : Type} (first : Asked (ServiceState ι σ α) β) (f : β → γ)
    (s : ServiceState ι σ α) :
    (first.andThen (fun b => .answer (f b)) s).1 = (first s).1.map f := by
  unfold Asked.andThen
  split <;> simp_all [Asked.answer, Except.map]

omit [Amount α] in
/-- Working on an answer does not change the state. -/
theorem snd_andThen_answer {β γ : Type} (first : Asked (ServiceState ι σ α) β) (f : β → γ)
    (s : ServiceState ι σ α) : (first.andThen (fun b => .answer (f b)) s).2 = (first s).2 := by
  unfold Asked.andThen
  split <;> simp_all [Asked.answer]

/-- **A request describes a cluster, or runs tasks**, or nothing is requested. -/
theorem serve_cases (request : ServiceRequest) (s : ServiceState ι σ α) :
    (∃ cluster, service.events request s = [.described cluster s]
        ∧ (service.serve request s).2 = (service.describe cluster s).2)
      ∨ (∃ schedule clusters, service.events request s = service.taskEvents schedule clusters s
        ∧ (service.serve request s).2 = (service.outcomes schedule clusters s).2)
      ∨ service.events request s = [] ∧ (service.serve request s).2 = s.newRound := by
  have single (cluster : ClusterId) :
      (service.outcomes [] [cluster] s).2 = (service.estimate cluster s).2 := by
    rw [service.outcomes_single]
  have costs (schedule : List Move) (clusters : List ClusterId) :
      (service.costs schedule clusters s).2 = (service.outcomes schedule clusters s).2 := by
    rw [CostService.costs, snd_andThen_answer]
    rfl
  cases request with
  | describe cluster => exact .inl ⟨cluster, rfl, rfl⟩
  | estimate cluster => exact .inr (.inl ⟨[], [cluster], rfl, (single cluster).symm⟩)
  | cost cluster =>
    refine .inr (.inl ⟨[], [cluster], rfl, ?_⟩)
    rw [single]
    exact snd_andThen_answer ..
  | estimates schedule clusters => exact .inr (.inl ⟨schedule, clusters, rfl, rfl⟩)
  | costs schedule clusters =>
    exact .inr (.inl ⟨schedule, clusters, rfl, costs schedule clusters⟩)
  | selectionCost schedule selection =>
    exact .inr (.inl ⟨schedule, _, rfl, costs schedule (Selection.clusters selection)⟩)
  | newRound => exact .inr (.inr ⟨rfl, rfl⟩)

/-! ## What requests preserve -/

namespace Invariant

variable {service} {kept : ServiceState ι σ α → Prop} {holds : ClusterId → EstimateStage α → Prop}
  (invariant : service.Invariant kept holds) {s : ServiceState ι σ α}

include invariant

/-- Describing a cluster takes the steps that a task takes to its description. -/
theorem describe (state : kept s) {cluster : ClusterId} (describing : holds cluster .describing) :
    kept (service.describe cluster s).2 := by
  simp only [CostService.describe]
  cases known : s.spend.cache.descriptor? cluster with
  | some descriptor => exact (invariant.step (.recalled .onward s known) state describing).1
  | none =>
    have looked := invariant.step (.unknown .onward s known) state describing
    dsimp only
    cases asked : service.inventory.describe cluster s.spend.outside with
    | mk outcome outside =>
      cases outcome with
      | error fault =>
        exact (invariant.step (.unanswered .onward s.spend asked) looked.1 looked.2).1
      | ok descriptor =>
        have answered := invariant.step (.answered .onward s.spend asked) looked.1 looked.2
        exact (invariant.step (.handedOver .onward _ descriptor) answered.1 answered.2).1

theorem estimate (state : kept s) (cluster : ClusterId) :
    kept (service.estimate cluster s).2 ∧ holds cluster (.ended (service.estimate cluster s).1) :=
  invariant.ends (service.ends_estimate cluster s) state (invariant.begun cluster)

theorem serve (state : kept s) (describing : ∀ cluster, holds cluster .describing)
    (newRound : kept s.newRound) (request : ServiceRequest) :
    kept (service.serve request s).2 := by
  rcases service.serve_cases request s with
    ⟨cluster, -, same⟩ | ⟨schedule, clusters, -, same⟩ | ⟨-, same⟩
  · rw [same]
    exact invariant.describe state (describing cluster)
  · rw [same]
    exact (invariant.outcomes state schedule clusters).1
  · rw [same]
    exact newRound

theorem serveAll (state : kept s) (describing : ∀ cluster, holds cluster .describing)
    (newRound : ∀ s, kept s → kept s.newRound) (requests : List ServiceRequest) :
    kept (service.serveAll requests s) := by
  induction requests generalizing s with
  | nil => exact state
  | cons request rest ih => exact ih (invariant.serve state describing (newRound s state) request)

end Invariant

end CostService

section Sample

/-- Moves of three tasks in each other's way. -/
def Move.crossing : List Move :=
  [⟨0, .onward⟩, ⟨1, .onward⟩, ⟨2, .onward⟩, ⟨1, .onward⟩, ⟨0, .onward⟩, ⟨2, .onward⟩,
    ⟨1, .turn 0⟩, ⟨2, .turn 0⟩, ⟨1, .turn 0⟩, ⟨0, .turn 0⟩]

end Sample

end ClusterBilling
