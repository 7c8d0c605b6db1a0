import ClusterBilling.Proofs.Service.Steps

/-!
# Moves of tasks side by side

A request for several clusters goes on by moves of its tasks. A move touches its own task and the
state they share, and no other task (`tasks_move_of_ne`). What every step of a task preserves,
whatever state it is taken in, is preserved by any moves of any tasks (`Invariant.run`).

**Every task ends** (`outcome?_closed`). The closing moves take each task onward in its turn: it
ends, or it waits for the slot of its cluster, which a task that is behind it holds. Once all have
had their turn nobody is in a slot, so that those who waited end in their second turn. A task that
is alone ends as the sequential estimate does (`ends_estimate`).
-/

namespace ClusterBilling

namespace EstimateStage

variable {α : Type}

/-- Whether a task has ended or waits for a slot: it is in none itself. -/
def Rests (stage : EstimateStage α) : Prop := stage = .queued ∨ stage.distance = 0

theorem Rests.holdsSlot {stage : EstimateStage α} (rests : stage.Rests) :
    stage.holdsSlot = false := by
  rcases rests with rfl | ended
  · rfl
  · cases stage <;> simp_all [distance, EstimateStage.holdsSlot]

end EstimateStage

namespace ServiceRun

variable {ι σ α : Type} {r : ServiceRun ι σ α} {place : Nat} {task : EstimateTask α}

theorem ready?_eq_some_iff :
    r.ready? place = some task
      ↔ r.tasks[place]? = some task ∧ task.stage.outcome? = none ∧ r.blocks task = false := by
  simp [ready?, Option.filter_eq_some_iff]

/-- A task that waits is one that another task of its cluster keeps waiting. -/
theorem blocks_eq_true_iff :
    r.blocks task = true
      ↔ task.stage = .queued
        ∧ ∃ other ∈ r.tasks, other.cluster = task.cluster ∧ other.stage.holdsSlot = true := by
  have queued : task.stage.isQueued = true ↔ task.stage = .queued := by
    cases task.stage <;> simp [EstimateStage.isQueued]
  simp [blocks, queued]

end ServiceRun

namespace CostService

variable {ι σ α : Type} [Amount α] (service : CostService ι σ α)

/-! ## One move -/

theorem move_of_ready {r : ServiceRun ι σ α} {m : Move} {task : EstimateTask α}
    (ready : r.ready? m.place = some task) :
    service.move r m = ⟨r.tasks.set m.place ⟨task.cluster,
        (service.step task.cluster m.pace task.stage r.state).1⟩,
      (service.step task.cluster m.pace task.stage r.state).2⟩ := by
  simp only [move, ready]

theorem move_of_unready {r : ServiceRun ι σ α} {m : Move} (unready : r.ready? m.place = none) :
    service.move r m = r := by
  simp only [move, unready]

/-- **A move touches its own task only.** -/
theorem tasks_move_of_ne (r : ServiceRun ι σ α) {m : Move} {place : Nat} (other : m.place ≠ place) :
    (service.move r m).tasks[place]? = r.tasks[place]? := by
  cases ready : r.ready? m.place with
  | none => rw [service.move_of_unready ready]
  | some task => rw [service.move_of_ready ready, List.getElem?_set_ne other]

theorem clusters_move (r : ServiceRun ι σ α) (m : Move) :
    (service.move r m).tasks.map EstimateTask.cluster = r.tasks.map EstimateTask.cluster := by
  cases ready : r.ready? m.place with
  | none => rw [service.move_of_unready ready]
  | some task =>
    obtain ⟨here, -, -⟩ := ServiceRun.ready?_eq_some_iff.mp ready
    obtain ⟨bound, same⟩ := List.getElem?_eq_some_iff.mp here
    rw [service.move_of_ready ready]
    refine List.ext_getElem? fun place => ?_
    simp only [List.map_set, List.getElem?_set, List.getElem?_map, List.length_map]
    split
    · next own => simp [← own, same, bound]
    · rfl

theorem run_append (first second : List Move) (r : ServiceRun ι σ α) :
    service.run (first ++ second) r = service.run second (service.run first r) :=
  List.foldl_append ..

theorem clusters_run (moves : List Move) (r : ServiceRun ι σ α) :
    (service.run moves r).tasks.map EstimateTask.cluster = r.tasks.map EstimateTask.cluster := by
  induction moves generalizing r with
  | nil => rfl
  | cons m rest ih => exact (ih _).trans (service.clusters_move r m)

/-! ## All tasks end -/

theorem tasks_run_of_ne {moves : List Move} {place : Nat} (others : ∀ m ∈ moves, m.place ≠ place)
    (r : ServiceRun ι σ α) : (service.run moves r).tasks[place]? = r.tasks[place]? := by
  induction moves generalizing r with
  | nil => rfl
  | cons m rest ih =>
    exact (ih (fun m mem => others m (List.mem_cons_of_mem _ mem)) _).trans
      (service.tasks_move_of_ne r (others m List.mem_cons_self))

/-- What a task has become that had some moves onward: it waits for a slot, or came as much nearer
to its end. -/
theorem tasks_run_replicate (moves : Nat) {r : ServiceRun ι σ α} {place : Nat}
    {task : EstimateTask α} (here : r.tasks[place]? = some task) :
    ∃ task', (service.run (List.replicate moves ⟨place, .onward⟩) r).tasks[place]? = some task'
      ∧ ((service.run (List.replicate moves ⟨place, .onward⟩) r).blocks task' = true
        ∨ task'.stage.distance ≤ task.stage.distance - moves) := by
  induction moves generalizing r task with
  | zero => exact ⟨task, here, .inr (Nat.le_refl _)⟩
  | succ moves ih =>
    rw [List.replicate_succ]
    show ∃ task', (service.run _ (service.move r ⟨place, .onward⟩)).tasks[place]? = some task'
      ∧ ((service.run _ (service.move r ⟨place, .onward⟩)).blocks task' = true ∨ _)
    cases ready : r.ready? place with
    | some own =>
      obtain ⟨here', going, -⟩ := ServiceRun.ready?_eq_some_iff.mp ready
      cases here.symm.trans here'
      obtain ⟨bound, -⟩ := List.getElem?_eq_some_iff.mp here
      rw [service.move_of_ready ready]
      have nearer := (service.steps task.cluster .onward task.stage r.state).distance_lt
        ((task.stage.outcome?_eq_none_iff).mp going)
      obtain ⟨task', there, rests⟩ := ih (r := ⟨r.tasks.set place ⟨task.cluster,
        (service.step task.cluster .onward task.stage r.state).1⟩,
        (service.step task.cluster .onward task.stage r.state).2⟩) (List.getElem?_set_self bound)
      refine ⟨task', there, rests.imp_right fun close => ?_⟩
      dsimp only at close
      omega
    | none =>
      rw [service.move_of_unready ready]
      have stands (moves : Nat) :
          service.run (List.replicate moves ⟨place, .onward⟩) r = r := by
        induction moves with
        | zero => rfl
        | succ moves same =>
          rw [List.replicate_succ]
          show service.run _ (service.move r ⟨place, .onward⟩) = r
          rw [service.move_of_unready ready, same]
      rw [stands]
      refine ⟨task, here, ?_⟩
      by_cases ended : task.stage.distance = 0
      · exact .inr (ended ▸ Nat.zero_le _)
      · refine .inl ?_
        by_contra free
        have able : r.ready? place = some task := ServiceRun.ready?_eq_some_iff.mpr
          ⟨here, (task.stage.outcome?_eq_none_iff).mpr ended, by simpa using free⟩
        rw [ready] at able
        cases able

/-- The moves that take the tasks at some places onward, one after the other. -/
def inTurn (places : List Nat) : List Move :=
  places.flatMap fun place => List.replicate longestWay ⟨place, .onward⟩

theorem inTurn_cons (place : Nat) (rest : List Nat) :
    inTurn (place :: rest) = List.replicate longestWay ⟨place, .onward⟩ ++ inTurn rest :=
  List.flatMap_cons

omit [Amount α] in
theorem place_of_mem_inTurn {places : List Nat} {m : Move} (mem : m ∈ inTurn places) :
    m.place ∈ places := by
  obtain ⟨place, listed, mem⟩ := List.mem_flatMap.mp mem
  rw [List.eq_of_mem_replicate mem]
  exact listed

/-- What a task has become behind its turn. -/
theorem turn_cases {r : ServiceRun ι σ α} {place : Nat} {task : EstimateTask α}
    (there : (service.run (List.replicate longestWay ⟨place, .onward⟩) r).tasks[place]?
      = some task) :
    (service.run (List.replicate longestWay ⟨place, .onward⟩) r).blocks task = true
      ∨ task.stage.distance = 0 := by
  cases here : r.tasks[place]? with
  | none =>
    have same := congrArg (·[place]?) (service.clusters_run
      (List.replicate longestWay ⟨place, .onward⟩) r)
    simp [here, there] at same
  | some before =>
    obtain ⟨after, same, turned⟩ := service.tasks_run_replicate longestWay here
    cases there.symm.trans same
    refine turned.imp_right fun close => Nat.le_zero.mp (close.trans ?_)
    exact (Nat.sub_eq_zero_of_le before.stage.distance_le).le

theorem rests_of_turn {r : ServiceRun ι σ α} {place : Nat} {task : EstimateTask α}
    (there : (service.run (List.replicate longestWay ⟨place, .onward⟩) r).tasks[place]?
      = some task) : task.stage.Rests :=
  (service.turn_cases there).imp_left fun blocked => (ServiceRun.blocks_eq_true_iff.mp blocked).1

/-- What becomes of a task in the turns of others. -/
theorem tasks_inTurn_of_not_mem {places : List Nat} {place : Nat} (other : place ∉ places)
    (r : ServiceRun ι σ α) : (service.run (inTurn places) r).tasks[place]? = r.tasks[place]? := by
  refine service.tasks_run_of_ne ?_ r
  rintro m mem rfl
  exact other (place_of_mem_inTurn mem)

/-- **Tasks that had their turn have ended, or wait for a slot.** -/
theorem rests_inTurn {places : List Nat} {r : ServiceRun ι σ α} {place : Nat}
    (listed : place ∈ places) {task : EstimateTask α}
    (there : (service.run (inTurn places) r).tasks[place]? = some task) : task.stage.Rests := by
  induction places generalizing r with
  | nil => cases listed
  | cons first rest ih =>
    rw [inTurn_cons, service.run_append] at there
    by_cases again : place ∈ rest
    · exact ih again there
    · obtain rfl : place = first := (List.mem_cons.mp listed).resolve_right again
      rw [service.tasks_inTurn_of_not_mem again] at there
      exact service.rests_of_turn there

/-- **Once nobody is in a slot, those who have their turn end.** -/
theorem distance_inTurn {places : List Nat} {r : ServiceRun ι σ α}
    (rests : ∀ task ∈ r.tasks, task.stage.Rests) {place : Nat} (listed : place ∈ places)
    {task : EstimateTask α}
    (there : (service.run (inTurn places) r).tasks[place]? = some task) :
    task.stage.distance = 0 := by
  induction places generalizing r with
  | nil => cases listed
  | cons first rest ih =>
    rw [inTurn_cons, service.run_append] at there
    have rests' : ∀ task ∈ (service.run (List.replicate longestWay ⟨first, .onward⟩) r).tasks,
        task.stage.Rests := by
      intro task mem
      obtain ⟨place, here⟩ := List.mem_iff_getElem?.mp mem
      by_cases own : place = first
      · exact service.rests_of_turn (own ▸ here)
      · rw [service.tasks_run_of_ne] at here
        · exact rests task (List.mem_of_getElem? here)
        · intro m mem
          rw [List.eq_of_mem_replicate mem]
          exact Ne.symm own
    by_cases again : place ∈ rest
    · exact ih rests' again there
    · obtain rfl : place = first := (List.mem_cons.mp listed).resolve_right again
      rw [service.tasks_inTurn_of_not_mem again] at there
      rcases service.turn_cases there with blocked | ended
      · obtain ⟨-, other, mem, -, holds⟩ := ServiceRun.blocks_eq_true_iff.mp blocked
        rw [(rests' other mem).holdsSlot] at holds
        cases holds
      · exact ended

/-- **Every task ends**, whatever the schedule was. -/
theorem outcome?_closed (schedule : List Move) (r : ServiceRun ι σ α) :
    ∀ task ∈ (service.run (schedule ++ closing r.tasks.length) r).tasks,
      ∃ outcome, task.stage = .ended outcome := by
  intro task mem
  obtain ⟨place, there⟩ := List.mem_iff_getElem?.mp mem
  have turns : closing r.tasks.length
      = inTurn (List.range r.tasks.length) ++ inTurn (List.range r.tasks.length) := rfl
  have places {moves : List Move} {place : Nat} {task : EstimateTask α}
      (here : (service.run moves r).tasks[place]? = some task) :
      place ∈ List.range r.tasks.length := by
    have size := congrArg List.length (service.clusters_run moves r)
    rw [List.length_map, List.length_map] at size
    obtain ⟨bound, -⟩ := List.getElem?_eq_some_iff.mp here
    exact List.mem_range.mpr (size ▸ bound)
  have listed := places there
  rw [turns, ← List.append_assoc, service.run_append] at there
  have ended := service.distance_inTurn (fun task mem => ?_) listed there
  · cases stage : task.stage <;> simp [stage, EstimateStage.distance] at ended
    next outcome => exact ⟨outcome, rfl⟩
  · obtain ⟨place, here⟩ := List.mem_iff_getElem?.mp mem
    have own := places here
    rw [service.run_append] at here
    exact service.rests_inTurn own here

/-- **The answers are those of the tasks**, one for each cluster. -/
theorem getElem?_outcomes (schedule : List Move) (clusters : List ClusterId)
    (s : ServiceState ι σ α) (place : Nat) :
    let r := service.run (schedule ++ closing clusters.length) (.start clusters s)
    (service.outcomes schedule clusters s).1[place]?
      = r.tasks[place]?.bind fun task => task.stage.outcome? := by
  intro r
  have ended : ∀ task ∈ r.tasks, ∃ outcome, task.stage = .ended outcome := by
    have closed := service.outcome?_closed schedule (.start clusters s)
    rwa [ServiceRun.start, List.length_map] at closed
  show (r.tasks.filterMap fun task => task.stage.outcome?)[place]? = _
  generalize r.tasks = tasks at ended
  induction tasks generalizing place with
  | nil => rfl
  | cons task rest ih =>
    obtain ⟨outcome, stage⟩ := ended task List.mem_cons_self
    have here : task.stage.outcome? = some outcome := by rw [stage]; rfl
    simp only [List.filterMap_cons, here]
    cases place with
    | zero => simp [here]
    | succ place => simpa using ih place fun task mem => ended task (List.mem_cons_of_mem _ mem)

/-- Nothing else is answered. -/
theorem length_outcomes (schedule : List Move) (clusters : List ClusterId)
    (s : ServiceState ι σ α) :
    (service.outcomes schedule clusters s).1.length = clusters.length := by
  have closed := service.outcome?_closed schedule (.start clusters s)
  have same := congrArg List.length (service.clusters_run (schedule ++ closing clusters.length)
    (.start clusters s))
  simp only [ServiceRun.start, List.map_map, List.length_map] at closed same
  have all (tasks : List (EstimateTask α))
      (ended : ∀ task ∈ tasks, ∃ outcome, task.stage = .ended outcome) :
      (tasks.filterMap fun task => task.stage.outcome?).length = tasks.length := by
    induction tasks with
    | nil => rfl
    | cons task rest ih =>
      obtain ⟨outcome, stage⟩ := ended task List.mem_cons_self
      have here : task.stage.outcome? = some outcome := by rw [stage]; rfl
      simpa [here] using ih fun task mem => ended task (List.mem_cons_of_mem _ mem)
  exact (all _ closed).trans same

theorem exists_outcome (schedule : List Move) {clusters : List ClusterId}
    (s : ServiceState ι σ α) {place : Nat} {cluster : ClusterId}
    (asked : clusters[place]? = some cluster) :
    ∃ outcome, (service.run (schedule ++ closing clusters.length) (.start clusters s)).tasks[place]?
        = some ⟨cluster, .ended outcome⟩
      ∧ (service.outcomes schedule clusters s).1[place]? = some outcome := by
  have closed := service.outcome?_closed schedule (.start clusters s)
  rw [ServiceRun.start, List.length_map] at closed
  have same := congrArg (·[place]?) (service.clusters_run (schedule ++ closing clusters.length)
    (.start clusters s))
  simp only [ServiceRun.start, List.map_map, List.getElem?_map, asked, Option.map_some,
    Function.comp] at same
  obtain ⟨⟨own, stage⟩, there, rfl⟩ := Option.map_eq_some_iff.mp same
  obtain ⟨outcome, rfl⟩ := closed _ (List.mem_of_getElem? there)
  refine ⟨outcome, there, ?_⟩
  rw [getElem?_outcomes]
  exact congrArg (Option.bind · _) there

/-! ## What every step preserves -/

/-- **Whether every step preserves a property of the state and one of the tasks.** -/
structure Invariant (kept : ServiceState ι σ α → Prop)
    (holds : ClusterId → EstimateStage α → Prop) : Prop where
  begun : ∀ cluster, holds cluster .begun
  step : ∀ {cluster pace stage s stage' s'}, service.Steps cluster pace stage s stage' s' →
    kept s → holds cluster stage → kept s' ∧ holds cluster stage'

namespace Invariant

variable {service} {kept : ServiceState ι σ α → Prop} {holds : ClusterId → EstimateStage α → Prop}
  (invariant : service.Invariant kept holds)

include invariant

theorem move {r : ServiceRun ι σ α} (state : kept r.state)
    (tasks : ∀ task ∈ r.tasks, holds task.cluster task.stage) (m : Move) :
    kept (service.move r m).state
      ∧ ∀ task ∈ (service.move r m).tasks, holds task.cluster task.stage := by
  cases ready : r.ready? m.place with
  | none =>
    rw [service.move_of_unready ready]
    exact ⟨state, tasks⟩
  | some task =>
    obtain ⟨here, -, -⟩ := ServiceRun.ready?_eq_some_iff.mp ready
    have stepped := invariant.step (service.steps task.cluster m.pace task.stage r.state) state
      (tasks task (List.mem_of_getElem? here))
    rw [service.move_of_ready ready]
    refine ⟨stepped.1, fun other mem => ?_⟩
    rcases List.mem_or_eq_of_mem_set mem with old | rfl
    · exact tasks other old
    · exact stepped.2

/-- **Any moves of any tasks preserve it.** -/
theorem run {r : ServiceRun ι σ α} (state : kept r.state)
    (tasks : ∀ task ∈ r.tasks, holds task.cluster task.stage) (moves : List Move) :
    kept (service.run moves r).state
      ∧ ∀ task ∈ (service.run moves r).tasks, holds task.cluster task.stage := by
  induction moves generalizing r with
  | nil => exact ⟨state, tasks⟩
  | cons m rest ih =>
    have moved := invariant.move state tasks m
    exact ih moved.1 moved.2

theorem outcomes {s : ServiceState ι σ α} (state : kept s) (schedule : List Move)
    (clusters : List ClusterId) :
    kept (service.outcomes schedule clusters s).2
      ∧ ∀ (place : Nat) (cluster : ClusterId), clusters[place]? = some cluster →
        ∃ outcome, (service.outcomes schedule clusters s).1[place]? = some outcome
          ∧ holds cluster (.ended outcome) := by
  have begins : ∀ task ∈ (ServiceRun.start clusters s).tasks, holds task.cluster task.stage := by
    intro task mem
    obtain ⟨cluster, -, rfl⟩ := List.mem_map.mp mem
    exact invariant.begun cluster
  have ends := invariant.run (r := .start clusters s) state begins
    (schedule ++ closing clusters.length)
  refine ⟨ends.1, fun place cluster asked => ?_⟩
  obtain ⟨outcome, there, answered⟩ := service.exists_outcome schedule s asked
  exact ⟨outcome, answered, ends.2 _ (List.mem_of_getElem? there)⟩

theorem mem_outcomes {s : ServiceState ι σ α} (state : kept s) {schedule : List Move}
    {clusters : List ClusterId} {outcome : Except Fault (ClusterEstimate α)}
    (answered : outcome ∈ (service.outcomes schedule clusters s).1) :
    ∃ cluster ∈ clusters, holds cluster (.ended outcome) := by
  obtain ⟨place, there⟩ := List.mem_iff_getElem?.mp answered
  have bound : place < clusters.length := by
    obtain ⟨bound, -⟩ := List.getElem?_eq_some_iff.mp there
    rwa [service.length_outcomes] at bound
  have requested := List.getElem?_eq_getElem bound
  obtain ⟨own, here, held⟩ := (invariant.outcomes state schedule clusters).2 place _ requested
  cases there.symm.trans here
  exact ⟨_, List.mem_of_getElem? requested, held⟩

/-- **What each task can only end with is what is answered.** -/
theorem outcomes_eq_map {s : ServiceState ι σ α} (state : kept s)
    {answer : ClusterId → Except Fault (ClusterEstimate α)}
    (unique : ∀ cluster outcome, holds cluster (.ended outcome) → outcome = answer cluster)
    (schedule : List Move) (clusters : List ClusterId) :
    (service.outcomes schedule clusters s).1 = clusters.map answer := by
  refine List.ext_getElem? fun place => ?_
  rw [List.getElem?_map]
  cases requested : clusters[place]? with
  | some cluster =>
    obtain ⟨outcome, here, held⟩ := (invariant.outcomes state schedule clusters).2 place cluster
      requested
    rw [here, unique cluster outcome held]
    rfl
  | none =>
    rw [Option.map_none, List.getElem?_eq_none_iff, service.length_outcomes]
    exact List.getElem?_eq_none_iff.mp requested

end Invariant

/-! ## A task alone -/

/-- **Whether a task that goes onward from a stage ends** with an outcome, and leaves a state. -/
inductive Ends (cluster : ClusterId) : EstimateStage α → ServiceState ι σ α →
    Except Fault (ClusterEstimate α) → ServiceState ι σ α → Prop
  | ended (outcome : Except Fault (ClusterEstimate α)) (s : ServiceState ι σ α) :
    Ends cluster (.ended outcome) s outcome s
  | onward {stage : EstimateStage α} {s s' : ServiceState ι σ α}
    {outcome : Except Fault (ClusterEstimate α)}
    (rest : Ends cluster (service.step cluster .onward stage s).1
      (service.step cluster .onward stage s).2 outcome s') :
    Ends cluster stage s outcome s'

variable {service}

theorem Invariant.ends {kept : ServiceState ι σ α → Prop}
    {holds : ClusterId → EstimateStage α → Prop} (invariant : service.Invariant kept holds)
    {cluster : ClusterId} {stage : EstimateStage α} {s s' : ServiceState ι σ α}
    {outcome : Except Fault (ClusterEstimate α)} (ends : service.Ends cluster stage s outcome s')
    (state : kept s) (task : holds cluster stage) : kept s' ∧ holds cluster (.ended outcome) := by
  induction ends with
  | ended => exact ⟨state, task⟩
  | onward rest ih =>
    have stepped := invariant.step (service.steps cluster .onward _ _) state task
    exact ih stepped.1 stepped.2

/-- A task that is alone need not wait. -/
theorem Ends.run_eq {cluster : ClusterId} {stage : EstimateStage α} {s s' : ServiceState ι σ α}
    {outcome : Except Fault (ClusterEstimate α)} (ends : service.Ends cluster stage s outcome s')
    {moves : Nat} (enough : stage.distance ≤ moves) :
    service.run (List.replicate moves ⟨0, .onward⟩) ⟨[⟨cluster, stage⟩], s⟩
      = ⟨[⟨cluster, .ended outcome⟩], s'⟩ := by
  have still (outcome : Except Fault (ClusterEstimate α)) (s : ServiceState ι σ α) (moves : Nat) :
      service.run (List.replicate moves ⟨0, .onward⟩) ⟨[⟨cluster, .ended outcome⟩], s⟩
        = ⟨[⟨cluster, .ended outcome⟩], s⟩ := by
    induction moves with
    | zero => rfl
    | succ moves ih => exact ih
  induction ends generalizing moves with
  | ended outcome s => exact still outcome s moves
  | @onward stage s s' outcome rest ih =>
    by_cases going : stage.distance = 0
    · obtain ⟨own, rfl⟩ : ∃ own, stage = .ended own := by
        cases stage <;> simp [EstimateStage.distance] at going
        next own => exact ⟨own, rfl⟩
      exact ih (Nat.zero_le moves)
    · obtain ⟨moves, rfl⟩ := Nat.exists_eq_add_one_of_ne_zero
        (Nat.pos_iff_ne_zero.mp (Nat.lt_of_lt_of_le (Nat.pos_of_ne_zero going) enough))
      have ready : (⟨[⟨cluster, stage⟩], s⟩ : ServiceRun ι σ α).ready? 0
          = some ⟨cluster, stage⟩ := by
        refine ServiceRun.ready?_eq_some_iff.mpr
          ⟨rfl, stage.outcome?_eq_none_iff.mpr going, ?_⟩
        by_contra blocked
        obtain ⟨queued, other, mem, -, holds⟩ :=
          ServiceRun.blocks_eq_true_iff.mp (by simpa using blocked)
        obtain rfl := List.mem_singleton.mp mem
        rw [queued] at holds
        cases holds
      have nearer := (service.steps cluster .onward stage s).distance_lt going
      rw [List.replicate_succ]
      show service.run _ (service.move _ ⟨0, .onward⟩) = _
      rw [service.move_of_ready ready]
      exact ih (by omega)

section Alone

variable (service) (cluster : ClusterId) (s : ServiceState ι σ α)

theorem ends_billing (descriptor : ClusterDescriptor) (terms : BillingTerms)
    (groups : List GroupInstances) :
    let billed := service.biller.groupsEstimate terms descriptor.id groups s.steps s.book
    service.Ends cluster (.billing descriptor terms (.start descriptor.id groups)) s
      (.ok billed.estimate) (service.remember descriptor billed.estimate
        { s with steps := billed.steps, book := billed.book }) :=
  .onward (.onward (.ended _ _))

theorem ends_described (descriptor : ClusterDescriptor) :
    service.Ends cluster (.described descriptor) s
      (orEmpty cluster (service.billDescribed descriptor s).1)
      (service.billDescribed descriptor s).2 := by
  refine .onward ?_
  simp only [step, openListing, billDescribed]
  cases SurchargeModel.ofCluster service.platform descriptor service.plan with
  | error fault => exact .ended _ _
  | ok surcharge =>
    refine .onward ?_
    simp only [step, goOnListing, billCluster, Biller.clusterEstimate, Inventory.layoutFrom]
    cases service.inventory.layout descriptor.id (service.clock s.outside).2 with
    | mk outcome outside =>
      cases outcome with
      | error fault => exact .ended _ _
      | ok groups => exact service.ends_billing cluster { s with outside := outside } descriptor _ _

theorem ends_describing :
    service.Ends cluster .describing s (orEmpty cluster (service.compute cluster s).1)
      (service.compute cluster s).2 := by
  refine .onward ?_
  simp only [step, compute, Asked.andThen, describe]
  cases s.spend.cache.descriptor? cluster with
  | some descriptor => exact service.ends_described cluster s.spend descriptor
  | none =>
    refine .onward ?_
    simp only [step, askFor]
    cases service.inventory.describe cluster s.spend.outside with
    | mk outcome outside =>
      cases outcome with
      | error fault => exact .ended _ _
      | ok descriptor => exact .onward (service.ends_described cluster _ descriptor)

theorem ends_admitted :
    service.Ends cluster .admitted s (service.estimateInSlot cluster s).1
      (service.estimateInSlot cluster s).2 := by
  refine .onward ?_
  simp only [step, lookFor, estimateInSlot]
  cases s.spend.cache.estimate? cluster with
  | some estimate => exact .ended _ _
  | none => exact service.ends_describing cluster s.spend

/-- **A task alone ends as the sequential estimate does.** -/
theorem ends_estimate :
    service.Ends cluster .begun s (service.estimate cluster s).1
      (service.estimate cluster s).2 := by
  refine .onward ?_
  simp only [step, lookFor, estimate]
  split
  · cases s.spend.cache.estimate? cluster with
    | some estimate => exact .ended _ _
    | none => exact .onward (service.ends_admitted cluster _)
  · exact service.ends_describing cluster s

theorem run_single :
    service.run ([] ++ closing 1) (.start [cluster] s)
      = ⟨[⟨cluster, .ended (service.estimate cluster s).1⟩], (service.estimate cluster s).2⟩ := by
  have enough : (.begun : EstimateStage α).distance ≤ longestWay + longestWay := by
    simp [EstimateStage.distance, longestWay]
  have turns : [] ++ closing 1 = List.replicate (longestWay + longestWay) ⟨0, .onward⟩ := rfl
  have alone : ServiceRun.start [cluster] s = ⟨[⟨cluster, .begun⟩], s⟩ := rfl
  rw [turns, alone]
  exact (service.ends_estimate cluster s).run_eq enough

/-- A request for one cluster. -/
theorem outcomes_single :
    service.outcomes [] [cluster] s
      = ([(service.estimate cluster s).1], (service.estimate cluster s).2) := by
  unfold outcomes
  dsimp only
  rw [List.length_singleton, run_single]
  rfl

end Alone

end CostService

end ClusterBilling
