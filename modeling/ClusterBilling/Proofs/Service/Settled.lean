import ClusterBilling.Proofs.Inventory.Notes
import ClusterBilling.Proofs.Service.Requests
import ClusterBilling.Proofs.Service.Slots

/-!
# What is settled stays settled

Where all time is billed, **what comes of an event settles the later ones** (`settled`). Once an
estimate was computed that is worth keeping, every later move of a task of the cluster leads to that
estimate, and nothing is asked for it, neither of the inventory nor of the source of spot prices.
Once an event worked with the description of a cluster that is gone, every later event of the
cluster works with that description, and the inventory is never asked to describe the cluster again.
Tasks of one cluster may be on their way side by side, and several requests behind each other.

What was asked is read off the notes of an inventory and of a source that note every call. The
inventory may contradict itself and fail at any call: it is not asked, so it does not matter. That
is because the memory is only ever added to, and because the slots leave a task alone with its
cluster (`Orderly`): a description that is not remembered yet is that of the one task that is about
to hand it over (`Known`).
-/

namespace ClusterBilling

/-- A state of a service whose inventory and source of spot prices note every call. -/
abbrev NotedState (ι σ α : Type) : Type :=
  ServiceState (ι × List InventoryCall) (σ × List PageRequest) α

/-- A request on its way for such a service. -/
abbrev NotedRun (ι σ α : Type) : Type :=
  ServiceRun (ι × List InventoryCall) (σ × List PageRequest) α

/-- An event of such a service. -/
abbrev NotedEvent (ι σ α : Type) : Type :=
  ServiceEvent (ι × List InventoryCall) (σ × List PageRequest) α

/-- **Whether an estimate has been computed in an event** that is worth keeping: one of a cluster
that is gone, with no instance left out. -/
inductive ServiceEvent.Computes {ι σ α : Type} :
    ServiceEvent ι σ α → ClusterId → ClusterEstimate α → Prop
  | billed {m : TaskMove ι σ α} {descriptor : ClusterDescriptor} {estimate : ClusterEstimate α}
    (stage : m.stage = .billed descriptor estimate) (gone : descriptor.isTerminal = true)
    (complete : estimate.isDegraded = false) :
    Computes (.moved m) m.cluster estimate

namespace CostService

/-- The same service with an inventory and a source of spot prices that note every call. -/
def noted {ι σ α : Type} (service : CostService ι σ α) :
    CostService (ι × List InventoryCall) (σ × List PageRequest) α where
  inventory := service.inventory.noted
  clock s := let (now, outside) := service.clock s.1; (now, outside, s.2)
  biller := ⟨service.biller.catalog, service.biller.spot.noted, service.biller.retry⟩
  platform := service.platform
  plan := service.plan
  window := service.window

section Events

variable {ι σ α : Type} [Amount α] (service : CostService ι σ α)

/-- The state of the service after an event. -/
def stateAfter : ServiceEvent ι σ α → ServiceState ι σ α
  | .described cluster s => (service.describe cluster s).2
  | .moved m => (service.after m).2

/-- **Whether an event works with a description of a cluster**: describing the cluster gives it, or
a task of the cluster has it before its move or after. -/
inductive WorksWith : ServiceEvent ι σ α → ClusterId → ClusterDescriptor → Prop
  | described {cluster : ClusterId} {s : ServiceState ι σ α} {descriptor : ClusterDescriptor}
    (found : (service.describe cluster s).1 = .ok descriptor) :
    WorksWith (.described cluster s) cluster descriptor
  | before {m : TaskMove ι σ α} {descriptor : ClusterDescriptor}
    (works : m.stage.descriptor? = some descriptor) : WorksWith (.moved m) m.cluster descriptor
  | after {m : TaskMove ι σ α} {descriptor : ClusterDescriptor}
    (works : (service.after m).1.descriptor? = some descriptor) :
    WorksWith (.moved m) m.cluster descriptor

/-- **Whether a move leads to a certain estimate** and nothing is asked for it. -/
structure LeadsTo (m : TaskMove ι σ α) (estimate : ClusterEstimate α) : Prop where
  /-- The task ends with the estimate, or comes from its queue into its slot. -/
  stage : (service.after m).1 = .ended (.ok estimate)
    ∨ m.stage = .queued ∧ (service.after m).1 = .admitted
  /-- The inventory is not asked. -/
  outside : (service.after m).2.outside = m.state.outside
  /-- Neither is the source of spot prices. -/
  book : (service.after m).2.book = m.state.book

/-- **Whether an earlier event settles a later one.** -/
structure Settles (earlier later : ServiceEvent ι σ α) : Prop where
  estimate : ∀ cluster estimate, earlier.Computes cluster estimate →
    ∀ m, later = .moved m → m.cluster = cluster → service.LeadsTo m estimate
  description : ∀ cluster descriptor, service.WorksWith earlier cluster descriptor →
    descriptor.isTerminal = true →
      ∀ other, service.WorksWith later cluster other → other = descriptor

end Events

/-! ## What is remembered is given again -/

section Remembering

variable {ι σ α : Type} {service : CostService ι σ α} {cluster : ClusterId}
  {s : ServiceState ι σ α}

/-- A remembered description is worked with, and nothing is asked. -/
theorem describe_of_remembered {descriptor : ClusterDescriptor}
    (held : s.cache.descriptor? cluster = some descriptor) :
    service.describe cluster s = (.ok descriptor, s.spend) := by
  have known : s.spend.cache.descriptor? cluster = some descriptor := held
  simp only [describe, known]

/-- **A description of a cluster that is gone is remembered.** -/
theorem descriptor?_describe (asked : DescribesAsked service.inventory)
    {descriptor : ClusterDescriptor}
    (described : (service.describe cluster s).1 = .ok descriptor)
    (terminal : descriptor.isTerminal = true) :
    (service.describe cluster s).2.cache.descriptor? cluster = some descriptor := by
  cases held : s.cache.descriptor? cluster with
  | some remembered =>
    rw [describe_of_remembered held] at described ⊢
    cases described
    exact held
  | none =>
    have new : s.spend.cache.descriptor? cluster = none := held
    simp only [describe, new] at described ⊢
    cases answered : service.inventory.describe cluster s.spend.outside with
    | mk outcome outside =>
      rw [answered] at described
      cases outcome with
      | error fault => cases described
      | ok found =>
        cases described
        have own : descriptor.id = cluster := asked _ _ _ _ answered
        have kept := s.cache.descriptor?_keepDescriptor descriptor cluster
        rw [if_pos ⟨own.symm, terminal, own ▸ held⟩] at kept
        simp only [ServiceState.keepDescriptor, terminal, if_true]
        exact kept

theorem NamesGone.describe (names : NamesGone s.cache) (cluster : ClusterId) :
    NamesGone (service.describe cluster s).2.cache := by
  intro other descriptor held
  rcases service.cache_describe cluster s with same | ⟨found, outside, -, kept⟩
  · exact names other descriptor (same ▸ held)
  · rw [kept, ResultCache.descriptor?_keepDescriptor] at held
    split at held
    · next new =>
      cases held
      exact ⟨new.2.1, new.1.symm⟩
    · exact names other descriptor held

variable [Amount α]

/-- A remembered estimate is given, and nothing is asked. -/
theorem estimate_of_remembered (whole : service.window = .unbounded)
    {estimate : ClusterEstimate α} (held : s.cache.estimate? cluster = some estimate) :
    service.estimate cluster s = (.ok estimate, s.spend) := by
  have known : s.spend.cache.estimate? cluster = some estimate := held
  simp only [CostService.estimate, service.keepsResults_eq_true_iff.mpr whole, if_true, known]

/-- **A task that has still to look for an estimate comes to the one that is remembered**, and asks
for nothing; the others do not fit. -/
theorem Steps.of_remembered (whole : service.window = .unbounded) {pace : Pace}
    {stage stage' : EstimateStage α} {s' : ServiceState ι σ α}
    (steps : service.Steps cluster pace stage s stage' s') (fits : Fits s.cache cluster stage)
    (going : stage.outcome? = none) {estimate : ClusterEstimate α}
    (held : s.cache.estimate? cluster = some estimate) :
    (stage' = .ended (.ok estimate) ∨ stage = .queued ∧ stage' = .admitted)
      ∧ s'.outside = s.outside ∧ s'.book = s.book := by
  cases steps with
  | skipped _ _ forgets =>
    rw [service.keepsResults_eq_true_iff.mpr whole] at forgets
    cases forgets
  | missed _ _ _ new | missedAgain _ _ new => cases new.symm.trans held
  | found _ _ _ known | foundAgain _ _ known =>
    cases held.symm.trans known
    exact ⟨.inl rfl, rfl, rfl⟩
  | entered => exact ⟨.inr ⟨rfl, rfl⟩, s.outside_takeSlot cluster, s.book_takeSlot cluster⟩
  | rests => cases going
  | recalled | unknown => cases fits.symm.trans held
  | _ => cases fits.1.symm.trans held

/-- **A remembered estimate is the answer to every task of its cluster**, whoever moves beside it. -/
theorem outcomes_of_remembered (whole : service.window = .unbounded)
    {estimate : ClusterEstimate α} (held : s.cache.estimate? cluster = some estimate)
    (schedule : List Move) {clusters : List ClusterId} {place : Nat}
    (requested : clusters[place]? = some cluster) :
    (service.outcomes schedule clusters s).1[place]? = some (.ok estimate) := by
  have invariant : service.Invariant (fun s => s.cache.estimate? cluster = some estimate)
      fun own stage => own = cluster →
        stage = .begun ∨ stage = .queued ∨ stage = .admitted ∨ stage = .ended (.ok estimate) := by
    constructor
    case begun => exact fun own same => .inl rfl
    case step =>
      rintro own pace stage s stage' s' steps known stages
      refine ⟨steps.isPartOf.estimates _ _ known, ?_⟩
      rintro rfl
      have leads (fits : Fits s.cache own stage) (going : stage.outcome? = none) :
          stage' = .admitted ∨ stage' = .ended (.ok estimate) :=
        (steps.of_remembered whole fits going known).1.symm.imp_left And.right
      rcases stages rfl with rfl | rfl | rfl | rfl
      · exact .inr (.inr (leads trivial rfl))
      · exact .inr (.inr (leads trivial rfl))
      · exact .inr (.inr (leads trivial rfl))
      · cases steps
        exact .inr (.inr (.inr rfl))
  obtain ⟨outcome, answered, ended⟩ := (invariant.outcomes held schedule clusters).2 place cluster
    requested
  rw [answered]
  have given : EstimateStage.ended outcome = .ended (.ok estimate) := by simpa using ended rfl
  cases given
  rfl

/-! ## Descriptions that are settled -/

/-- **Whether the description of a cluster is settled** in a request on its way: it is remembered,
or a task is about to hand it over. -/
def Known (r : ServiceRun ι σ α) (cluster : ClusterId) (descriptor : ClusterDescriptor) : Prop :=
  r.state.cache.descriptor? cluster = some descriptor
    ∨ ⟨cluster, .answered descriptor⟩ ∈ r.tasks

variable {r : ServiceRun ι σ α} {task : EstimateTask α} {descriptor : ClusterDescriptor}

omit [Amount α] in
/-- The description of a cluster that is gone is settled once a task works with it. -/
theorem Orderly.known (orderly : Orderly r) (mem : task ∈ r.tasks)
    (works : task.stage.descriptor? = some descriptor) (terminal : descriptor.isTerminal = true) :
    Known r task.cluster descriptor := by
  have fits := orderly.fits task mem
  obtain ⟨cluster, stage⟩ := task
  cases stage <;> cases works
  case answered => exact .inr mem
  all_goals exact .inl (by simpa only [terminal, if_true] using fits.2.2)

omit [Amount α] in
/-- A task in the slot of a cluster is the one that hands the description over, if there is one. -/
theorem Orderly.stage_eq_answered (orderly : Orderly r) (mem : task ∈ r.tasks)
    (holds : task.stage.holdsSlot = true)
    (other : (⟨task.cluster, .answered descriptor⟩ : EstimateTask α) ∈ r.tasks) :
    task.stage = .answered descriptor := by
  obtain ⟨place, here⟩ := List.mem_iff_getElem?.mp mem
  obtain ⟨place', there⟩ := List.mem_iff_getElem?.mp other
  have same := orderly.alone place place' _ _ here there rfl holds rfl
  rw [same, there] at here
  exact congrArg EstimateTask.stage (Option.some.inj here).symm

omit [Amount α] in
/-- **All tasks of a cluster work with its settled description.** -/
theorem Orderly.eq_of_known (orderly : Orderly r) (mem : task ∈ r.tasks)
    {other : ClusterDescriptor} (works : task.stage.descriptor? = some other)
    (known : Known r task.cluster descriptor) : other = descriptor := by
  rcases known with held | waits
  · have fits := orderly.fits task mem
    obtain ⟨cluster, stage⟩ := task
    have kept (fits : r.state.cache.descriptor? cluster
        = if other.isTerminal = true then some other else none) : other = descriptor := by
      rw [held] at fits
      split at fits <;> cases fits
      rfl
    cases stage <;> cases works
    case inl.answered => cases fits.2.1.symm.trans held
    all_goals exact kept fits.2.2
  · have holds : task.stage.holdsSlot = true := by
      cases stage : task.stage <;> rw [stage] at works <;> cases works <;> rfl
    rw [orderly.stage_eq_answered mem holds waits] at works
    exact (Option.some.inj works).symm

/-- **What is settled stays so**, whoever moves. -/
theorem Known.move {tasks : List (EstimateTask α)} {place : Nat} {pace : Pace}
    (orderly : Orderly ⟨tasks, s⟩) (here : tasks[place]? = some task)
    (known : Known ⟨tasks, s⟩ cluster descriptor) (terminal : descriptor.isTerminal = true) :
    Known ⟨tasks.set place ⟨task.cluster, (service.step task.cluster pace task.stage s).1⟩,
      (service.step task.cluster pace task.stage s).2⟩ cluster descriptor := by
  rcases known with held | waits
  · exact .inl ((service.steps _ _ _ s).isPartOf.descriptors _ _ held)
  · obtain ⟨place', there⟩ := List.mem_iff_getElem?.mp waits
    by_cases own : place' = place
    · subst own
      cases here.symm.trans there
      obtain ⟨-, unknown, own⟩ := orderly.fits _ waits
      refine .inl ?_
      simp only [step, ServiceState.cache_keepDescriptor, ResultCache.descriptor?_keepDescriptor]
      rw [if_pos ⟨own.symm, terminal, own ▸ unknown⟩]
    · refine .inr (List.mem_of_getElem? (i := place') ?_)
      rw [List.getElem?_set_ne (Ne.symm own)]
      exact there

end Remembering

/-! ## What is asked -/

section Asking

variable {ι σ α : Type} {service : CostService ι σ α}

/-- An inventory that notes its calls describes the same clusters. -/
theorem describesAsked_noted {inventory : Inventory ι} (asked : DescribesAsked inventory) :
    DescribesAsked inventory.noted := by
  intro cluster s descriptor s' described
  have answered : (inventory.describe cluster s.1).1 = .ok descriptor :=
    congrArg Prod.fst described
  exact asked cluster s.1 descriptor _ (Prod.ext answered rfl)

variable {cluster known : ClusterId} {s : NotedState ι σ α} {descriptor : ClusterDescriptor}

/-- **Describing a cluster does not ask for one whose description is remembered.** -/
theorem notedSince_describe (held : s.cache.descriptor? known = some descriptor) :
    NotedSince (· ≠ .describe known) s.outside.2
      (service.noted.describe cluster s).2.outside.2 := by
  cases remembered : s.cache.descriptor? cluster with
  | some other =>
    rw [describe_of_remembered remembered]
    exact .of_eq rfl
  | none =>
    have differs : InventoryCall.describe cluster ≠ .describe known := by
      rintro ⟨⟩
      rw [remembered] at held
      cases held
    have only : NotesOnly (· ≠ .describe known) (service.noted.inventory.describe cluster) := by
      apply NotesOnly.noteCall
      exact differs
    have notes := only s.outside
    have new : s.spend.cache.descriptor? cluster = none := remembered
    have same : s.spend.outside = s.outside := rfl
    simp only [describe, new, same]
    split
    · next found outside answered =>
      rw [answered] at notes
      unfold ServiceState.keepDescriptor
      dsimp only
      split <;> exact notes
    · next fault outside answered =>
      rwa [answered] at notes

variable [Amount α]

/-- **A step asks for lists**, unless it is the one that asks for a description. -/
theorem Steps.notedSince {cluster : ClusterId} {pace : Pace} {stage stage' : EstimateStage α}
    {s s' : NotedState ι σ α} (steps : service.noted.Steps cluster pace stage s stage' s') :
    NotedSince (fun call => call.IsList ∨ stage = .asking ∧ call = .describe cluster) s.outside.2
      s'.outside.2 := by
  have lists {β : Type} {ask : Asked (ι × List InventoryCall) β} {answer : Except Fault β}
      {outside : ι × List InventoryCall} (only : NotesOnly InventoryCall.IsList ask)
      (asked : ask s.outside = (answer, outside)) :
      NotedSince (fun call => call.IsList ∨ stage = .asking ∧ call = .describe cluster)
        s.outside.2 outside.2 := by
    have noted := only s.outside
    rw [asked] at noted
    exact noted.mono fun _ => .inl
  cases steps with
  | entered => exact .of_eq (congrArg Prod.snd (s.outside_takeSlot cluster))
  | answered _ _ asked | unanswered _ _ asked =>
    have only : NotesOnly (· = .describe cluster) (service.noted.inventory.describe cluster) := by
      apply NotesOnly.noteCall
      exact rfl
    have noted := only s.outside
    rw [asked] at noted
    exact noted.mono fun _ same => .inr ⟨rfl, same⟩
  | handedOver _ _ descriptor =>
    unfold ServiceState.keepDescriptor
    dsimp only
    split <;> exact .of_eq rfl
  | called _ _ terms undone asked | uncalled _ _ terms undone asked =>
    exact lists (service.inventory.notesOnly_layoutCall _ _) asked
  | laidOut _ terms asked | unlisted _ terms asked =>
    exact lists (service.inventory.notesOnly_layoutFrom _ _) asked
  | kept _ _ descriptor estimate =>
    unfold remember ServiceState.keepEstimate
    dsimp only
    split
    · split <;> exact .of_eq rfl
    · exact .of_eq rfl
  | _ => exact .of_eq rfl

/-- **Nobody asks for a description that is settled.** -/
theorem Known.notedSince {tasks : List (EstimateTask α)} {task : EstimateTask α}
    (orderly : Orderly ⟨tasks, s⟩) (mem : task ∈ tasks) (settled : Known ⟨tasks, s⟩ known descriptor)
    (pace : Pace) :
    NotedSince (· ≠ .describe known) s.outside.2
      (service.noted.step task.cluster pace task.stage s).2.outside.2 := by
  refine (service.noted.steps task.cluster pace task.stage s).notedSince.mono fun call kind => ?_
  rcases kind with isList | ⟨asking, rfl⟩
  · exact isList.ne_describe known
  · rintro ⟨⟩
    rcases settled with held | waits
    · have fits := orderly.fits task mem
      rw [asking] at fits
      cases fits.2.symm.trans held
    · have stage := orderly.stage_eq_answered mem (by rw [asking]; rfl) waits
      cases asking.symm.trans stage

end Asking

/-! ## The course of requests -/

section Course

variable {ι σ α : Type} [Amount α] (service : CostService ι σ α)

/-- **Whether all is settled that an event settles**, in a request on its way. -/
structure SettledIn (event : NotedEvent ι σ α) (r : NotedRun ι σ α) : Prop where
  estimate : ∀ cluster estimate, event.Computes cluster estimate →
    r.state.cache.estimate? cluster = some estimate
  description : ∀ cluster descriptor, service.noted.WorksWith event cluster descriptor →
    descriptor.isTerminal = true → Known r cluster descriptor
  asks : ∀ cluster descriptor, service.noted.WorksWith event cluster descriptor →
    descriptor.isTerminal = true →
      NotedSince (· ≠ .describe cluster) (service.noted.stateAfter event).outside.2
        r.state.outside.2

/-- **Whether some events lead from one moment to another**, settle each other in their order, and
leave settled what was. -/
structure Settling (r : NotedRun ι σ α) (events : List (NotedEvent ι σ α))
    (r' : NotedRun ι σ α) : Prop where
  orderly : Orderly r'
  ordered : events.Pairwise service.noted.Settles
  own : ∀ event ∈ events, service.SettledIn event r'
  before : ∀ event, service.SettledIn event r →
    (∀ later ∈ events, service.noted.Settles event later) ∧ service.SettledIn event r'

variable {service}

namespace Settling

variable {r r' r'' : NotedRun ι σ α} {first second : List (NotedEvent ι σ α)}

theorem nil (orderly : Orderly r')
    (same : ∀ event, service.SettledIn event r → service.SettledIn event r') :
    service.Settling r [] r' where
  orderly := orderly
  ordered := .nil
  own event mem := by cases mem
  before event settled := ⟨fun later mem => (by cases mem), same event settled⟩

theorem append (early : service.Settling r first r') (late : service.Settling r' second r'') :
    service.Settling r (first ++ second) r'' where
  orderly := late.orderly
  ordered := List.pairwise_append.mpr ⟨early.ordered, late.ordered,
    fun event mem => (late.before event (early.own event mem)).1⟩
  own event mem := by
    rcases List.mem_append.mp mem with before | after
    · exact (late.before event (early.own event before)).2
    · exact late.own event after
  before event settled := by
    obtain ⟨settles, settled⟩ := early.before event settled
    obtain ⟨settles', settled⟩ := late.before event settled
    refine ⟨fun later mem => ?_, settled⟩
    exact (List.mem_append.mp mem).elim (settles later) (settles' later)

end Settling

section Unbounded

variable (whole : service.window = .unbounded) (asked : DescribesAsked service.noted.inventory)

include whole asked

section Move

variable {tasks : List (EstimateTask α)} {s : NotedState ι σ α} {place : Nat}
  {task : EstimateTask α} (orderly : Orderly ⟨tasks, s⟩) (pace : Pace)
  (ready : (⟨tasks, s⟩ : NotedRun ι σ α).ready? place = some task)

include orderly ready

/-- **All is settled behind a move that the move settles.** -/
theorem settledIn_moved :
    service.SettledIn (.moved ⟨place, task.cluster, pace, task.stage, s⟩)
      ⟨tasks.set place ⟨task.cluster, (service.noted.step task.cluster pace task.stage s).1⟩,
        (service.noted.step task.cluster pace task.stage s).2⟩ := by
  obtain ⟨here, -, -⟩ := ServiceRun.ready?_eq_some_iff.mp ready
  obtain ⟨bound, -⟩ := List.getElem?_eq_some_iff.mp here
  have mem : task ∈ tasks := List.mem_of_getElem? here
  have whole' : service.noted.window = .unbounded := whole
  have moved : Orderly _ := orderly.move whole' asked pace ready
  have mem' := List.mem_of_getElem? (List.getElem?_set_self
    (a := ⟨task.cluster, (service.noted.step task.cluster pace task.stage s).1⟩) bound)
  constructor
  case estimate =>
    rintro _ estimate ⟨stage, gone, complete⟩
    have fits := orderly.fits task mem
    have keeps := service.noted.keepsResults_eq_true_iff.mpr whole'
    dsimp only at stage
    rw [stage] at fits
    obtain ⟨none, own, -⟩ := fits
    simp only [stage, step, remember, keeps, complete, Bool.not_false, Bool.and_self, if_true,
      ServiceState.cache_keepEstimate, ResultCache.estimate?_keepEstimate]
    rw [if_pos ⟨own.symm, gone, own ▸ none⟩]
  case description =>
    intro cluster descriptor works terminal
    cases works with
    | before works => exact (orderly.known mem works terminal).move orderly here terminal
    | after works =>
      have known := moved.known mem' works terminal
      exact known
  case asks => exact fun _ _ _ _ => .of_eq rfl

variable {event : NotedEvent ι σ α} (settled : service.SettledIn event ⟨tasks, s⟩)

include settled

/-- **What was settled before a move settles the move.** -/
theorem SettledIn.settles :
    service.noted.Settles event (.moved ⟨place, task.cluster, pace, task.stage, s⟩) := by
  obtain ⟨here, going, -⟩ := ServiceRun.ready?_eq_some_iff.mp ready
  obtain ⟨bound, -⟩ := List.getElem?_eq_some_iff.mp here
  have mem : task ∈ tasks := List.mem_of_getElem? here
  have whole' : service.noted.window = .unbounded := whole
  constructor
  case estimate =>
    rintro _ estimate computes m ⟨⟩ rfl
    have held := settled.estimate task.cluster estimate computes
    have stepped := service.noted.steps task.cluster pace task.stage s
    have leads := stepped.of_remembered whole' (orderly.fits task mem) going held
    exact ⟨leads.1, leads.2.1, leads.2.2⟩
  case description =>
    intro cluster descriptor works terminal other works'
    have known := settled.description cluster descriptor works terminal
    cases works' with
    | before works => exact orderly.eq_of_known mem works known
    | after works =>
      have moved : Orderly _ := orderly.move whole' asked pace ready
      have mem' := List.mem_of_getElem? (List.getElem?_set_self
        (a := ⟨task.cluster, (service.noted.step task.cluster pace task.stage s).1⟩) bound)
      exact moved.eq_of_known mem' works (known.move orderly here terminal)

omit whole asked in
/-- **And it stays settled.** -/
theorem SettledIn.move :
    service.SettledIn event
      ⟨tasks.set place ⟨task.cluster, (service.noted.step task.cluster pace task.stage s).1⟩,
        (service.noted.step task.cluster pace task.stage s).2⟩ := by
  obtain ⟨here, -, -⟩ := ServiceRun.ready?_eq_some_iff.mp ready
  have mem : task ∈ tasks := List.mem_of_getElem? here
  constructor
  case estimate =>
    intro cluster estimate computes
    have stepped := service.noted.steps task.cluster pace task.stage s
    exact stepped.isPartOf.estimates _ _ (settled.estimate cluster estimate computes)
  case description =>
    intro cluster descriptor works terminal
    exact (settled.description cluster descriptor works terminal).move orderly here terminal
  case asks =>
    intro cluster descriptor works terminal
    exact (settled.asks cluster descriptor works terminal).trans
      ((settled.description cluster descriptor works terminal).notedSince orderly mem pace)

end Move

/-- One move. -/
theorem settling_move {tasks : List (EstimateTask α)} {s : NotedState ι σ α} {place : Nat}
    {task : EstimateTask α} (orderly : Orderly ⟨tasks, s⟩) (pace : Pace)
    (ready : (⟨tasks, s⟩ : NotedRun ι σ α).ready? place = some task) :
    service.Settling ⟨tasks, s⟩ [.moved ⟨place, task.cluster, pace, task.stage, s⟩]
      ⟨tasks.set place ⟨task.cluster, (service.noted.step task.cluster pace task.stage s).1⟩,
        (service.noted.step task.cluster pace task.stage s).2⟩ := by
  have whole' : service.noted.window = .unbounded := whole
  constructor
  case orderly => exact orderly.move whole' asked pace ready
  case ordered => exact List.pairwise_singleton ..
  case own =>
    intro event mem
    obtain rfl := List.mem_singleton.mp mem
    exact settledIn_moved whole asked orderly pace ready
  case before =>
    intro event settled
    refine ⟨fun later mem => ?_, settled.move orderly pace ready⟩
    obtain rfl := List.mem_singleton.mp mem
    exact settled.settles whole asked orderly pace ready

/-- Any moves. -/
theorem settling_moving {r r' : NotedRun ι σ α}
    {made : List (TaskMove (ι × List InventoryCall) (σ × List PageRequest) α)}
    (moving : service.noted.Moving r made r') (orderly : Orderly r) :
    service.Settling r (made.map .moved) r' := by
  induction moving with
  | still r => exact .nil orderly fun event settled => settled
  | move pace ready rest ih =>
    have first := settling_move whole asked orderly pace ready
    exact first.append (ih first.orderly)

theorem settling_outcomes {s : NotedState ι σ α} (names : NamesGone s.cache)
    (schedule : List Move) (clusters : List ClusterId) :
    service.Settling (.start [] s) (service.noted.taskEvents schedule clusters s)
      (.start [] (service.noted.outcomes schedule clusters s).2) := by
  have begins : service.Settling (.start [] s) [] (.start clusters s) := by
    refine .nil (.start names clusters) fun event settled => ⟨settled.estimate, ?_, settled.asks⟩
    intro cluster descriptor works terminal
    exact (settled.description cluster descriptor works terminal).imp_right fun mem => by cases mem
  have runs := settling_moving whole asked
    (service.noted.moving_run (schedule ++ closing clusters.length) (.start clusters s))
    begins.orderly
  have closed := service.noted.outcome?_closed schedule (.start clusters s)
  rw [ServiceRun.start, List.length_map] at closed
  have ends : service.Settling
      (service.noted.run (schedule ++ closing clusters.length) (.start clusters s)) []
      (.start [] (service.noted.outcomes schedule clusters s).2) := by
    refine .nil (.start runs.orderly.names []) fun event settled =>
      ⟨settled.estimate, ?_, settled.asks⟩
    intro cluster descriptor works terminal
    -- Nobody is left who could have the description still to hand over.
    rcases settled.description cluster descriptor works terminal with held | waits
    · exact .inl held
    · obtain ⟨outcome, ended⟩ := closed _ waits
      cases ended
  have all := (begins.append runs).append ends
  rw [List.append_nil] at all
  exact all

omit whole in
theorem settling_describe {s : NotedState ι σ α} (names : NamesGone s.cache)
    (cluster : ClusterId) :
    service.Settling (.start [] s) [.described cluster s]
      (.start [] (service.noted.describe cluster s).2) := by
  constructor
  case orderly => exact .start (names.describe cluster) []
  case ordered => exact List.pairwise_singleton ..
  case own =>
    intro event own
    obtain rfl := List.mem_singleton.mp own
    constructor
    case estimate => rintro _ _ ⟨⟩
    case description =>
      rintro _ descriptor ⟨found⟩ terminal
      exact .inl (descriptor?_describe asked found terminal)
    case asks => exact fun _ _ _ _ => .of_eq rfl
  case before =>
    intro event settled
    have held {known : ClusterId} {descriptor : ClusterDescriptor}
        (works : service.noted.WorksWith event known descriptor)
        (terminal : descriptor.isTerminal = true) :
        s.cache.descriptor? known = some descriptor :=
      (settled.description known descriptor works terminal).resolve_right fun mem => by cases mem
    constructor
    · intro later own
      obtain rfl := List.mem_singleton.mp own
      constructor
      case estimate => rintro _ _ _ _ ⟨⟩
      case description =>
        rintro _ descriptor works terminal other ⟨found⟩
        rw [describe_of_remembered (held works terminal)] at found
        exact (Except.ok.inj found).symm
    · refine ⟨?_, fun known descriptor works terminal => .inl ?_, ?_⟩
      · intro own estimate computes
        exact (isPartOf_describe cluster s).estimates _ _ (settled.estimate own estimate computes)
      · exact (isPartOf_describe cluster s).descriptors _ _ (held works terminal)
      · intro known descriptor works terminal
        exact (settled.asks known descriptor works terminal).trans
          (notedSince_describe (held works terminal))

theorem settling_serve {s : NotedState ι σ α} (names : NamesGone s.cache)
    (request : ServiceRequest) :
    service.Settling (.start [] s) (service.noted.events request s)
      (.start [] (service.noted.serve request s).2) := by
  rcases service.noted.serve_cases request s with
    ⟨cluster, events, same⟩ | ⟨schedule, clusters, events, same⟩ | ⟨events, same⟩
  · rw [events, same]
    exact settling_describe asked names cluster
  · rw [events, same]
    exact settling_outcomes whole asked names schedule clusters
  · rw [events, same]
    have names' : NamesGone s.newRound.cache := names
    exact .nil (.start names' []) fun event settled =>
      ⟨settled.estimate, settled.description, settled.asks⟩

/-- **Some requests**, one behind the other. -/
theorem settling_serveAll {s : NotedState ι σ α} (names : NamesGone s.cache)
    (requests : List ServiceRequest) :
    service.Settling (.start [] s) (service.noted.history requests s)
      (.start [] (service.noted.serveAll requests s)) := by
  induction requests generalizing s with
  | nil => exact .nil (.start names []) fun _ settled => settled
  | cons request rest ih =>
    have first := settling_serve whole asked names request
    exact first.append (ih first.orderly.names)

end Unbounded

/-- **What is settled stays settled** where all time is billed, whatever is requested by whatever
schedule, and whatever the inventory answers. Every event settles all later ones. An estimate that
was computed and is worth keeping is the answer ever after, alone and in the company of others. The
description of a cluster that is gone is the answer ever after as well, and from the event that
worked with it the inventory is not asked to describe the cluster. -/
theorem settled (service : CostService ι σ α) (whole : service.window = .unbounded)
    (asked : DescribesAsked service.inventory) (outside : ι) (source : σ)
    (requests : List ServiceRequest) :
    let start : NotedState ι σ α := .start (outside, []) (source, [])
    let history := service.noted.history requests start
    let s := service.noted.serveAll requests start
    history.Pairwise service.noted.Settles
      ∧ (∀ event ∈ history, ∀ cluster estimate, event.Computes cluster estimate →
        service.noted.estimate cluster s = (.ok estimate, s.spend)
          ∧ ∀ schedule clusters (place : Nat), clusters[place]? = some cluster →
            (service.noted.outcomes schedule clusters s).1[place]? = some (.ok estimate))
      ∧ ∀ event ∈ history, ∀ cluster descriptor,
        service.noted.WorksWith event cluster descriptor → descriptor.isTerminal = true →
          service.noted.describe cluster s = (.ok descriptor, s.spend)
            ∧ NotedSince (· ≠ .describe cluster) (service.noted.stateAfter event).outside.2
              s.outside.2 := by
  intro start history s
  have nothing : NamesGone start.cache := fun _ _ held => by cases held
  have whole' : service.noted.window = .unbounded := whole
  have settling := settling_serveAll whole (describesAsked_noted asked) nothing requests
  refine ⟨settling.ordered, ?_, ?_⟩
  · intro event mem cluster estimate computes
    have held := (settling.own event mem).estimate cluster estimate computes
    exact ⟨estimate_of_remembered whole' held,
      fun schedule clusters place => outcomes_of_remembered whole' held schedule⟩
  · intro event mem cluster descriptor works terminal
    have own := settling.own event mem
    have held := (own.description cluster descriptor works terminal).resolve_right
      fun waits => by cases waits
    exact ⟨describe_of_remembered held, own.asks cluster descriptor works terminal⟩

end Course

end CostService

section Sample

/-- An inventory that describes clusters as gone when it is asked for the first time, and knows
none of them afterwards. -/
def Inventory.forgetful : Inventory Bool where
  describe cluster asked :=
    (if asked then .error (.unknownCluster cluster)
      else .ok ⟨cluster, "", .terminated, "us-east-1a", .epoch, some .epoch, none⟩, true)
  groups _ s := (.ok [], s)
  fleets _ s := (.ok [], s)
  instances _ _ _ s := (.ok [], s)

/-- A service over the inventory that forgets. -/
def CostService.forgetful : CostService Bool Unit Float where
  inventory := .forgetful
  clock s := (.epoch, s)
  biller := ⟨.empty, .silent, .once⟩
  platform := .emr
  plan := .standard
  window := .unbounded

/-- Two tasks of one cluster: one waits in its queue until the other has ended, and finds in the slot
what that one has kept. -/
theorem CostService.settled_forgetful :
    let requests : List ServiceRequest :=
      [.estimates Move.crossing ["j-1", "j-1"], .describe "j-1", .cost "j-1"]
    let start : NotedState Bool Unit Float := .start (false, []) ((), [])
    let s := forgetful.noted.serveAll requests start
    (forgetful.noted.history requests start).length = 15
      ∧ (s.cache.estimate? "j-1").isSome = true
      ∧ s.outside.2 = [.describe "j-1", .groups "j-1"]
      ∧ (forgetful.noted.history requests start).Pairwise forgetful.noted.Settles := by
  intro requests start s
  have asked : DescribesAsked forgetful.inventory := by
    intro cluster s descriptor s' described
    cases s <;> cases described
    rfl
  exact ⟨by decide +kernel, by decide +kernel, by decide +kernel,
    (forgetful.settled rfl asked false () requests).1⟩

end Sample

end ClusterBilling
