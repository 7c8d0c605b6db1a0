import ClusterBilling.Proofs.Service.Cache
import ClusterBilling.Proofs.Service.Windowed

/-!
# What the service remembers

The service remembers descriptions and estimates of clusters from one request to the next.
**Whatever is requested, by whatever schedule, and whatever the inventory answers, what it remembers
was worth it at every moment** (`remembered`): a description is one of a cluster in a final state; an
estimate is one that a task of its cluster ended with, over all of the cluster's time, with such a
description and with no instance left out. What is remembered stays as it is. A service that bills a
part of the time neither looks at the remembered estimates nor adds to them.

The inventory is free to change its mind and to fail at any call. It only has to describe the
cluster it is asked for.
-/

namespace ClusterBilling

namespace CostService

variable {ι σ α : Type} [Amount α] (service : CostService ι σ α)

/-! ## What is worth remembering -/

/-- **Whether an estimate was worth keeping**: all time was billed and no instance left out, and some
events tell of a task of the cluster that ended with it, having worked with the description of a
cluster in a final state. -/
def WorthKeeping (events : List (ServiceEvent ι σ α)) (cluster : ClusterId)
    (estimate : ClusterEstimate α) : Prop :=
  service.window = .unbounded ∧ estimate.isDegraded = false
    ∧ ∃ own last descriptor, ((own ++ [last]).map ServiceEvent.moved).Sublist events
      ∧ service.Course cluster (own ++ [last]) (.ended (.ok estimate))
      ∧ last.stage = .billed descriptor estimate ∧ descriptor.isTerminal = true

/-- Whether all that is remembered was worth it. -/
structure Sound (events : List (ServiceEvent ι σ α)) (cache : ResultCache α) : Prop where
  estimates : ∀ cluster estimate, cache.estimate? cluster = some estimate →
    service.WorthKeeping events cluster estimate
  descriptors : ∀ cluster descriptor, cache.descriptor? cluster = some descriptor →
    descriptor.isTerminal = true ∧ descriptor.id = cluster

/-- **Whether some events account for a task**: its own moves among them have led it where it
is, with a description of its cluster. -/
structure Accounts (events : List (ServiceEvent ι σ α)) (cluster : ClusterId)
    (stage : EstimateStage α) : Prop where
  course : ∃ own, service.Course cluster own stage ∧ (own.map ServiceEvent.moved).Sublist events
  named : ∀ descriptor, stage.descriptor? = some descriptor → descriptor.id = cluster

/-- Whether some events account for a request on its way, and for all that is remembered then. -/
structure Accounted (events : List (ServiceEvent ι σ α)) (r : ServiceRun ι σ α) : Prop where
  memory : service.Sound events r.state.cache
  tasks : ∀ task ∈ r.tasks, service.Accounts events task.cluster task.stage

variable {service} {events : List (ServiceEvent ι σ α)}

theorem Sound.append {cache : ResultCache α} (sound : service.Sound events cache)
    (more : List (ServiceEvent ι σ α)) : service.Sound (events ++ more) cache where
  estimates cluster estimate held := by
    obtain ⟨whole, complete, own, last, descriptor, sublist, made⟩ :=
      sound.estimates cluster estimate held
    exact ⟨whole, complete, own, last, descriptor,
      sublist.trans (List.sublist_append_left events more), made⟩
  descriptors := sound.descriptors

theorem Accounts.append {cluster : ClusterId} {stage : EstimateStage α}
    (accounts : service.Accounts events cluster stage) (more : List (ServiceEvent ι σ α)) :
    service.Accounts (events ++ more) cluster stage := by
  obtain ⟨⟨own, course, sublist⟩, named⟩ := accounts
  exact ⟨⟨own, course, sublist.trans (List.sublist_append_left events more)⟩, named⟩

/-- Descriptions that are worth it stay so, whatever is handed over to be kept. -/
theorem Sound.keepDescriptor {cache : ResultCache α} (sound : service.Sound events cache)
    (descriptor : ClusterDescriptor) : service.Sound events (cache.keepDescriptor descriptor) where
  estimates cluster estimate held :=
    sound.estimates cluster estimate ((ResultCache.estimate?_keepDescriptor ..).symm.trans held)
  descriptors cluster other held := by
    rw [ResultCache.descriptor?_keepDescriptor] at held
    split at held
    · next new =>
      cases held
      exact ⟨new.2.1, new.1.symm⟩
    · exact sound.descriptors cluster other held

variable (asked : DescribesAsked service.inventory)

include asked

/-- **A move is accounted for** by itself and the events before. -/
theorem Accounts.after {s : ServiceState ι σ α} (sound : service.Sound events s.cache)
    {cluster : ClusterId} {stage : EstimateStage α}
    (accounts : service.Accounts events cluster stage) (place : Nat) (pace : Pace) :
    service.Accounts (events ++ [.moved ⟨place, cluster, pace, stage, s⟩]) cluster
      (service.step cluster pace stage s).1 := by
  obtain ⟨⟨own, course, sublist⟩, named⟩ := accounts
  constructor
  case course =>
    have moved : service.Course cluster (own ++ [⟨place, cluster, pace, stage, s⟩])
        (service.step cluster pace stage s).1 :=
      .move (m := ⟨place, cluster, pace, stage, s⟩) course rfl
    refine ⟨_, moved, ?_⟩
    rw [List.map_append]
    exact sublist.append (List.Sublist.refl _)
  case named =>
    intro descriptor works
    rcases (service.steps cluster pace stage s).descriptor?_cases works with
      before | known | ⟨outside, answered⟩
    · exact named descriptor before
    · exact (sound.descriptors cluster descriptor known).2
    · exact asked _ _ _ _ answered

omit asked in
/-- What is remembered behind a move was worth it. -/
theorem Sound.after {s : ServiceState ι σ α} (sound : service.Sound events s.cache)
    {cluster : ClusterId} {stage : EstimateStage α}
    (accounts : service.Accounts events cluster stage) (place : Nat) (pace : Pace) :
    service.Sound (events ++ [.moved ⟨place, cluster, pace, stage, s⟩])
      (service.step cluster pace stage s).2.cache := by
  have before := sound.append [.moved ⟨place, cluster, pace, stage, s⟩]
  rcases (service.steps cluster pace stage s).cache_cases with
    same | ⟨descriptor, -, kept⟩ | ⟨descriptor, estimate, rfl, whole, complete, kept⟩
  · rwa [same]
  · rw [kept]
    exact before.keepDescriptor descriptor
  · rw [kept]
    constructor
    case estimates =>
      intro other other' held
      rw [ResultCache.estimate?_keepEstimate] at held
      split at held
      · next new =>
        cases held
        obtain ⟨⟨own, course, sublist⟩, named⟩ := accounts
        have same : other = cluster := new.1.trans (named descriptor rfl)
        subst same
        refine ⟨whole, complete, own, ⟨place, other, pace, .billed descriptor estimate, s⟩,
          descriptor, ?_, .move (m := ⟨place, other, pace, .billed descriptor estimate, s⟩)
            course rfl, rfl, new.2.1⟩
        rw [List.map_append]
        exact sublist.append (List.Sublist.refl _)
      · exact before.estimates other other' held
    case descriptors =>
      intro other other' held
      exact before.descriptors other other'
        ((ResultCache.descriptor?_keepEstimate ..).symm.trans held)

/-- **Any moves are accounted for**, and whatever is remembered before one of them was worth it. -/
theorem Accounted.moving {r r' : ServiceRun ι σ α} {made : List (TaskMove ι σ α)}
    (moving : service.Moving r made r') (accounted : service.Accounted events r) :
    (∀ n m, made[n]? = some m →
        service.Sound (events ++ (made.take n).map .moved) m.state.cache)
      ∧ service.Accounted (events ++ made.map .moved) r' := by
  induction moving generalizing events with
  | still r =>
    refine ⟨fun n m taken => by simp at taken, ?_⟩
    rwa [List.map_nil, List.append_nil]
  | @move tasks s place task made r pace ready rest ih =>
    obtain ⟨here, -, -⟩ := ServiceRun.ready?_eq_some_iff.mp ready
    have own := accounted.tasks task (List.mem_of_getElem? here)
    have moved : service.Accounted
        (events ++ [.moved ⟨place, task.cluster, pace, task.stage, s⟩])
        ⟨tasks.set place ⟨task.cluster, (service.step task.cluster pace task.stage s).1⟩,
          (service.step task.cluster pace task.stage s).2⟩ := by
      constructor
      case memory => exact accounted.memory.after own place pace
      case tasks =>
        intro other mem
        rcases List.mem_or_eq_of_mem_set mem with old | rfl
        · exact (accounted.tasks other old).append _
        · exact own.after asked accounted.memory place pace
    have others := ih moved
    constructor
    · intro n m taken
      cases n with
      | zero =>
        cases taken
        simpa using accounted.memory
      | succ n => simpa using others.1 n m (by simpa using taken)
    · simpa using others.2

omit asked

/-! ## From one moment to the next -/

variable (service) in
/-- **What some events lead to**: nothing is forgotten from one moment to the next, and at each of
them all that is remembered was worth it. -/
structure Advance (s : ServiceState ι σ α) (events : List (ServiceEvent ι σ α))
    (s' : ServiceState ι σ α) : Prop where
  kept : (s :: (events.map ServiceEvent.state ++ [s'])).Pairwise fun earlier later =>
    earlier.cache.IsPartOf later.cache
  moments : ∀ before, service.Sound before s.cache → ∀ n event, events[n]? = some event →
    service.Sound (before ++ events.take n) event.state.cache
  sound : ∀ before, service.Sound before s.cache → service.Sound (before ++ events) s'.cache

theorem Advance.of_cache_eq {s s' : ServiceState ι σ α} (same : s'.cache = s.cache) :
    service.Advance s [] s' where
  kept := by simpa using same ▸ ResultCache.IsPartOf.refl s.cache
  moments _ _ n event taken := by simp at taken
  sound before sound := by rwa [List.append_nil, same]

theorem Advance.trans {s s' s'' : ServiceState ι σ α} {first second : List (ServiceEvent ι σ α)}
    (before : service.Advance s first s') (after : service.Advance s' second s'') :
    service.Advance s (first ++ second) s'' where
  kept := by
    have early := List.pairwise_append.mp (List.cons_append ▸ before.kept)
    have late := List.pairwise_cons.mp after.kept
    rw [List.map_append, List.append_assoc, ← List.cons_append]
    refine List.pairwise_append.mpr ⟨early.1, late.2, fun a mem b mem' => ?_⟩
    exact (early.2.2 a mem s' (List.mem_singleton_self _)).trans (late.1 b mem')
  moments earlier sound n event taken := by
    by_cases early : n < first.length
    · rw [List.getElem?_append_left early] at taken
      rw [List.take_append_of_le_length early.le]
      exact before.moments earlier sound n event taken
    · rw [List.getElem?_append_right (not_lt.mp early)] at taken
      rw [List.take_append, List.take_of_length_le (not_lt.mp early), ← List.append_assoc]
      exact after.moments _ (before.sound earlier sound) _ event taken
  sound earlier sound := List.append_assoc .. ▸ after.sound _ (before.sound earlier sound)

theorem Moving.kept {r r' : ServiceRun ι σ α} {made : List (TaskMove ι σ α)}
    (moving : service.Moving r made r') :
    (r.state :: (made.map TaskMove.state ++ [r'.state])).Pairwise fun earlier later =>
      earlier.cache.IsPartOf later.cache := by
  induction moving with
  | still r => simpa using ResultCache.IsPartOf.refl r.state.cache
  | @move tasks s place task made r pace ready rest ih =>
    obtain ⟨first, others⟩ := List.pairwise_cons.mp ih
    have onward (later : ServiceState ι σ α)
        (mem : later ∈ made.map TaskMove.state ++ [r.state]) : s.cache.IsPartOf later.cache :=
      (service.steps task.cluster pace task.stage s).isPartOf.trans (first later mem)
    refine List.pairwise_cons.mpr ⟨?_, List.pairwise_cons.mpr ⟨onward, others⟩⟩
    intro later mem
    rcases List.mem_cons.mp mem with rfl | mem
    · exact .refl _
    · exact onward later mem

theorem advance_describe (cluster : ClusterId) (s : ServiceState ι σ α) :
    service.Advance s [.described cluster s] (service.describe cluster s).2 where
  kept := by
    simpa [ServiceEvent.state] using ⟨.refl _, isPartOf_describe cluster s⟩
  moments before sound n event taken := by
    cases n with
    | zero =>
      cases taken
      simpa [ServiceEvent.state] using sound
    | succ n => simp at taken
  sound before sound := by
    have sound := sound.append [.described cluster s]
    rcases service.cache_describe cluster s with same | ⟨descriptor, outside, -, kept⟩
    · rwa [same]
    · exact kept ▸ sound.keepDescriptor descriptor

theorem advance_outcomes (asked : DescribesAsked service.inventory) (schedule : List Move)
    (clusters : List ClusterId) (s : ServiceState ι σ α) :
    service.Advance s (service.taskEvents schedule clusters s)
      (service.outcomes schedule clusters s).2 := by
  have moving := service.moving_run (schedule ++ closing clusters.length) (.start clusters s)
  have accounted {before : List (ServiceEvent ι σ α)} (sound : service.Sound before s.cache) :
      service.Accounted before (.start clusters s) := by
    refine ⟨sound, fun task mem => ?_⟩
    obtain ⟨cluster, -, rfl⟩ := List.mem_map.mp mem
    exact ⟨⟨[], .begun, List.nil_sublist _⟩, fun descriptor works => by cases works⟩
  constructor
  case kept =>
    rw [taskEvents, List.map_map]
    exact moving.kept
  case moments =>
    intro before sound n event taken
    rw [taskEvents, List.getElem?_map] at taken
    obtain ⟨m, made, rfl⟩ := Option.map_eq_some_iff.mp taken
    rw [taskEvents, ← List.map_take]
    exact ((accounted sound).moving asked moving).1 n m made
  case sound =>
    intro before sound
    exact ((accounted sound).moving asked moving).2.memory

theorem advance_serve (asked : DescribesAsked service.inventory) (request : ServiceRequest)
    (s : ServiceState ι σ α) :
    service.Advance s (service.events request s) (service.serve request s).2 := by
  rcases service.serve_cases request s with
    ⟨cluster, events, same⟩ | ⟨schedule, clusters, events, same⟩ | ⟨events, same⟩
  · rw [events, same]
    exact advance_describe cluster s
  · rw [events, same]
    exact advance_outcomes asked schedule clusters s
  · rw [events, same]
    exact .of_cache_eq rfl

theorem advance_serveAll (asked : DescribesAsked service.inventory)
    (requests : List ServiceRequest) (s : ServiceState ι σ α) :
    service.Advance s (service.history requests s) (service.serveAll requests s) := by
  induction requests generalizing s with
  | nil => exact .of_cache_eq rfl
  | cons request rest ih => exact (advance_serve asked request s).trans (ih _)

variable (service)

/-! ## Whole histories -/

/-- Only the end of a computation that is worth it changes the remembered estimates. -/
theorem worth_of_changed {m : TaskMove ι σ α}
    (changed : (service.after m).2.cache.estimates ≠ m.state.cache.estimates) :
    service.window = .unbounded
      ∧ ∃ descriptor estimate, m.stage = .billed descriptor estimate
        ∧ (service.after m).1 = .ended (.ok estimate)
        ∧ descriptor.isTerminal = true ∧ estimate.isDegraded = false := by
  obtain ⟨place, cluster, pace, stage, s⟩ := m
  rcases (service.steps cluster pace stage s).cache_cases with
    same | ⟨descriptor, rfl, kept⟩ | ⟨descriptor, estimate, rfl, whole, complete, kept⟩
  · exact absurd (congrArg ResultCache.estimates same) changed
  · have still : (s.cache.keepDescriptor descriptor).estimates = s.cache.estimates := by
      unfold ResultCache.keepDescriptor
      split <;> rfl
    exact absurd ((congrArg ResultCache.estimates kept).trans still) changed
  · have terminal : descriptor.isTerminal = true := by
      cases known : descriptor.isTerminal with
      | true => rfl
      | false =>
        have still : (s.cache.keepEstimate descriptor estimate).estimates = s.cache.estimates := by
          rw [ResultCache.keepEstimate, ResultCache.takesEstimate, known]
          rfl
        exact absurd ((congrArg ResultCache.estimates kept).trans still) changed
    exact ⟨whole, descriptor, estimate, rfl, rfl, terminal, complete⟩

omit [Amount α] in
theorem estimates_describe (cluster : ClusterId) (s : ServiceState ι σ α) :
    (service.describe cluster s).2.cache.estimates = s.cache.estimates := by
  rcases service.cache_describe cluster s with same | ⟨descriptor, outside, -, kept⟩
  · rw [same]
  · rw [kept, ResultCache.keepDescriptor]
    split <;> rfl

/-- **What the service remembers was worth it**, at every moment in the history of any requests, and
it stays. Only the end of a computation that is worth it adds an estimate, and a service that bills
a part of the time takes no notice of remembered estimates. -/
theorem remembered (service : CostService ι σ α) (asked : DescribesAsked service.inventory)
    (outside : ι) (source : σ) (requests : List ServiceRequest) :
    let start : ServiceState ι σ α := .start outside source
    let history := service.history requests start
    let s := service.serveAll requests start
    (∀ n event, history[n]? = some event → service.Sound (history.take n) event.state.cache)
      ∧ service.Sound history s.cache
      ∧ (history.map ServiceEvent.state ++ [s]).Pairwise
        (fun earlier later => earlier.cache.IsPartOf later.cache)
      ∧ (∀ m : TaskMove ι σ α, (service.after m).2.cache.estimates ≠ m.state.cache.estimates →
        service.window = .unbounded
          ∧ ∃ descriptor estimate, m.stage = .billed descriptor estimate
            ∧ (service.after m).1 = .ended (.ok estimate)
            ∧ descriptor.isTerminal = true ∧ estimate.isDegraded = false)
      ∧ (∀ cluster s, (service.describe cluster s).2.cache.estimates = s.cache.estimates)
      ∧ (service.window ≠ .unbounded → ∀ request, IgnoresEstimates (service.serve request)) := by
  intro start history s
  have advance := service.advance_serveAll asked requests start
  have nothing : service.Sound [] start.cache := by
    constructor <;> intro _ _ held <;> cases held
  refine ⟨fun n event taken => ?_, ?_, (List.pairwise_cons.mp advance.kept).2,
    fun m => service.worth_of_changed, service.estimates_describe,
    fun bounded request => service.ignoresEstimates_serve bounded request⟩
  · simpa using advance.moments [] nothing n event taken
  · simpa using advance.sound [] nothing

end CostService

section Sample

/-- An inventory of clusters that are gone and had no machines. -/
def Inventory.vacant : Inventory Unit where
  describe cluster _ :=
    (.ok ⟨cluster, "", .terminated, "us-east-1a", .epoch, some .epoch, none⟩, ())
  groups _ _ := (.ok [], ())
  fleets _ _ := (.ok [], ())
  instances _ _ _ _ := (.ok [], ())

/-- A service over clusters that are gone. -/
def CostService.vacant : CostService Unit Unit Float where
  inventory := .vacant
  clock _ := (.epoch, ())
  biller := ⟨.empty, .silent, .once⟩
  platform := .emr
  plan := .standard
  window := .unbounded

theorem CostService.remembered_vacant :
    let requests : List ServiceRequest :=
      [.estimates Move.crossing ["j-1", "j-1", "j-2"], .newRound, .cost "j-3"]
    let start : ServiceState Unit Unit Float := .start () ()
    let s := vacant.serveAll requests start
    (s.cache.estimate? "j-1").isSome = true ∧ (s.cache.estimate? "j-3").isSome = true
      ∧ vacant.Sound (vacant.history requests start) s.cache :=
  ⟨by decide +kernel, by decide +kernel,
    (vacant.remembered (fun _ _ _ _ answered => by cases answered; rfl) () () _).2.1⟩

end Sample

end ClusterBilling
