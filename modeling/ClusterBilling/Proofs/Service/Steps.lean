import Mathlib
import ClusterBilling.Service.Concurrent

/-!
# Steps of a task

What a task can do next, one way for each answer that it may get: an estimate or a description may
be kept or not, the inventory may answer or fail, a surcharge model may be refused. **These are all
the ways there are** (`steps`), so that what is to be said about every step is said way by way.

No task goes back, and one that goes onward comes nearer to its end with every step
(`Steps.distance_lt`), whatever it is told.
-/

namespace ClusterBilling

namespace EstimateStage

variable {α : Type}

/-- How many moves there are at most to the end, onward. -/
def distance : EstimateStage α → Nat
  | .begun => 10
  | .queued => 9
  | .admitted => 8
  | .describing => 7
  | .asking => 6
  | .answered _ => 5
  | .described _ => 4
  | .listing _ _ _ => 3
  | .billing _ _ _ => 2
  | .billed _ _ => 1
  | .ended _ => 0

theorem distance_le (stage : EstimateStage α) : stage.distance ≤ CostService.longestWay := by
  cases stage <;> simp [distance, CostService.longestWay]

theorem outcome?_eq_none_iff (stage : EstimateStage α) :
    stage.outcome? = none ↔ stage.distance ≠ 0 := by
  cases stage <;> simp [outcome?, distance]

theorem outcome?_eq_some_iff {stage : EstimateStage α}
    {outcome : Except Fault (ClusterEstimate α)} :
    stage.outcome? = some outcome ↔ stage = .ended outcome := by
  cases stage <;> simp [outcome?]

end EstimateStage

namespace CostService

variable {ι σ α : Type} [Amount α] (service : CostService ι σ α)

/-- **What a task does next**, one way for each answer that it may get. -/
inductive Steps (cluster : ClusterId) : Pace → EstimateStage α → ServiceState ι σ α →
    EstimateStage α → ServiceState ι σ α → Prop
  | skipped (pace : Pace) (s : ServiceState ι σ α) (forgets : service.keepsResults = false) :
    Steps cluster pace .begun s .describing s
  | missed (pace : Pace) (s : ServiceState ι σ α) (keeps : service.keepsResults = true)
    (new : s.cache.estimate? cluster = none) :
    Steps cluster pace .begun s .queued s.spend
  | found (pace : Pace) (s : ServiceState ι σ α) (keeps : service.keepsResults = true)
    {estimate : ClusterEstimate α} (held : s.cache.estimate? cluster = some estimate) :
    Steps cluster pace .begun s (.ended (.ok estimate)) s.spend
  | entered (pace : Pace) (s : ServiceState ι σ α) :
    Steps cluster pace .queued s .admitted (s.takeSlot cluster)
  | missedAgain (pace : Pace) (s : ServiceState ι σ α) (new : s.cache.estimate? cluster = none) :
    Steps cluster pace .admitted s .describing s.spend
  | foundAgain (pace : Pace) (s : ServiceState ι σ α) {estimate : ClusterEstimate α}
    (held : s.cache.estimate? cluster = some estimate) :
    Steps cluster pace .admitted s (.ended (.ok estimate)) s.spend
  | recalled (pace : Pace) (s : ServiceState ι σ α) {descriptor : ClusterDescriptor}
    (held : s.cache.descriptor? cluster = some descriptor) :
    Steps cluster pace .describing s (.described descriptor) s.spend
  | unknown (pace : Pace) (s : ServiceState ι σ α) (new : s.cache.descriptor? cluster = none) :
    Steps cluster pace .describing s .asking s.spend
  | answered (pace : Pace) (s : ServiceState ι σ α) {descriptor : ClusterDescriptor} {outside : ι}
    (asked : service.inventory.describe cluster s.outside = (.ok descriptor, outside)) :
    Steps cluster pace .asking s (.answered descriptor) { s with outside := outside }
  | unanswered (pace : Pace) (s : ServiceState ι σ α) {fault : Fault} {outside : ι}
    (asked : service.inventory.describe cluster s.outside = (.error fault, outside)) :
    Steps cluster pace .asking s (.ended (orEmpty cluster (.error fault)))
      { s with outside := outside }
  | handedOver (pace : Pace) (s : ServiceState ι σ α) (descriptor : ClusterDescriptor) :
    Steps cluster pace (.answered descriptor) s (.described descriptor)
      (s.keepDescriptor descriptor)
  | opened (pace : Pace) (s : ServiceState ι σ α) {descriptor : ClusterDescriptor}
    {surcharge : SurchargeModel}
    (chosen : SurchargeModel.ofCluster service.platform descriptor service.plan = .ok surcharge) :
    Steps cluster pace (.described descriptor) s
      (.listing descriptor (descriptor.terms surcharge service.window (service.clock s.outside).1)
        .groups)
      { s with outside := (service.clock s.outside).2 }
  | refused (pace : Pace) (s : ServiceState ι σ α) {descriptor : ClusterDescriptor} {fault : Fault}
    (chosen : SurchargeModel.ofCluster service.platform descriptor service.plan = .error fault) :
    Steps cluster pace (.described descriptor) s (.ended (orEmpty cluster (.error fault))) s
  | listed (place : Nat) (s : ServiceState ι σ α) (descriptor : ClusterDescriptor)
    (terms : BillingTerms) {layout : LayoutStage} {groups : List GroupInstances}
    (done : layout.listed? = some groups) :
    Steps cluster (.turn place) (.listing descriptor terms layout) s
      (.billing descriptor terms (.start descriptor.id groups)) s
  | called (place : Nat) (s : ServiceState ι σ α) {descriptor : ClusterDescriptor}
    (terms : BillingTerms) {layout later : LayoutStage} {outside : ι} (undone : layout.listed? = none)
    (asked : service.inventory.layoutCall descriptor.id layout s.outside = (.ok later, outside)) :
    Steps cluster (.turn place) (.listing descriptor terms layout) s
      (.listing descriptor terms later) { s with outside := outside }
  | uncalled (place : Nat) (s : ServiceState ι σ α) {descriptor : ClusterDescriptor}
    (terms : BillingTerms) {layout : LayoutStage} {fault : Fault} {outside : ι}
    (undone : layout.listed? = none)
    (asked : service.inventory.layoutCall descriptor.id layout s.outside
      = (.error fault, outside)) :
    Steps cluster (.turn place) (.listing descriptor terms layout) s
      (.ended (orEmpty cluster (.error fault))) { s with outside := outside }
  | laidOut (s : ServiceState ι σ α) {descriptor : ClusterDescriptor} (terms : BillingTerms)
    {layout : LayoutStage} {groups : List GroupInstances} {outside : ι}
    (asked : service.inventory.layoutFrom descriptor.id layout s.outside = (.ok groups, outside)) :
    Steps cluster .onward (.listing descriptor terms layout) s
      (.billing descriptor terms (.start descriptor.id groups)) { s with outside := outside }
  | unlisted (s : ServiceState ι σ α) {descriptor : ClusterDescriptor} (terms : BillingTerms)
    {layout : LayoutStage} {fault : Fault} {outside : ι}
    (asked : service.inventory.layoutFrom descriptor.id layout s.outside
      = (.error fault, outside)) :
    Steps cluster .onward (.listing descriptor terms layout) s
      (.ended (orEmpty cluster (.error fault))) { s with outside := outside }
  | totalled (place : Nat) (s : ServiceState ι σ α) (descriptor : ClusterDescriptor)
    (terms : BillingTerms) {bill : RunningBill α} {estimate : ClusterEstimate α}
    (total : bill.total? = some estimate) :
    Steps cluster (.turn place) (.billing descriptor terms bill) s (.billed descriptor estimate) s
  | turned (place : Nat) (s : ServiceState ι σ α) (descriptor : ClusterDescriptor)
    (terms : BillingTerms) (bill : RunningBill α) :
    Steps cluster (.turn place) (.billing descriptor terms bill) s
      (.billing descriptor terms (service.biller.turnAt terms place bill s.book).1)
      { s with book := (service.biller.turnAt terms place bill s.book).2 }
  | finished (s : ServiceState ι σ α) (descriptor : ClusterDescriptor) (terms : BillingTerms)
    (bill : RunningBill α) :
    Steps cluster .onward (.billing descriptor terms bill) s
      (.billed descriptor (service.biller.finishBill terms bill s.steps s.book).estimate)
      { s with
        steps := (service.biller.finishBill terms bill s.steps s.book).steps
        book := (service.biller.finishBill terms bill s.steps s.book).book }
  | kept (pace : Pace) (s : ServiceState ι σ α) (descriptor : ClusterDescriptor)
    (estimate : ClusterEstimate α) :
    Steps cluster pace (.billed descriptor estimate) s (.ended (.ok estimate))
      (service.remember descriptor estimate s)
  | rests (pace : Pace) (s : ServiceState ι σ α) (outcome : Except Fault (ClusterEstimate α)) :
    Steps cluster pace (.ended outcome) s (.ended outcome) s

/-- **These are all the ways.** -/
theorem steps (cluster : ClusterId) (pace : Pace) (stage : EstimateStage α)
    (s : ServiceState ι σ α) :
    service.Steps cluster pace stage s (service.step cluster pace stage s).1
      (service.step cluster pace stage s).2 := by
  cases stage with
  | begun =>
    simp only [step, lookFor]
    split
    · next keeps =>
      split
      · next held => exact .found pace s keeps held
      · next new => exact .missed pace s keeps new
    · next forgets => exact .skipped pace s (by simpa using forgets)
  | queued => exact .entered pace s
  | admitted =>
    simp only [step, lookFor]
    split
    · next held => exact .foundAgain pace s held
    · next new => exact .missedAgain pace s new
  | describing =>
    simp only [step]
    split
    · next held => exact .recalled pace s held
    · next new => exact .unknown pace s new
  | asking =>
    simp only [step, askFor]
    split
    · next asked => exact .answered pace s asked
    · next asked => exact .unanswered pace s asked
  | answered descriptor => exact .handedOver pace s descriptor
  | described descriptor =>
    simp only [step, openListing]
    split
    · next chosen => exact .opened pace s chosen
    · next chosen => exact .refused pace s chosen
  | listing descriptor terms layout =>
    cases pace with
    | turn place =>
      simp only [step, goOnListing]
      split
      · next done => exact .listed place s descriptor terms done
      · next undone =>
        split
        · next asked => exact .called place s terms undone asked
        · next asked => exact .uncalled place s terms undone asked
    | onward =>
      simp only [step, goOnListing]
      split
      · next asked => exact .laidOut s terms asked
      · next asked => exact .unlisted s terms asked
  | billing descriptor terms bill =>
    cases pace with
    | turn place =>
      simp only [step, goOnBilling]
      split
      · next total => exact .totalled place s descriptor terms total
      · exact .turned place s descriptor terms bill
    | onward => exact .finished s descriptor terms bill
  | billed descriptor estimate => exact .kept pace s descriptor estimate
  | ended outcome => exact .rests pace s outcome

/-! ## Towards the end -/

namespace Steps

variable {service} {cluster : ClusterId} {pace : Pace} {stage stage' : EstimateStage α}
  {s s' : ServiceState ι σ α}

/-- **A task that goes onward comes nearer to its end.** -/
theorem distance_lt (steps : service.Steps cluster .onward stage s stage' s')
    (going : stage.distance ≠ 0) : stage'.distance < stage.distance := by
  cases steps with
  | rests => exact absurd rfl going
  | _ => simp [EstimateStage.distance]

/-- No task goes back. -/
theorem distance_le (steps : service.Steps cluster pace stage s stage' s') :
    stage'.distance ≤ stage.distance := by
  cases steps <;> simp [EstimateStage.distance]

end Steps

end CostService

end ClusterBilling
