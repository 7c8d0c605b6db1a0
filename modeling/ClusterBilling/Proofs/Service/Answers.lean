import ClusterBilling.Proofs.Billing.Accounts
import ClusterBilling.Proofs.Breakdown.Making
import ClusterBilling.Proofs.Inventory.Failures
import ClusterBilling.Proofs.Service.Cache
import ClusterBilling.Proofs.Service.Requests

/-!
# What the service answers

An estimate takes some steps that may fail: the cluster is described, the surcharge model chosen,
and the groups or fleets of the cluster and their instances are listed. **The first step that fails
decides the answer** (`answers`): unsupported input is refused with its fault, any other fault gives
the empty estimate, and where no step fails there is an estimate, whatever becomes of single
instances. A remembered estimate takes no step.

For an estimate that is asked for alone, `FirstFailure` says which step fails first, as the service
remembers descriptions and the inventory answers. Of several estimates that are computed side by
side each is decided by the moves of its own task (`Fails`), whatever the others do in between.

Whatever was requested before, by whatever schedule, **the breakdowns that are answered are whole**:
they have a total, and every category of each role that has one.
-/

namespace ClusterBilling

/-- Whether a fault is one of unsupported input: a kind of workload that is not billed. -/
def Fault.Unsupported (fault : Fault) : Prop :=
  (∃ jobFlag runtimeVersion, fault = .unsupportedWorkload jobFlag runtimeVersion)
    ∨ ∃ label, fault = .unknownWorkloadLabel label

theorem Fault.isUnsupportedInput_iff (fault : Fault) :
    fault.isUnsupportedInput = true ↔ fault.Unsupported := by
  cases fault <;> simp [isUnsupportedInput, Unsupported]

namespace CostService

/-! ## Steps that fail -/

section Steps

variable {ι σ α : Type} (service : CostService ι σ α)

/-- The description that the service works with, and the state of what is outside then: one that is
remembered, or else that of the inventory. -/
inductive Describes (cluster : ClusterId) (cache : ResultCache α) (outside : ι) :
    ClusterDescriptor → ι → Prop
  | remembered {descriptor : ClusterDescriptor}
    (held : cache.descriptor? cluster = some descriptor) :
    Describes cluster cache outside descriptor outside
  | asked {descriptor : ClusterDescriptor} {outside' : ι} (new : cache.descriptor? cluster = none)
    (answered : service.inventory.describe cluster outside = (.ok descriptor, outside')) :
    Describes cluster cache outside descriptor outside'

/-- **The first step towards an estimate that fails**, by its fault. -/
inductive FirstFailure (cluster : ClusterId) (cache : ResultCache α) (outside : ι) : Fault → Prop
  | describing {fault : Fault} {outside' : ι} (new : cache.descriptor? cluster = none)
    (failed : service.inventory.describe cluster outside = (.error fault, outside')) :
    FirstFailure cluster cache outside fault
  | choosing {descriptor : ClusterDescriptor} {fault : Fault} {outside' : ι}
    (described : service.Describes cluster cache outside descriptor outside')
    (failed : SurchargeModel.ofCluster service.platform descriptor service.plan = .error fault) :
    FirstFailure cluster cache outside fault
  | listing {descriptor : ClusterDescriptor} {surcharge : SurchargeModel} {fault : Fault}
    {outside' : ι} (described : service.Describes cluster cache outside descriptor outside')
    (chosen : SurchargeModel.ofCluster service.platform descriptor service.plan = .ok surcharge)
    (failed : service.inventory.LayoutFails descriptor.id (service.clock outside').2 fault) :
    FirstFailure cluster cache outside fault

variable {service} {cluster : ClusterId} {s : ServiceState ι σ α}

/-- A cluster that cannot be described has no estimate. -/
theorem describe_of_failed {fault : Fault} {outside' : ι}
    (new : s.cache.descriptor? cluster = none)
    (failed : service.inventory.describe cluster s.outside = (.error fault, outside')) :
    service.describe cluster s = (.error fault, { s.spend with outside := outside' }) := by
  have same : s.spend.cache.descriptor? cluster = none := new
  have answer : service.inventory.describe cluster s.spend.outside = (.error fault, outside') :=
    failed
  simp only [describe, same, answer]

theorem Describes.describe_eq {descriptor : ClusterDescriptor} {outside' : ι}
    (described : service.Describes cluster s.cache s.outside descriptor outside') :
    ∃ s', service.describe cluster s = (.ok descriptor, s') ∧ s'.outside = outside' := by
  cases described with
  | remembered held =>
    have same : s.spend.cache.descriptor? cluster = some descriptor := held
    exact ⟨s.spend, by simp only [describe, same], rfl⟩
  | asked new answered =>
    have same : s.spend.cache.descriptor? cluster = none := new
    have answer : service.inventory.describe cluster s.spend.outside
        = (.ok descriptor, outside') := answered
    refine ⟨{ s.spend with outside := outside' }.keepDescriptor descriptor,
      by simp only [describe, same, answer], ?_⟩
    unfold ServiceState.keepDescriptor
    dsimp only
    split <;> rfl

variable [Amount α]

/-- **The estimate of a described cluster fails exactly if the cluster cannot be laid out.**
Whatever becomes of its instances is no failure. -/
theorem error_billCluster_iff (descriptor : ClusterDescriptor) (surcharge : SurchargeModel)
    (fault : Fault) :
    (service.billCluster descriptor surcharge s).1 = .error fault
      ↔ service.inventory.LayoutFails descriptor.id (service.clock s.outside).2 fault := by
  rw [← Inventory.error_layout_iff]
  unfold billCluster Biller.clusterEstimate
  dsimp only
  cases service.inventory.layout descriptor.id (service.clock s.outside).2 with
  | mk outcome outside' =>
    cases outcome with
    | ok groups => exact ⟨nofun, nofun⟩
    | error first =>
      show (Except.error first : Except Fault (ClusterEstimate α)) = _
        ↔ (Except.error first : Except Fault (List GroupInstances)) = _
      rw [Except.error.injEq, Except.error.injEq]

/-- **A computation fails exactly if one of its steps does**, with the fault of the first. -/
theorem error_compute_iff (fault : Fault) :
    (service.compute cluster s).1 = .error fault
      ↔ service.FirstFailure cluster s.cache s.outside fault := by
  have goesOn {descriptor : ClusterDescriptor} {outside' : ι}
      (described : service.Describes cluster s.cache s.outside descriptor outside')
      {surcharge : SurchargeModel}
      (chosen : SurchargeModel.ofCluster service.platform descriptor service.plan
        = .ok surcharge) :
      (service.compute cluster s).1 = .error fault
        ↔ service.inventory.LayoutFails descriptor.id (service.clock outside').2 fault := by
    obtain ⟨s', answered, rfl⟩ := described.describe_eq
    rw [compute, Asked.andThen_ok answered]
    simp only [billDescribed, chosen]
    exact error_billCluster_iff ..
  have stops {descriptor : ClusterDescriptor} {outside' : ι} {first : Fault}
      (described : service.Describes cluster s.cache s.outside descriptor outside')
      (refused : SurchargeModel.ofCluster service.platform descriptor service.plan
        = .error first) : (service.compute cluster s).1 = .error first := by
    obtain ⟨s', answered, rfl⟩ := described.describe_eq
    rw [compute, Asked.andThen_ok answered]
    simp only [billDescribed, refused]
  have fails {first : Fault} {outside' : ι} (new : s.cache.descriptor? cluster = none)
      (failed : service.inventory.describe cluster s.outside = (.error first, outside')) :
      (service.compute cluster s).1 = .error first := by
    rw [compute, Asked.andThen_error (describe_of_failed new failed)]
  constructor
  · intro failure
    have model {descriptor : ClusterDescriptor} {outside' : ι}
        (described : service.Describes cluster s.cache s.outside descriptor outside') :
        service.FirstFailure cluster s.cache s.outside fault := by
      cases chosen : SurchargeModel.ofCluster service.platform descriptor service.plan with
      | ok surcharge => exact .listing described chosen ((goesOn described chosen).mp failure)
      | error first =>
        cases (stops described chosen).symm.trans failure
        exact .choosing described chosen
    cases known : s.cache.descriptor? cluster with
    | some descriptor => exact model (.remembered known)
    | none =>
      cases answered : service.inventory.describe cluster s.outside with
      | mk outcome outside' =>
        cases outcome with
        | ok descriptor => exact model (.asked known answered)
        | error first =>
          cases (fails known answered).symm.trans failure
          exact .describing known answered
  · intro failure
    cases failure with
    | describing new failed => exact fails new failed
    | choosing described refused => exact stops described refused
    | listing described chosen failed => exact (goesOn described chosen).mpr failed

end Steps

/-! ## Moves that fail -/

section Moves

variable {ι σ α : Type} [Amount α] (service : CostService ι σ α)

omit [Amount α] in
/-- **Whether a move of a task fails**, by its fault: the inventory does not describe the cluster,
no surcharge model is chosen, or the listing does not go on. -/
inductive Fails (m : TaskMove ι σ α) : Fault → Prop
  | describing {fault : Fault} {outside : ι} (stage : m.stage = .asking)
    (failed : service.inventory.describe m.cluster m.state.outside = (.error fault, outside)) :
    Fails m fault
  | choosing {descriptor : ClusterDescriptor} {fault : Fault} (stage : m.stage = .described descriptor)
    (failed : SurchargeModel.ofCluster service.platform descriptor service.plan = .error fault) :
    Fails m fault
  | calling {descriptor : ClusterDescriptor} {terms : BillingTerms} {layout : LayoutStage}
    {place : Nat} {fault : Fault} (stage : m.stage = .listing descriptor terms layout)
    (pace : m.pace = .turn place)
    (failed : service.inventory.CallFails descriptor.id layout m.state.outside fault) :
    Fails m fault
  | listing {descriptor : ClusterDescriptor} {terms : BillingTerms} {layout : LayoutStage}
    {fault : Fault} (stage : m.stage = .listing descriptor terms layout) (pace : m.pace = .onward)
    (failed : service.inventory.RestFails descriptor.id layout m.state.outside fault) :
    Fails m fault

/-- **A move whose step fails ends its task**, as its fault decides. -/
theorem after_of_fails {m : TaskMove ι σ α} {fault : Fault} (fails : service.Fails m fault) :
    (service.after m).1 = .failed m.cluster fault := by
  obtain ⟨place, cluster, pace, stage, s⟩ := m
  rcases fails with ⟨rfl, failed⟩ | ⟨rfl, failed⟩ | ⟨rfl, rfl, failed⟩ | ⟨rfl, rfl, failed⟩
  · simp only [after, step, askFor, failed]
  · simp only [after, step, openListing, failed]
  · next descriptor terms layout place =>
    have unlisted : layout.listed? = none := by
      cases failed <;> rfl
    have answered := (service.inventory.error_layoutCall_iff ..).mpr failed
    simp only [after, step, goOnListing, unlisted]
    split
    · next same => cases answered.symm.trans (congrArg Prod.fst same)
    · next same => cases answered.symm.trans (congrArg Prod.fst same); rfl
  · have answered := (service.inventory.error_layoutFrom_iff ..).mpr failed
    simp only [after, step, goOnListing]
    split
    · next same => cases answered.symm.trans (congrArg Prod.fst same)
    · next same => cases answered.symm.trans (congrArg Prod.fst same); rfl

/-- **Where no step fails a task ends with an estimate**, if it ends. -/
theorem exists_of_ended {m : TaskMove ι σ α} (sound : ∀ fault, ¬ service.Fails m fault)
    (going : m.stage.outcome? = none) {outcome : Except Fault (ClusterEstimate α)}
    (ended : (service.after m).1 = .ended outcome) : ∃ estimate, outcome = .ok estimate := by
  obtain ⟨place, cluster, pace, stage, s⟩ := m
  have steps := service.steps cluster pace stage s
  have led : (service.step cluster pace stage s).1 = .ended outcome := ended
  rw [led] at steps
  generalize (service.step cluster pace stage s).2 = s' at steps
  cases steps with
  | found | foundAgain | kept => exact ⟨_, rfl⟩
  | unanswered _ _ asked => exact absurd (.describing rfl asked) (sound _)
  | refused _ _ chosen => exact absurd (.choosing rfl chosen) (sound _)
  | uncalled _ _ terms undone asked =>
    exact absurd (.calling rfl rfl ((service.inventory.error_layoutCall_iff ..).mp
      (congrArg Prod.fst asked))) (sound _)
  | unlisted _ terms asked =>
    exact absurd (.listing rfl rfl ((service.inventory.error_layoutFrom_iff ..).mp
      (congrArg Prod.fst asked))) (sound _)
  | rests => cases going

end Moves

/-! ## Answers -/

section Answers

variable {ι σ α : Type} [Amount α]

/-- **Whether the failures of some steps decide an answer.** -/
structure DecidedBy (cluster : ClusterId) (fails : Fault → Prop)
    (answer : Except Fault (ClusterEstimate α)) : Prop where
  /-- The answer is a refusal exactly if a step fails for unsupported input. -/
  refused : ∀ fault, answer = .error fault ↔ fails fault ∧ fault.Unsupported
  /-- It is the empty estimate if a step fails otherwise. -/
  empty : ∀ fault, fails fault → ¬ fault.Unsupported → answer = .ok (.empty cluster)
  /-- There is an estimate if no step fails. -/
  estimated : (∀ fault, ¬ fails fault) → ∃ estimate, answer = .ok estimate

theorem orEmpty_of_unsupported (cluster : ClusterId) {fault : Fault}
    (unsupported : fault.Unsupported) : orEmpty (α := α) cluster (.error fault) = .error fault := by
  simp only [orEmpty, fault.isUnsupportedInput_iff.mpr unsupported, if_true]

theorem orEmpty_of_supported (cluster : ClusterId) {fault : Fault}
    (supported : ¬ fault.Unsupported) :
    orEmpty (α := α) cluster (.error fault) = .ok (.empty cluster) := by
  have other : fault.isUnsupportedInput = false := by
    simpa [← fault.isUnsupportedInput_iff] using supported
  simp only [orEmpty, other, Bool.false_eq_true, if_false]

theorem DecidedBy.of_stops {cluster : ClusterId} {fails : Fault → Prop}
    {answer : Except Fault (ClusterEstimate α)}
    (stops : ∀ fault, fails fault → answer = orEmpty cluster (.error fault))
    (goesOn : (∀ fault, ¬ fails fault) → ∃ estimate, answer = .ok estimate) :
    DecidedBy cluster fails answer where
  refused fault := by
    constructor
    · rintro rfl
      by_cases any : ∃ first, fails first
      · obtain ⟨first, failed⟩ := any
        have same := stops first failed
        by_cases unsupported : first.Unsupported
        · rw [orEmpty_of_unsupported cluster unsupported] at same
          cases same
          exact ⟨failed, unsupported⟩
        · rw [orEmpty_of_supported cluster unsupported] at same
          cases same
      · obtain ⟨estimate, given⟩ := goesOn fun first failed => any ⟨first, failed⟩
        cases given
    · rintro ⟨failed, unsupported⟩
      rw [stops fault failed, orEmpty_of_unsupported cluster unsupported]
  empty fault failed supported := by
    rw [stops fault failed, orEmpty_of_supported cluster supported]
  estimated := goesOn

variable (service : CostService ι σ α)

/-- **The first failure decides the answer** of a computation. -/
theorem decidedBy_computeOrEmpty (cluster : ClusterId) (s : ServiceState ι σ α) :
    DecidedBy cluster (service.FirstFailure cluster s.cache s.outside)
      (service.computeOrEmpty cluster s).1 := by
  have answer : (service.computeOrEmpty cluster s).1
      = orEmpty cluster (service.compute cluster s).1 := rfl
  refine .of_stops (fun fault failure => ?_) fun none => ?_
  · rw [answer, (error_compute_iff fault).mpr failure]
  · cases computed : (service.compute cluster s).1 with
    | ok estimate =>
      rw [answer, computed]
      exact ⟨estimate, rfl⟩
    | error fault => exact absurd ((error_compute_iff fault).mp computed) (none fault)

/-- An estimate that is not remembered is computed, with the same memory and before anything
outside was asked. -/
theorem estimate_of_forgotten {cluster : ClusterId} {s : ServiceState ι σ α}
    (forgotten : service.keepsResults = true → s.cache.estimate? cluster = none) :
    ∃ begun : ServiceState ι σ α, begun.cache = s.cache ∧ begun.outside = s.outside
      ∧ service.estimate cluster s = service.computeOrEmpty cluster begun := by
  unfold CostService.estimate
  split
  · next keeps =>
    have first : s.spend.cache.estimate? cluster = none := forgotten keeps
    have again : (s.spend.takeSlot cluster).spend.cache.estimate? cluster = none := by
      simpa using first
    refine ⟨(s.spend.takeSlot cluster).spend, ?_, ?_, ?_⟩
    · simp
    · exact s.spend.outside_takeSlot cluster
    · simp only [first, estimateInSlot, again]
  · exact ⟨s, rfl, rfl, rfl⟩

variable {service}

/-- A task that has ended makes no moves. -/
theorem Moving.still_of_ended {r r' : ServiceRun ι σ α} {made : List (TaskMove ι σ α)}
    (moving : service.Moving r made r') {place : Nat} {cluster : ClusterId}
    {outcome : Except Fault (ClusterEstimate α)}
    (here : r.tasks[place]? = some ⟨cluster, .ended outcome⟩) :
    (∀ m ∈ made, m.place ≠ place) ∧ r'.tasks[place]? = some ⟨cluster, .ended outcome⟩ := by
  induction moving with
  | still r => exact ⟨fun m mem => (by cases mem), here⟩
  | @move tasks s own task made r pace ready rest ih =>
    obtain ⟨there, going, -⟩ := ServiceRun.ready?_eq_some_iff.mp ready
    have differs : own ≠ place := by
      rintro rfl
      cases here.symm.trans there
      cases going
    obtain ⟨others, ends⟩ := ih ((List.getElem?_set_ne differs).trans here)
    refine ⟨fun m mem => ?_, ends⟩
    rcases List.mem_cons.mp mem with rfl | mem
    · exact differs
    · exact others m mem

/-- **The move that ends a task decides its answer**, if no other move of the task comes after it. -/
theorem decidedBy_of_ended {m : TaskMove ι σ α} {made : List (TaskMove ι σ α)}
    (others : ∀ later ∈ made, later.place ≠ m.place) (going : m.stage.outcome? = none)
    {outcome : Except Fault (ClusterEstimate α)} (ended : (service.after m).1 = .ended outcome) :
    DecidedBy m.cluster
      (fun fault => ∃ m' ∈ m :: made, m'.place = m.place ∧ service.Fails m' fault) outcome := by
  refine .of_stops ?_ fun none => ?_
  · rintro fault ⟨m', mem, place, failed⟩
    rcases List.mem_cons.mp mem with rfl | mem
    · exact EstimateStage.ended.inj (ended.symm.trans (service.after_of_fails failed))
    · exact absurd place (others m' mem)
  · have sound (fault : Fault) : ¬ service.Fails m fault := fun failed =>
      none fault ⟨m, List.mem_cons_self, rfl, failed⟩
    exact service.exists_of_ended sound going ended

/-- A move that does not fail, or not at a certain place, does not decide the answer there. -/
theorem DecidedBy.cons {cluster : ClusterId} {place : Nat} {m : TaskMove ι σ α}
    {made : List (TaskMove ι σ α)} {outcome : Except Fault (ClusterEstimate α)}
    (quiet : ∀ fault, m.place = place → ¬ service.Fails m fault)
    (decided : DecidedBy cluster
      (fun fault => ∃ m' ∈ made, m'.place = place ∧ service.Fails m' fault) outcome) :
    DecidedBy cluster
      (fun fault => ∃ m' ∈ m :: made, m'.place = place ∧ service.Fails m' fault) outcome := by
  have same (fault : Fault) : (∃ m' ∈ m :: made, m'.place = place ∧ service.Fails m' fault)
      ↔ ∃ m' ∈ made, m'.place = place ∧ service.Fails m' fault := by
    have silent : ¬ (m.place = place ∧ service.Fails m fault) := fun both =>
      quiet fault both.1 both.2
    simp [silent]
  simpa only [same] using decided

/-- **The moves of a task decide its answer**, whatever the others do in between. -/
theorem Moving.decidedBy {r r' : ServiceRun ι σ α} {made : List (TaskMove ι σ α)}
    (moving : service.Moving r made r') {place : Nat} {cluster : ClusterId}
    {stage : EstimateStage α} (here : r.tasks[place]? = some ⟨cluster, stage⟩)
    (going : stage.outcome? = none) {outcome : Except Fault (ClusterEstimate α)}
    (ends : r'.tasks[place]? = some ⟨cluster, .ended outcome⟩) :
    DecidedBy cluster (fun fault => ∃ m ∈ made, m.place = place ∧ service.Fails m fault)
      outcome := by
  induction moving generalizing stage with
  | still r =>
    cases here.symm.trans ends
    cases going
  | @move tasks s own mover made r pace ready rest ih =>
    obtain ⟨there, -, -⟩ := ServiceRun.ready?_eq_some_iff.mp ready
    obtain ⟨bound, -⟩ := List.getElem?_eq_some_iff.mp there
    by_cases differs : own = place
    · subst differs
      cases here.symm.trans there
      have stepped := List.getElem?_set_self (a := (⟨cluster,
        (service.step cluster pace stage s).1⟩ : EstimateTask α)) bound
      -- Either this is the last move of the task, or no step of it has failed so far.
      cases after : (service.step cluster pace stage s).1.outcome? with
      | some answer =>
        have ended := EstimateStage.outcome?_eq_some_iff.mp after
        obtain ⟨others, ends'⟩ := rest.still_of_ended
          (stepped.trans (congrArg (fun stage => some (EstimateTask.mk cluster stage)) ended))
        cases ends.symm.trans ends'
        have last : (service.after ⟨own, cluster, pace, stage, s⟩).1 = .ended outcome := ended
        exact decidedBy_of_ended others going last
      | none =>
        have sound (fault : Fault) :
            ¬ service.Fails ⟨own, cluster, pace, stage, s⟩ fault := by
          intro failed
          have stopped : (service.step cluster pace stage s).1 = .failed cluster fault :=
            service.after_of_fails failed
          rw [stopped] at after
          cases after
        exact (ih stepped after ends).cons fun fault _ => sound fault
    · exact (ih ((List.getElem?_set_ne differs).trans here) going ends).cons
        fun _ same => absurd same differs

variable (service)

/-! ## Breakdowns that are answered -/

omit [Amount α] in
/-- Whether all estimates that are remembered are whole. -/
def WholeMemory (cache : ResultCache α) : Prop :=
  ∀ cluster estimate, cache.estimate? cluster = some estimate → estimate.breakdown.Whole

/-- Whether a task has nothing to show that is not whole: a bill on its way accounts for what was
charged so far. -/
def WholeStage : EstimateStage α → Prop
  | .billing _ _ bill => ∃ roles charges, bill.estimate.Accounts roles charges
  | .billed _ estimate => estimate.breakdown.Whole
  | .ended outcome => ∀ estimate, outcome = .ok estimate → estimate.breakdown.Whole
  | _ => True

theorem whole_orEmpty {cluster : ClusterId} {fault : Fault} :
    WholeStage (.failed cluster fault : EstimateStage α) := by
  intro estimate answered
  unfold orEmpty at answered
  dsimp only at answered
  split at answered
  · cases answered
  · cases answered
    exact Breakdown.whole_emptyCluster

variable {service}

/-- **A step keeps what is remembered whole**, and so is what it leads to. -/
theorem invariant_whole :
    service.Invariant (fun s => WholeMemory s.cache) fun _ stage => WholeStage stage where
  begun cluster := trivial
  step {cluster pace stage s stage' s'} steps whole task := by
    constructor
    · rcases steps.cache_cases with
        same | ⟨descriptor, rfl, kept⟩ | ⟨descriptor, estimate, rfl, -, -, kept⟩
      · rwa [same]
      · intro other estimate held
        rw [kept, ResultCache.estimate?_keepDescriptor] at held
        exact whole other estimate held
      · intro other other' held
        rw [kept, ResultCache.estimate?_keepEstimate] at held
        split at held
        · cases held
          exact task
        · exact whole other other' held
    · cases steps with
      | found _ _ _ held | foundAgain _ _ held =>
        rintro _ ⟨⟩
        exact whole cluster _ held
      | unanswered | refused | uncalled | unlisted => exact whole_orEmpty
      | listed _ _ descriptor | laidOut =>
        exact ⟨[], [], ClusterEstimate.accounts_start _⟩
      | totalled _ _ _ _ total =>
        obtain ⟨roles, charges, accounts⟩ := task
        rw [← RunningBill.estimate_of_total? total]
        exact accounts.whole
      | turned place _ _ terms bill =>
        obtain ⟨roles, charges, accounts⟩ := task
        exact service.biller.accounts_turnAt terms place bill s.book accounts
      | finished _ _ terms bill =>
        obtain ⟨roles, charges, accounts⟩ := task
        obtain ⟨roles, charges, accounts⟩ :=
          service.biller.accounts_finishBill terms bill s.steps s.book accounts
        exact accounts.whole
      | kept =>
        rintro _ ⟨⟩
        exact task
      | rests => exact task
      | _ => trivial

/-- What is gathered was among the outcomes. -/
theorem mem_of_gather {β : Type} {outcomes : List (Except Fault β)} {values : List β}
    (gathered : gather outcomes = .ok values) {value : β} (mem : value ∈ values) :
    .ok value ∈ outcomes := by
  unfold gather at gathered
  induction outcomes generalizing values with
  | nil => cases gathered; cases mem
  | cons first rest ih =>
    rw [List.mapM_cons] at gathered
    cases first with
    | error fault => cases gathered
    | ok head =>
      cases others : rest.mapM id with
      | error fault => rw [others] at gathered; cases gathered
      | ok tail =>
        rw [others] at gathered
        cases gathered
        rcases List.mem_cons.mp mem with rfl | mem
        · exact List.mem_cons_self
        · exact List.mem_cons_of_mem _ (ih others mem)

/-- **The breakdown of several clusters is whole**, whoever moves when. -/
theorem whole_costs {s : ServiceState ι σ α} (whole : WholeMemory s.cache) (schedule : List Move)
    (clusters : List ClusterId) {breakdown : Breakdown α}
    (answered : (service.costs schedule clusters s).1 = .ok breakdown) : breakdown.Whole := by
  unfold CostService.costs Asked.andThen CostService.estimates at answered
  dsimp only at answered
  split at answered
  · next estimates s' gathered =>
    cases answered
    obtain ⟨gathered, -⟩ := Prod.mk.inj gathered
    refine Breakdown.whole_sum fun b mem => ?_
    obtain ⟨estimate, listed, rfl⟩ := List.mem_map.mp mem
    have kept : service.Invariant (fun s => WholeMemory s.cache) fun _ stage => WholeStage stage :=
      invariant_whole
    obtain ⟨cluster, -, held⟩ := kept.mem_outcomes whole (mem_of_gather gathered listed)
    exact held estimate rfl
  · cases answered

/-- **What the service answers.** A remembered estimate is answered without a step. Any other one
is decided by the first step that fails: it is refused exactly if that step fails for unsupported
input, it is the empty one if the step fails otherwise, and there is one if no step fails. So is
every one of several estimates by the moves of its own task, by whatever schedule they are computed.
Every breakdown that is answered is whole. -/
theorem answers (service : CostService ι σ α) (outside : ι) (source : σ)
    (requests : List ServiceRequest) :
    let s : ServiceState ι σ α := service.serveAll requests (.start outside source)
    (∀ cluster estimate, service.keepsResults = true → s.cache.estimate? cluster = some estimate →
        service.estimate cluster s = (.ok estimate, s.spend))
      ∧ (∀ cluster, (service.keepsResults = true → s.cache.estimate? cluster = none) →
        DecidedBy cluster (service.FirstFailure cluster s.cache s.outside)
          (service.estimate cluster s).1)
      ∧ (∀ schedule clusters (place : Nat) cluster, clusters[place]? = some cluster →
        ∃ answer, (service.outcomes schedule clusters s).1[place]? = some answer
          ∧ DecidedBy cluster (fun fault => ∃ m ∈ service.movesMade
              (schedule ++ closing clusters.length) (.start clusters s),
              m.place = place ∧ service.Fails m fault) answer)
      ∧ (∀ cluster breakdown, (service.cost cluster s).1 = .ok breakdown → breakdown.Whole)
      ∧ (∀ schedule clusters breakdown,
        (service.costs schedule clusters s).1 = .ok breakdown → breakdown.Whole)
      ∧ ∀ schedule selection breakdown,
        (service.selectionCost schedule selection s).1 = .ok breakdown → breakdown.Whole := by
  intro s
  have nothing : WholeMemory (.start outside source : ServiceState ι σ α).cache :=
    fun _ _ held => by cases held
  have whole : WholeMemory s.cache := invariant_whole.serveAll nothing (fun _ => trivial)
    (fun _ kept => kept) requests
  refine ⟨fun cluster estimate keeps held => ?_, fun cluster forgotten => ?_,
    fun schedule clusters place cluster requested => ?_, fun cluster breakdown answered => ?_,
    fun schedule clusters breakdown => whole_costs whole schedule clusters,
    fun schedule selection breakdown => whole_costs whole schedule _⟩
  · have known : s.spend.cache.estimate? cluster = some estimate := held
    simp only [CostService.estimate, keeps, if_true, known]
  · obtain ⟨begun, cache, outside, computed⟩ := service.estimate_of_forgotten forgotten
    rw [computed, ← cache, ← outside]
    exact service.decidedBy_computeOrEmpty cluster begun
  · obtain ⟨answer, ends, answered⟩ := service.exists_outcome schedule s requested
    have moving := service.moving_run (schedule ++ closing clusters.length) (.start clusters s)
    have begins : (ServiceRun.start clusters s).tasks[place]? = some ⟨cluster, .begun⟩ := by
      simp [ServiceRun.start, requested]
    exact ⟨answer, answered, moving.decidedBy begins rfl ends⟩
  · unfold CostService.cost Asked.andThen at answered
    split at answered
    · next estimate s' found =>
      cases answered
      exact (invariant_whole.estimate whole cluster).2 estimate (congrArg Prod.fst found)
    · cases answered

end Answers

end CostService

end ClusterBilling
