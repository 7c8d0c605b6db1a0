import ClusterBilling.Proofs.Billing.Offline
import ClusterBilling.Proofs.Inventory.Steady
import ClusterBilling.Proofs.Service.Cache
import ClusterBilling.Proofs.Service.Requests

/-!
# What is remembered does not show

Descriptions and estimates are remembered to save work. **Where nothing that the service works with
ever changes its answers, no request can tell what was requested before it**
(`serve_eq_fresh`): every answer is that of a service which remembers nothing. Nor can it tell by
what schedule the estimates of several clusters are computed.

What there is to find out about a cluster is then a matter of the parts alone (`findings`). A state
is faithful to that if its book answers alike and all that it remembers was found so. From a
faithful state every task can only come to the findings, whatever the others do between two of its
moves (`Promised`), and leaves a faithful state (`invariant_findings`).
-/

namespace ClusterBilling

/-- A state that remembers nothing, over a book that may know some prices already. -/
def ServiceState.over {ι σ α : Type} (outside : ι) (book : PriceBook σ α) : ServiceState ι σ α :=
  ⟨.empty, [], outside, book, GroupBilling.roundSteps⟩

/-- The request with another schedule, if it comes with one. -/
def ServiceRequest.rescheduled (schedule : List Move) : ServiceRequest → ServiceRequest
  | .estimates _ clusters => .estimates schedule clusters
  | .costs _ clusters => .costs schedule clusters
  | .selectionCost _ selection => .selectionCost schedule selection
  | request => request

namespace CostService

variable {ι α : Type} (service : CostService ι Unit α)

/-- **Whether nothing that the service works with ever changes its answers**, in certain states of
what is outside: neither the inventory, which describes the clusters it is asked for, nor the
clock, and there is no server to ask for spot prices. -/
structure Unchanging (within : ι → Prop) : Prop where
  inventory : service.inventory.Steady within
  describes : ∀ cluster s descriptor, within s →
    (service.inventory.describe cluster s).1 = .ok descriptor → descriptor.id = cluster
  clock : Steady within service.clock
  offline : service.biller.spot = .silent

variable [Amount α] (outside : ι) (book : PriceBook Unit α)

/-- What groups cost on certain terms, each instance on its own. -/
def priceOfGroups (terms : BillingTerms) (cluster : ClusterId) (groups : List GroupInstances) :
    ClusterEstimate α :=
  groups.foldl (Biller.addOffline service.biller.catalog service.biller.retry terms book)
    (.start cluster)

/-- **What there is to find out about a cluster**, in a certain state of what is outside and with a
certain book. -/
def findings (cluster : ClusterId) : Except Fault (ClusterEstimate α) :=
  match (service.inventory.describe cluster outside).1 with
  | .error fault => .error fault
  | .ok descriptor =>
    match SurchargeModel.ofCluster service.platform descriptor service.plan with
    | .error fault => .error fault
    | .ok surcharge =>
      (service.inventory.layout descriptor.id outside).1.map (service.priceOfGroups book
        (descriptor.terms surcharge service.window (service.clock outside).1) descriptor.id)

/-- **Whether a state is faithful to certain parts**: it answers like them, and what it remembers is
what there is to find out. -/
structure Faithful (within : ι → Prop) (s : ServiceState ι Unit α) : Prop where
  inside : within s.outside
  alike : s.book.Alike book
  descriptors : ∀ cluster descriptor, s.cache.descriptor? cluster = some descriptor →
    (service.inventory.describe cluster outside).1 = .ok descriptor
  estimates : ∀ cluster estimate, s.cache.estimate? cluster = some estimate →
    service.findings outside book cluster = .ok estimate

/-- **Whether a task can only come to the findings** from a stage. -/
def Promised (cluster : ClusterId) : EstimateStage α → Prop
  | .begun | .queued | .admitted | .describing | .asking => True
  | .answered descriptor | .described descriptor =>
    (service.inventory.describe cluster outside).1 = .ok descriptor
  | .listing descriptor terms layout =>
    (service.inventory.describe cluster outside).1 = .ok descriptor
      ∧ service.findings outside book cluster
        = (service.inventory.layoutFrom descriptor.id layout outside).1.map
          (service.priceOfGroups book terms descriptor.id)
  | .billing descriptor terms bill =>
    (service.inventory.describe cluster outside).1 = .ok descriptor
      ∧ ∃ total, service.findings outside book cluster = .ok total
        ∧ Biller.ComesTo service.biller.catalog service.biller.retry terms book bill total
  | .billed descriptor estimate =>
    (service.inventory.describe cluster outside).1 = .ok descriptor
      ∧ service.findings outside book cluster = .ok estimate
  | .ended outcome => outcome = orEmpty cluster (service.findings outside book cluster)

variable {service outside book} {within : ι → Prop} {s s' : ServiceState ι Unit α}

theorem Faithful.of_eq (faithful : service.Faithful outside book within s)
    (cache : s'.cache = s.cache) (outside' : s'.outside = s.outside) (book' : s'.book = s.book) :
    service.Faithful outside book within s' :=
  ⟨outside' ▸ faithful.inside, book' ▸ faithful.alike, cache ▸ faithful.descriptors,
    cache ▸ faithful.estimates⟩

theorem faithful_over {outside' : ι} {book' : PriceBook Unit α} (inside : within outside')
    (alike : book'.Alike book) :
    service.Faithful outside book within (.over outside' book') :=
  ⟨inside, alike, fun _ _ held => (by cases held), fun _ _ held => (by cases held)⟩

section Unchanging

variable (unchanging : service.Unchanging within) (inside : within outside)

/-! ## Bills -/

include unchanging

theorem comesTo_turnAt {terms : BillingTerms} {bill : RunningBill α} {total : ClusterEstimate α}
    (comes : Biller.ComesTo service.biller.catalog service.biller.retry terms book bill total)
    {book' : PriceBook Unit α} (alike : book'.Alike book) (place : Nat) :
    Biller.ComesTo service.biller.catalog service.biller.retry terms book
        (service.biller.turnAt terms place bill book').1 total
      ∧ (service.biller.turnAt terms place bill book').2.Alike book := by
  have silent := unchanging.offline
  generalize service.biller = b at comes silent
  obtain ⟨catalog, spot, retry⟩ := b
  obtain rfl : spot = .silent := silent
  exact comes.turnAt catalog retry terms alike place

theorem comesTo_finishBill {terms : BillingTerms} {bill : RunningBill α}
    {total : ClusterEstimate α}
    (comes : Biller.ComesTo service.biller.catalog service.biller.retry terms book bill total)
    {book' : PriceBook Unit α} (alike : book'.Alike book) (steps : Nat) :
    (service.biller.finishBill terms bill steps book').estimate = total
      ∧ (service.biller.finishBill terms bill steps book').book.Alike book := by
  have silent := unchanging.offline
  generalize service.biller = b at comes silent
  obtain ⟨catalog, spot, retry⟩ := b
  obtain rfl : spot = .silent := silent
  exact comes.finishBill catalog retry terms alike steps

/-! ## Steps -/

include inside

/-- **What is remembered of a described cluster is what there is to find out.** -/
theorem Faithful.keepDescriptor (faithful : service.Faithful outside book within s)
    {cluster : ClusterId} {descriptor : ClusterDescriptor}
    (described : (service.inventory.describe cluster outside).1 = .ok descriptor) :
    service.Faithful outside book within (s.keepDescriptor descriptor) := by
  have own : descriptor.id = cluster := unchanging.describes cluster _ _ inside described
  have kept : service.Faithful outside book within
      { s with cache := s.cache.keepDescriptor descriptor } := by
    refine ⟨faithful.inside, faithful.alike, fun other other' held => ?_,
      fun other estimate held => faithful.estimates other estimate
        ((ResultCache.estimate?_keepDescriptor ..).symm.trans held)⟩
    rw [ResultCache.descriptor?_keepDescriptor] at held
    split at held
    · next new =>
      cases held
      rw [new.1, own]
      exact described
    · exact faithful.descriptors other other' held
  unfold ServiceState.keepDescriptor
  dsimp only
  split <;> exact kept.of_eq rfl rfl rfl

theorem Faithful.remember (faithful : service.Faithful outside book within s)
    {cluster : ClusterId} {descriptor : ClusterDescriptor} {estimate : ClusterEstimate α}
    (described : (service.inventory.describe cluster outside).1 = .ok descriptor)
    (found : service.findings outside book cluster = .ok estimate) :
    service.Faithful outside book within (service.remember descriptor estimate s) := by
  have own : descriptor.id = cluster := unchanging.describes cluster _ _ inside described
  have kept : service.Faithful outside book within
      { s with cache := s.cache.keepEstimate descriptor estimate } := by
    refine ⟨faithful.inside, faithful.alike, fun other other' held => faithful.descriptors other
      other' ((ResultCache.descriptor?_keepEstimate ..).symm.trans held), fun other other' held => ?_⟩
    rw [ResultCache.estimate?_keepEstimate] at held
    split at held
    · next new =>
      cases held
      rw [new.1, own]
      exact found
    · exact faithful.estimates other other' held
  unfold CostService.remember ServiceState.keepEstimate
  dsimp only
  split
  · split
    · exact kept.of_eq rfl rfl rfl
    · exact kept
  · exact faithful

omit unchanging inside in
/-- The outside may go on as long as it stays within. -/
theorem Faithful.goOn (faithful : service.Faithful outside book within s) {outside' : ι}
    (stays : within outside') : service.Faithful outside book within { s with outside := outside' } :=
  ⟨stays, faithful.alike, faithful.descriptors, faithful.estimates⟩

omit unchanging inside in
/-- An estimate that is found is the end of a task. -/
theorem promised_ended {cluster : ClusterId} {estimate : ClusterEstimate α}
    (found : service.findings outside book cluster = .ok estimate) :
    service.Promised outside book cluster (.ended (.ok estimate)) := by
  show Except.ok estimate = orEmpty cluster (service.findings outside book cluster)
  rw [found]
  rfl

omit unchanging inside in
/-- So is the answer to a failure that is found. -/
theorem promised_failed {cluster : ClusterId} {fault : Fault}
    (failed : service.findings outside book cluster = .error fault) :
    service.Promised outside book cluster (.ended (orEmpty cluster (.error fault))) := by
  show orEmpty cluster (.error fault) = orEmpty cluster (service.findings outside book cluster)
  rw [failed]

/-- **Every step leads a task on to the findings.** What it is answered now is what the parts answer
as they were at first. -/
theorem invariant_findings :
    service.Invariant (service.Faithful outside book within) (service.Promised outside book) where
  begun cluster := trivial
  step {cluster pace stage s stage' s'} steps faithful promised := by
    have own : within s.outside := faithful.inside
    cases steps with
    | skipped => exact ⟨faithful, trivial⟩
    | missed | missedAgain | unknown => exact ⟨faithful.of_eq rfl rfl rfl, trivial⟩
    | found _ _ _ held | foundAgain _ _ held =>
      exact ⟨faithful.of_eq rfl rfl rfl, promised_ended (faithful.estimates cluster _ held)⟩
    | entered =>
      exact ⟨faithful.of_eq (s.cache_takeSlot cluster) (s.outside_takeSlot cluster)
        (s.book_takeSlot cluster), trivial⟩
    | recalled _ _ held =>
      exact ⟨faithful.of_eq rfl rfl rfl, faithful.descriptors cluster _ held⟩
    | answered _ _ asked =>
      obtain ⟨described, stays⟩ :=
        (unchanging.inventory.describe cluster).of_asked own asked inside
      exact ⟨faithful.goOn stays, described⟩
    | unanswered _ _ asked =>
      obtain ⟨failed, stays⟩ := (unchanging.inventory.describe cluster).of_asked own asked inside
      exact ⟨faithful.goOn stays, promised_failed (by simp only [findings, failed])⟩
    | handedOver => exact ⟨faithful.keepDescriptor unchanging inside promised, promised⟩
    | @opened _ _ descriptor surcharge chosen =>
      have described : (service.inventory.describe cluster outside).1 = .ok descriptor := promised
      obtain ⟨now, stays⟩ := unchanging.clock.of_asked own rfl inside
      refine ⟨faithful.goOn stays, described, ?_⟩
      simp only [findings, described, chosen, now]
      rfl
    | @refused _ _ descriptor fault chosen =>
      have described : (service.inventory.describe cluster outside).1 = .ok descriptor := promised
      exact ⟨faithful, promised_failed (by simp only [findings, described, chosen])⟩
    | listed _ _ descriptor terms done =>
      obtain ⟨described, found⟩ := promised
      rw [service.inventory.layoutFrom_of_listed descriptor.id done] at found
      exact ⟨faithful, described, _, found, rfl⟩
    | @called _ _ descriptor terms layout later outside' undone asked =>
      obtain ⟨described, found⟩ := promised
      obtain ⟨-, stays⟩ :=
        (unchanging.inventory.layoutCall descriptor.id layout).of_asked own asked inside
      rw [unchanging.inventory.layoutFrom_of_called descriptor.id own inside undone asked] at found
      exact ⟨faithful.goOn stays, described, found⟩
    | @uncalled _ _ descriptor terms layout fault outside' undone asked =>
      obtain ⟨described, found⟩ := promised
      obtain ⟨-, stays⟩ :=
        (unchanging.inventory.layoutCall descriptor.id layout).of_asked own asked inside
      rw [unchanging.inventory.layoutFrom_of_uncalled descriptor.id own inside undone asked]
        at found
      exact ⟨faithful.goOn stays, promised_failed found⟩
    | @laidOut _ descriptor terms layout groups outside' asked =>
      obtain ⟨described, found⟩ := promised
      obtain ⟨same, stays⟩ :=
        (unchanging.inventory.layoutFrom descriptor.id layout).of_asked own asked inside
      rw [same] at found
      exact ⟨faithful.goOn stays, described, _, found, rfl⟩
    | @unlisted _ descriptor terms layout fault outside' asked =>
      obtain ⟨described, found⟩ := promised
      obtain ⟨same, stays⟩ :=
        (unchanging.inventory.layoutFrom descriptor.id layout).of_asked own asked inside
      rw [same] at found
      exact ⟨faithful.goOn stays, promised_failed found⟩
    | totalled _ _ _ _ total =>
      obtain ⟨described, sum, found, comes⟩ := promised
      obtain rfl := comes.total? _ _ _ total
      exact ⟨faithful, described, found⟩
    | turned place _ _ terms bill =>
      obtain ⟨described, total, found, comes⟩ := promised
      have turned := comesTo_turnAt unchanging comes faithful.alike place
      exact ⟨⟨own, turned.2, faithful.descriptors, faithful.estimates⟩, described, total, found,
        turned.1⟩
    | finished _ _ terms bill =>
      obtain ⟨described, total, found, comes⟩ := promised
      have billed := comesTo_finishBill unchanging comes faithful.alike s.steps
      rw [← billed.1] at found
      exact ⟨⟨own, billed.2, faithful.descriptors, faithful.estimates⟩, described, found⟩
    | kept _ _ descriptor estimate =>
      obtain ⟨described, found⟩ := promised
      exact ⟨faithful.remember unchanging inside described found, promised_ended found⟩
    | rests => exact ⟨faithful, promised⟩

/-! ## Requests -/

/-- **A description is always the same**, remembered or not. -/
theorem describe_answer (faithful : service.Faithful outside book within s) (cluster : ClusterId) :
    (service.describe cluster s).1 = (service.inventory.describe cluster outside).1 := by
  unfold describe
  dsimp only
  cases held : s.spend.cache.descriptor? cluster with
  | some descriptor => exact (faithful.descriptors cluster descriptor held).symm
  | none =>
    have same := (unchanging.inventory.describe cluster).same s.outside outside faithful.inside
      inside
    have still : s.spend.outside = s.outside := rfl
    simp only [still]
    split <;> next answered => rwa [answered] at same

/-- **Several estimates are the findings**, by whatever schedule. -/
theorem outcomes_answer (faithful : service.Faithful outside book within s)
    (schedule : List Move) (clusters : List ClusterId) :
    (service.outcomes schedule clusters s).1
      = clusters.map fun cluster => orEmpty cluster (service.findings outside book cluster) :=
  (invariant_findings unchanging inside).outcomes_eq_map faithful (fun _ _ ended => ended) schedule
    clusters

theorem faithful_serveAll (faithful : service.Faithful outside book within s)
    (requests : List ServiceRequest) :
    service.Faithful outside book within (service.serveAll requests s) :=
  (invariant_findings unchanging inside).serveAll faithful (fun _ => trivial)
    (fun _ own => own.of_eq rfl rfl rfl) requests

omit unchanging inside in
variable (service outside book) in
/-- The answer to a request that the findings give. -/
def answerOf : ServiceRequest → ServiceAnswer α
  | .describe cluster => .descriptor (service.inventory.describe cluster outside).1
  | .estimate cluster => .estimate (orEmpty cluster (service.findings outside book cluster))
  | .cost cluster =>
    .breakdown ((orEmpty cluster (service.findings outside book cluster)).map
      ClusterEstimate.breakdown)
  | .estimates _ clusters => .estimates (estimatesOf clusters)
  | .costs _ clusters => .breakdown (costsOf clusters)
  | .selectionCost _ selection => .breakdown (costsOf (Selection.clusters selection))
  | .newRound => .nothing
where
  estimatesOf (clusters : List ClusterId) : Except Fault (List (ClusterEstimate α)) :=
    gather (clusters.map fun cluster => orEmpty cluster (service.findings outside book cluster))
  costsOf (clusters : List ClusterId) : Except Fault (Breakdown α) :=
    (estimatesOf clusters).map fun estimates => .sum (estimates.map ClusterEstimate.breakdown)

/-- **Every answer is what there is to find out.** -/
theorem serve_answer (faithful : service.Faithful outside book within s)
    (request : ServiceRequest) :
    (service.serve request s).1 = service.answerOf outside book request := by
  have estimate (cluster : ClusterId) : (service.estimate cluster s).1
      = orEmpty cluster (service.findings outside book cluster) :=
    ((invariant_findings unchanging inside).estimate faithful cluster).2
  have estimates (schedule : List Move) (clusters : List ClusterId) :
      (service.estimates schedule clusters s).1
        = answerOf.estimatesOf service outside book clusters :=
    congrArg gather (outcomes_answer unchanging inside faithful schedule clusters)
  have costs (schedule : List Move) (clusters : List ClusterId) :
      (service.costs schedule clusters s).1 = answerOf.costsOf service outside book clusters := by
    rw [CostService.costs, fst_andThen_answer, estimates]
    rfl
  have cost (cluster : ClusterId) : (service.cost cluster s).1
      = (orEmpty cluster (service.findings outside book cluster)).map ClusterEstimate.breakdown := by
    rw [CostService.cost, fst_andThen_answer, estimate]
  cases request with
  | describe cluster =>
    exact congrArg ServiceAnswer.descriptor (describe_answer unchanging inside faithful cluster)
  | estimate cluster => exact congrArg ServiceAnswer.estimate (estimate cluster)
  | cost cluster => exact congrArg ServiceAnswer.breakdown (cost cluster)
  | estimates schedule clusters =>
    exact congrArg ServiceAnswer.estimates (estimates schedule clusters)
  | costs schedule clusters => exact congrArg ServiceAnswer.breakdown (costs schedule clusters)
  | selectionCost schedule selection =>
    exact congrArg ServiceAnswer.breakdown (costs schedule (Selection.clusters selection))
  | newRound => rfl

end Unchanging

/-- **Nobody can tell what was requested before**, nor by what schedule the estimates of several
clusters are computed. Where nothing that the service works with ever changes its answers, every
request is answered as by a fresh service over the same parts that goes by any schedule, be it one
over the parts as they were at first or as the requests before have left them. -/
theorem serve_eq_fresh (service : CostService ι Unit α) (unchanging : service.Unchanging within)
    (outside : ι) (inside : within outside) (book : PriceBook Unit α)
    (requests : List ServiceRequest) (request : ServiceRequest) (schedule : List Move) :
    let s := service.serveAll requests (.over outside book)
    (service.serve request s).1
        = (service.serve (request.rescheduled schedule) (.over outside book)).1
      ∧ (service.serve request s).1
        = (service.serve (request.rescheduled schedule) (.over s.outside s.book)).1 := by
  intro s
  have fresh : service.Faithful outside book within (.over outside book) :=
    faithful_over inside (.refl book)
  have faithful : service.Faithful outside book within s :=
    faithful_serveAll unchanging inside fresh requests
  have again : service.Faithful outside book within (.over s.outside s.book) :=
    faithful_over faithful.inside faithful.alike
  have same : service.answerOf outside book request
      = service.answerOf outside book (request.rescheduled schedule) := by
    cases request <;> rfl
  rw [serve_answer unchanging inside faithful, serve_answer unchanging inside fresh,
    serve_answer unchanging inside again, same]
  exact ⟨rfl, rfl⟩

end CostService

section Sample

/-- A cluster that is gone, with a machine that was bought and one from the spot market, and a
cluster that runs on. -/
def InventoryRecording.goneAndRunning : InventoryRecording where
  clusters := [
    ⟨⟨"j-1", "", .terminated, "us-east-1a", .atHour 1, some (.atHour 3), none⟩, false,
      [⟨⟨"ig-1", "CORE", "m5.large", []⟩,
        [⟨"i-1", "m5.large", .onDemand, .atHour 1, some (.atHour 2), []⟩,
          ⟨"i-2", "m5.large", .spot, .atHour 2, none, []⟩]⟩]⟩,
    ⟨⟨"j-2", "", .running, "us-east-1a", .atHour 1, none, none⟩, true,
      [⟨⟨"if-1", "TASK", "m5.large", []⟩,
        [⟨"i-3", "m5.large", .spot, .atHour 1, none, []⟩]⟩]⟩]

/-- A service over a recording. -/
def CostService.replaying : CostService InventoryRecording Unit Float where
  inventory := InventoryRecording.inventory id
  clock s := (.atHour 4, s)
  biller := ⟨PriceCatalog.empty.withOnDemand "m5.large" 1.0, .silent, .once⟩
  platform := .emr
  plan := .standard
  window := .unbounded

/-- A book that knows a price. -/
def PriceBook.seeded : PriceBook Unit Float :=
  (PriceBook.start ()).extend ⟨"m5.large", "us-east-1a"⟩ [⟨.atHour 0, 0.5⟩]

theorem CostService.serve_eq_fresh_replaying :
    let requests : List ServiceRequest :=
      [.costs Move.crossing ["j-1", "j-2", "j-9"], .newRound, .estimate "j-1", .describe "j-2"]
    let s := replaying.serveAll requests (.over .goneAndRunning .seeded)
    replaying.Unchanging (fun r => r = .goneAndRunning)
      ∧ (s.cache.estimate? "j-1").isSome = true
      ∧ (replaying.serve (.selectionCost Move.crossing "(j-2|j-1)") s).1
        = (replaying.serve (.selectionCost [] "(j-2|j-1)") (.over .goneAndRunning .seeded)).1 := by
  intro requests s
  have unchanging : replaying.Unchanging (fun r => r = .goneAndRunning) :=
    { inventory := InventoryRecording.steady id .goneAndRunning
      describes := fun _ _ _ _ described => InventoryRecording.id_of_describe described
      clock := ⟨fun _ _ _ _ => rfl, fun _ own => own⟩
      offline := rfl }
  exact ⟨unchanging, by decide +kernel,
    (replaying.serve_eq_fresh unchanging .goneAndRunning rfl .seeded requests
      (.selectionCost Move.crossing "(j-2|j-1)") []).1⟩

end Sample

end ClusterBilling
