import ClusterBilling.Proofs.Billing.Offline
import ClusterBilling.Proofs.Spot.Additivity
import ClusterBilling.Proofs.Time.Cut

/-!
# Bills of a window that is cut in two

Machine time, surcharge and storage are charged for every part of a life span at the same rates, so
without rounding the cost of an instance is the sum of what it costs before a cut and behind it
(`addsUp_offlineOutcome`). **The estimate for a window is the sum of the estimates for its two
parts** (`groupsEstimate_window`), entry by entry, and all three leave out the same instances.

The law is about billing by the histories in the book. With a server to ask it fails: each part of
a window may bring other observations.
-/

namespace ClusterBilling

/-! ## One instance -/

/-- Whether a cost is the sum of two others, in all it consists of. -/
structure InstanceCost.IsSum (whole first second : InstanceCost ℚ) : Prop where
  amount : ∀ category, whole.amount category = first.amount category + second.amount category
  units : whole.surchargeUnits = first.surchargeUnits + second.surchargeUnits

/-- Whether what becomes of an instance adds up: it is left out for the same fault, or its costs
add up. -/
inductive AddsUp : Except Fault (InstanceCost ℚ) → Except Fault (InstanceCost ℚ) →
    Except Fault (InstanceCost ℚ) → Prop
  | fault (fault : Fault) : AddsUp (.error fault) (.error fault) (.error fault)
  | cost {whole first second : InstanceCost ℚ} (sum : whole.IsSum first second) :
    AddsUp (.ok whole) (.ok first) (.ok second)

namespace InstanceCost

theorem amount_nothing (category : CostCategory) :
    (nothing : InstanceCost ℚ).amount category = 0 := by
  cases category <;> exact Amount.zero_rat

theorem units_nothing : (nothing : InstanceCost ℚ).surchargeUnits = 0 := Amount.zero_rat

/-- What sums cost altogether adds up. -/
theorem IsSum.total {whole first second : InstanceCost ℚ} (sum : whole.IsSum first second) :
    whole.total = first.total + second.total := by
  have compute := sum.amount .compute
  have surcharge := sum.amount .surcharge
  have storage := sum.amount .storage
  simp only [InstanceCost.amount] at compute surcharge storage
  rw [InstanceCost.total, InstanceCost.total, InstanceCost.total, compute, surcharge, storage]
  ring

theorem isSum_nothing_right (cost : InstanceCost ℚ) : cost.IsSum cost .nothing where
  amount category := by rw [amount_nothing, add_zero]
  units := by rw [units_nothing, add_zero]

theorem isSum_nothing_left (cost : InstanceCost ℚ) : cost.IsSum .nothing cost where
  amount category := by rw [amount_nothing, zero_add]
  units := by rw [units_nothing, zero_add]

end InstanceCost

namespace Storage

theorem volumeCost_add (first second : ℚ) (volumeType : String) (sizeGib : Nat) :
    volumeCost (first + second) volumeType sizeGib
      = volumeCost first volumeType sizeGib + volumeCost second volumeType sizeGib := by
  unfold volumeCost
  cases rate? (α := ℚ) volumeType with
  | none => simp
  | some rate => ring

/-- **Storage is charged by the hour.** -/
theorem instanceCost_add (first second : ℚ) (volumes : List Volume) :
    instanceCost (first + second) volumes
      = instanceCost first volumes + instanceCost second volumes := by
  have root := volumeCost_add first second rootType rootSizeGib
  simp only [instanceCost, Amount.sum_rat, volumeCost_add, List.sum_map_add, rootCost, root]
  ring

end Storage

/-- **The surcharge is charged by the hour**, and so are its units. -/
theorem PriceCatalog.surchargeOf_add (catalog : PriceCatalog ℚ) (model : SurchargeModel)
    (kind : InstanceKind) (first second : ℚ) :
    (catalog.surchargeOf model kind (first + second)).1
        = (catalog.surchargeOf model kind first).1 + (catalog.surchargeOf model kind second).1
      ∧ (catalog.surchargeOf model kind (first + second)).2
        = (catalog.surchargeOf model kind first).2 + (catalog.surchargeOf model kind second).2 := by
  cases model with
  | absent => exact ⟨by simp [surchargeOf], by simp [surchargeOf]⟩
  | serviceFee => exact ⟨mul_add .., by simp [surchargeOf]⟩
  | computeUnits workload plan => exact ⟨mul_add .., mul_add ..⟩

section Instances

variable {timestamps : List Instant}

theorem hoursBetween_add (timely : Instant.Timely timestamps) {start cut stop : Instant}
    (first : start ∈ timestamps) (between : cut ∈ timestamps) (last : stop ∈ timestamps) :
    (hoursBetween start stop : ℚ) = hoursBetween start cut + hoursBetween cut stop := by
  unfold hoursBetween
  rw [secondsBetween_eq timely first last, secondsBetween_eq timely first between,
    secondsBetween_eq timely between last, ← add_div]
  congr 1
  ring

/-- The same terms for another window. -/
def BillingTerms.within (terms : BillingTerms) (window : TimeWindow) : BillingTerms :=
  { terms with window := window }

namespace Biller

variable {catalog : PriceCatalog ℚ} {retry : RetryPolicy} {terms : BillingTerms}
  {book : PriceBook Unit ℚ}

variable (catalog terms) in
/-- **Machine time adds up**, at list price and at spot prices. -/
theorem machineTime_add (timely : Instant.Timely timestamps)
    (times : ∀ market, ∀ point ∈ (book.history market).points.toList, point.1 ∈ timestamps)
    {start cut stop : Instant} (first : start ∈ timestamps) (between : cut ∈ timestamps)
    (last : stop ∈ timestamps) (before : start ≤ cut) (behind : cut ≤ stop) (i : Instance) :
    machineTime catalog terms book i start stop
      = machineTime catalog terms book i start cut
        + machineTime catalog terms book i cut stop := by
  unfold machineTime
  cases i.pricingMode with
  | onDemand =>
    simp only [hoursBetween_add timely first between last]
    exact mul_add ..
  | spot =>
    exact History.integrate_add timely (times _) first between last before behind

variable (terms) in
/-- What an instance costs between two instants is what it costs up to a third one and from there
on. -/
theorem isSum_withExtras (b : Biller Unit ℚ) (timely : Instant.Timely timestamps)
    {start cut stop : Instant} (first : start ∈ timestamps) (between : cut ∈ timestamps)
    (last : stop ∈ timestamps) (volumes : List Volume) (i : Instance) {whole early late : ℚ}
    (compute : whole = early + late) :
    (b.withExtras terms volumes i start stop whole).IsSum
      (b.withExtras terms volumes i start cut early)
      (b.withExtras terms volumes i cut stop late) := by
  have hours := hoursBetween_add timely first between last
  have surcharge := b.catalog.surchargeOf_add terms.surcharge i.kind (hoursBetween start cut)
    (hoursBetween cut stop)
  constructor
  case amount =>
    intro category
    cases category with
    | compute => exact compute
    | surcharge => simpa only [withExtras, hours, InstanceCost.amount] using surcharge.1
    | storage =>
      simp only [withExtras, hours, InstanceCost.amount]
      exact Storage.instanceCost_add ..
  case units => simpa only [withExtras, hours] using surcharge.2

/-- **What becomes of an instance adds up** where a window is cut in two. -/
theorem addsUp_offlineOutcome (timely : Instant.Timely timestamps)
    (times : ∀ market, ∀ point ∈ (book.history market).points.toList, point.1 ∈ timestamps)
    {cut : Instant} (spans : terms.window.Spans cut) (between : cut ∈ timestamps)
    (bounds : ∀ t, t ∈ terms.window.start ∨ t ∈ terms.window.stop → t ∈ timestamps)
    (volumes : List Volume) {i : Instance} (first : i.createdAt ∈ timestamps)
    (last : i.endOr terms.now ∈ timestamps) :
    AddsUp (offlineOutcome catalog retry terms book volumes i)
      (offlineOutcome catalog retry (terms.within (terms.window.upTo cut)) book volumes i)
      (offlineOutcome catalog retry (terms.within (terms.window.onward cut)) book volumes i) := by
  unfold offlineOutcome Instance.billed BillingTerms.within
  dsimp only
  by_cases reversed : i.endOr terms.now < i.createdAt
  · simp only [reversed, if_true]
    exact .fault _
  · simp only [reversed, if_false]
    have parts := TimeWindow.cut_clip spans (Instant.not_lt.mp reversed)
    have inside (start stop : Instant)
        (billed : terms.window.clip i.createdAt (i.endOr terms.now) = some (start, stop)) :=
      TimeWindow.mem_of_clip bounds first last billed
    generalize terms.window.clip i.createdAt (i.endOr terms.now) = whole at parts inside
    generalize (terms.window.upTo cut).clip i.createdAt (i.endOr terms.now) = early at parts
    generalize (terms.window.onward cut).clip i.createdAt (i.endOr terms.now) = late at parts
    cases parts with
    | before time => exact .cost (InstanceCost.isSum_nothing_right _)
    | behind time => exact .cost (InstanceCost.isSum_nothing_left _)
    | @across start stop before behind =>
      obtain ⟨opens, closes⟩ := inside start stop rfl
      have compute := machineTime_add catalog terms timely times opens between closes
        (Instant.le_of_lt before) (Instant.le_of_lt behind) i
      exact .cost (isSum_withExtras terms _ timely opens between closes volumes i compute)

end Biller

end Instances

/-! ## Estimates -/

/-- Whether an estimate is the sum of two others: it has the same entries as each, which add up,
and leaves out the same instances. -/
structure ClusterEstimate.IsSum (whole first second : ClusterEstimate ℚ) : Prop where
  keys : ∀ key, (first.breakdown.has key ↔ whole.breakdown.has key)
    ∧ (second.breakdown.has key ↔ whole.breakdown.has key)
  entries : ∀ key, whole.breakdown.get key = first.breakdown.get key + second.breakdown.get key
  units : whole.surchargeUnits = first.surchargeUnits + second.surchargeUnits
  unbilled : first.unbilled = whole.unbilled ∧ second.unbilled = whole.unbilled

namespace Charge

/-- Whether what becomes of the instances of some groups adds up. -/
def AddUp (groups : List GroupInstances)
    (whole first second : List Volume → Instance → Except Fault (InstanceCost ℚ)) : Prop :=
  ∀ g ∈ groups, ∀ i ∈ g.instances,
    AddsUp (whole g.group.volumes i) (first g.group.volumes i) (second g.group.volumes i)

/-- What a charge contributes to a sum over certain roles. -/
def share (counts : String → Bool) (amount : InstanceCost ℚ → ℚ) (c : Charge ℚ) : ℚ :=
  match c.outcome with
  | .ok cost => if counts c.role then amount cost else 0
  | .error _ => 0

/-- A sum over the costs of some roles is a sum over all charges. -/
theorem sum_eq_sum_share (counts : String → Bool) (amount : InstanceCost ℚ → ℚ)
    (charges : List (Charge ℚ)) :
    ((costs (charges.filter fun c => counts c.role)).map amount).sum
      = (charges.map (share counts amount)).sum := by
  induction charges with
  | nil => rfl
  | cons c rest ih =>
    simp only [List.map_cons, List.sum_cons, ← ih]
    cases counted : counts c.role <;> cases outcome : c.outcome <;>
      simp [costs, cost?, share, counted, outcome, Except.toOption]

variable {groups : List GroupInstances}
  {whole first second : List Volume → Instance → Except Fault (InstanceCost ℚ)}

/-- **What is booked adds up** if what becomes of every instance does. -/
theorem AddUp.sum_share (adds : AddUp groups whole first second) (counts : String → Bool)
    {amount : InstanceCost ℚ → ℚ}
    (additive : ∀ {a b c : InstanceCost ℚ}, a.IsSum b c → amount a = amount b + amount c) :
    ((forEach groups whole).map (share counts amount)).sum
      = ((forEach groups first).map (share counts amount)).sum
        + ((forEach groups second).map (share counts amount)).sum := by
  have one (role : String) (volumes : List Volume) (i : Instance)
      {a b c : Except Fault (InstanceCost ℚ)} (up : AddsUp a b c) :
      share counts amount ⟨role, volumes, i, a⟩
        = share counts amount ⟨role, volumes, i, b⟩
          + share counts amount ⟨role, volumes, i, c⟩ := by
    unfold share
    cases up with
    | fault fault => exact (add_zero 0).symm
    | cost sum =>
      dsimp only
      split
      · exact additive sum
      · exact (add_zero 0).symm
  induction groups with
  | nil => exact (add_zero 0).symm
  | cons g rest ih =>
    have others := ih fun other mem => adds other (List.mem_cons_of_mem g mem)
    have here : (g.instances.map fun i => share counts amount
          ⟨g.group.role, g.group.volumes, i, whole g.group.volumes i⟩)
        = g.instances.map fun i => share counts amount
            ⟨g.group.role, g.group.volumes, i, first g.group.volumes i⟩
          + share counts amount ⟨g.group.role, g.group.volumes, i, second g.group.volumes i⟩ :=
      List.map_congr_left fun i mem => one _ _ _ (adds g List.mem_cons_self i mem)
    simp only [forEach, List.flatMap_cons, List.map_append, List.sum_append, List.map_map]
      at others ⊢
    rw [others]
    simp only [Function.comp_def]
    rw [here, List.sum_map_add]
    ring

/-- The costs in groups of certain roles add up. -/
theorem AddUp.sum_filter (adds : AddUp groups whole first second) (counts : String → Bool)
    {amount : InstanceCost ℚ → ℚ}
    (additive : ∀ {a b c : InstanceCost ℚ}, a.IsSum b c → amount a = amount b + amount c) :
    ((costs ((forEach groups whole).filter fun c => counts c.role)).map amount).sum
      = ((costs ((forEach groups first).filter fun c => counts c.role)).map amount).sum
        + ((costs ((forEach groups second).filter fun c => counts c.role)).map amount).sum := by
  simp only [sum_eq_sum_share]
  exact adds.sum_share counts additive

/-- The costs of all instances add up. -/
theorem AddUp.sum_costs (adds : AddUp groups whole first second) {amount : InstanceCost ℚ → ℚ}
    (additive : ∀ {a b c : InstanceCost ℚ}, a.IsSum b c → amount a = amount b + amount c) :
    ((costs (forEach groups whole)).map amount).sum
      = ((costs (forEach groups first)).map amount).sum
        + ((costs (forEach groups second)).map amount).sum := by
  simpa only [List.filter_true] using adds.sum_filter (fun _ => true) additive

/-- The costs in groups of a role add up. -/
theorem AddUp.sum_costsOf (adds : AddUp groups whole first second) (role : String)
    {amount : InstanceCost ℚ → ℚ}
    (additive : ∀ {a b c : InstanceCost ℚ}, a.IsSum b c → amount a = amount b + amount c) :
    ((costsOf role (forEach groups whole)).map amount).sum
      = ((costsOf role (forEach groups first)).map amount).sum
        + ((costsOf role (forEach groups second)).map amount).sum :=
  adds.sum_filter (fun other => decide (other = role)) additive

/-- The same instances are left out. -/
theorem AddUp.unbilled (adds : AddUp groups whole first second) :
    (forEach groups first).filterMap unbilled? = (forEach groups whole).filterMap unbilled?
      ∧ (forEach groups second).filterMap unbilled?
        = (forEach groups whole).filterMap unbilled? := by
  have one (role : String) (volumes : List Volume) (i : Instance)
      {a b c : Except Fault (InstanceCost ℚ)} (up : AddsUp a b c) :
      unbilled? ⟨role, volumes, i, b⟩ = unbilled? ⟨role, volumes, i, a⟩
        ∧ unbilled? ⟨role, volumes, i, c⟩ = unbilled? ⟨role, volumes, i, a⟩ := by
    cases up with
    | fault fault => exact ⟨rfl, rfl⟩
    | cost sum => exact ⟨rfl, rfl⟩
  induction groups with
  | nil => exact ⟨rfl, rfl⟩
  | cons g rest ih =>
    have others := ih fun other mem => adds other (List.mem_cons_of_mem g mem)
    simp only [forEach, List.flatMap_cons, List.filterMap_append, List.filterMap_map] at others ⊢
    rw [others.1, others.2]
    constructor <;> refine congrArg (· ++ _) (List.filterMap_congr fun i mem => ?_)
    · exact (one _ _ _ (adds g List.mem_cons_self i mem)).1
    · exact (one _ _ _ (adds g List.mem_cons_self i mem)).2

end Charge

/-- The total of some costs is the sum of what each comes to. -/
theorem sum_parts (costs : List (InstanceCost ℚ)) :
    (costs.flatMap fun cost => [cost.compute, cost.surcharge, cost.storage]).sum
      = (costs.map InstanceCost.total).sum := by
  induction costs with
  | nil => rfl
  | cons cost rest ih =>
    simp only [List.flatMap_cons, List.sum_append, ih, List.map_cons, List.sum_cons,
      InstanceCost.total, List.sum_nil, add_zero, add_assoc]

namespace ClusterEstimate

variable {roles : List String} {groups : List GroupInstances}
  {whole first second : List Volume → Instance → Except Fault (InstanceCost ℚ)}
  {e e₁ e₂ : ClusterEstimate ℚ}

/-- **Estimates add up with their charges.** -/
theorem isSum_of_accounts (adds : Charge.AddUp groups whole first second)
    (accounts : e.Accounts roles (Charge.forEach groups whole))
    (accounts₁ : e₁.Accounts roles (Charge.forEach groups first))
    (accounts₂ : e₂.Accounts roles (Charge.forEach groups second)) : e.IsSum e₁ e₂ := by
  constructor
  case keys =>
    intro key
    rw [accounts.keys, accounts₁.keys, accounts₂.keys]
    exact ⟨Iff.rfl, Iff.rfl⟩
  case entries =>
    intro key
    by_cases known : e.breakdown.has key
    · rcases (accounts.keys key).mp known with rfl | ⟨role, -, category, rfl⟩
      · have sum := adds.sum_costs InstanceCost.IsSum.total
        refine accounts.total.trans (.trans ?_ (congrArg₂ (· + ·) accounts₁.total
          accounts₂.total).symm)
        simp only [Amount.running_rat, sum_parts]
        exact sum
      · have sum := adds.sum_costsOf role fun sum => sum.amount category
        refine (accounts.entries role category).trans (.trans ?_ (congrArg₂ (· + ·)
          (accounts₁.entries role category) (accounts₂.entries role category)).symm)
        simp only [Amount.running_rat]
        exact sum
    · have known₁ : ¬ e₁.breakdown.has key := by rwa [accounts₁.keys, ← accounts.keys]
      have known₂ : ¬ e₂.breakdown.has key := by rwa [accounts₂.keys, ← accounts.keys]
      rw [Breakdown.get_of_not_has known, Breakdown.get_of_not_has known₁,
        Breakdown.get_of_not_has known₂, Amount.zero_rat, add_zero]
  case units =>
    rw [accounts.units, accounts₁.units, accounts₂.units]
    simp only [Amount.running_rat]
    exact adds.sum_costs InstanceCost.IsSum.units
  case unbilled =>
    rw [accounts.unbilled, accounts₁.unbilled, accounts₂.unbilled]
    exact adds.unbilled

end ClusterEstimate

/-- An observation of a market is one of a history in the book. -/
theorem PriceBook.mem_values_of_mem {α : Type} (book : PriceBook Unit α) {market : Market}
    {point : Instant × α} (mem : point ∈ (book.history market).points.toList) :
    book.history market ∈ book.histories.values := by
  unfold history OrderedMap.getD at mem ⊢
  cases known : book.histories.get? market with
  | none => simp [known, History.empty, OrderedMap.empty] at mem
  | some h => exact List.mem_map_of_mem ((OrderedMap.get?_eq_some_iff ..).mp known)

/-- Every timestamp that the bills of some groups depend on, with the cut of a window. -/
def BillingTerms.timestamps (terms : BillingTerms) (cut : Instant) (groups : List GroupInstances)
    (book : PriceBook Unit ℚ) : List Instant :=
  [cut, terms.now] ++ terms.window.start.toList ++ terms.window.stop.toList
    ++ (groups.flatMap fun g => g.instances.flatMap fun i => i.createdAt :: i.terminatedAt.toList)
    ++ book.histories.values.flatMap fun h => h.points.keys

namespace Biller

variable (catalog : PriceCatalog ℚ) (retry : RetryPolicy) (terms : BillingTerms)
  (cluster : ClusterId) (groups : List GroupInstances) (book : PriceBook Unit ℚ)

/-- **Windows add up.** The estimate of groups for a window is the sum of those for its parts before
an instant and from it on. -/
theorem groupsEstimate_window (steps steps₁ steps₂ : Nat) {cut : Instant}
    (spans : terms.window.Spans cut)
    (timely : Instant.Timely (terms.timestamps cut groups book)) :
    ((offline catalog retry).groupsEstimate terms cluster groups steps book).estimate.IsSum
      ((offline catalog retry).groupsEstimate (terms.within (terms.window.upTo cut)) cluster groups
        steps₁ book).estimate
      ((offline catalog retry).groupsEstimate (terms.within (terms.window.onward cut)) cluster
        groups steps₂ book).estimate := by
  have accounts (terms : BillingTerms) (steps : Nat) :=
    charges_offline catalog retry terms groups steps book
      ▸ (offline catalog retry).accounts_groupsEstimate terms cluster groups steps book
  refine ClusterEstimate.isSum_of_accounts ?_ (accounts _ _) (accounts _ _) (accounts _ _)
  intro g group i item
  have own {t : Instant} (own : t = i.createdAt ∨ t ∈ i.terminatedAt.toList) :
      t ∈ terms.timestamps cut groups book := by
    have listed : t ∈ groups.flatMap fun g => g.instances.flatMap fun i =>
        i.createdAt :: i.terminatedAt.toList :=
      List.mem_flatMap.mpr ⟨g, group, List.mem_flatMap.mpr ⟨i, item, List.mem_cons.mpr own⟩⟩
    simp only [BillingTerms.timestamps, List.mem_append, listed, or_true, true_or]
  have observed (market : Market) (point : Instant × ℚ)
      (mem : point ∈ (book.history market).points.toList) :
      point.1 ∈ terms.timestamps cut groups book := by
    have listed : point.1 ∈ book.histories.values.flatMap fun h => h.points.keys :=
      List.mem_flatMap.mpr ⟨_, book.mem_values_of_mem mem, List.mem_map_of_mem mem⟩
    simp only [BillingTerms.timestamps, List.mem_append, listed, or_true]
  have bounds (t : Instant) (bound : t ∈ terms.window.start ∨ t ∈ terms.window.stop) :
      t ∈ terms.timestamps cut groups book := by
    simp only [BillingTerms.timestamps, List.mem_append, Option.mem_toList]
    tauto
  refine addsUp_offlineOutcome timely observed spans ?_ bounds _ (own (.inl rfl)) ?_
  · simp [BillingTerms.timestamps]
  · unfold Instance.endOr
    cases ended : i.terminatedAt with
    | none => simp [BillingTerms.timestamps]
    | some stop => exact own (.inr (by simp [ended]))

section Sample

/-- A machine at list price and one at spot prices, of which the second still runs. -/
def mixedGroup : GroupInstances :=
  ⟨⟨"ig-1", "CORE", "m5.large", []⟩,
    [⟨"i-1", "m5.large", .onDemand, .atHour 1, some (.atHour 6), []⟩,
    ⟨"i-2", "r5.large", .spot, .atHour 2, none, []⟩]⟩

def mixedTerms : BillingTerms := ⟨"us-east-1a", .serviceFee, ⟨some (.atHour 2), none⟩, .atHour 8⟩

def mixedCatalog : PriceCatalog ℚ :=
  (PriceCatalog.empty.withOnDemand "m5.large" (1 / 10)).withServiceFee "m5.large" (1 / 40)

/-- The price of the second machine changes while both are billed. -/
def mixedBook : PriceBook Unit ℚ :=
  (PriceBook.start ()).extend ⟨"r5.large", "us-east-1a"⟩
    [⟨.atHour 3, 1 / 20⟩, ⟨.atHour 5, 3 / 50⟩]

/-- The window from the second hour on is cut at the fourth. -/
theorem groupsEstimate_window_mixed :
    mixedTerms.window.Spans (.atHour 4)
      ∧ Instant.Timely (mixedTerms.timestamps (.atHour 4) [mixedGroup] mixedBook)
      ∧ ((offline mixedCatalog .once).groupsEstimate mixedTerms "j-1" [mixedGroup] 128
          mixedBook).estimate.IsSum
        ((offline mixedCatalog .once).groupsEstimate
          (mixedTerms.within (mixedTerms.window.upTo (.atHour 4))) "j-1" [mixedGroup] 128
          mixedBook).estimate
        ((offline mixedCatalog .once).groupsEstimate
          (mixedTerms.within (mixedTerms.window.onward (.atHour 4))) "j-1" [mixedGroup] 128
          mixedBook).estimate := by
  have spans : mixedTerms.window.Spans (.atHour 4) := ⟨by decide, by decide⟩
  have timely : Instant.Timely (mixedTerms.timestamps (.atHour 4) [mixedGroup] mixedBook) := by
    decide +kernel
  exact ⟨spans, timely, groupsEstimate_window _ _ _ _ _ _ _ _ _ spans timely⟩

end Sample

end Biller

end ClusterBilling
