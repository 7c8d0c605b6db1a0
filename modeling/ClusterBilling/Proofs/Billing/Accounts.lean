import ClusterBilling.Billing.Interleaved
import ClusterBilling.Proofs.Breakdown.Making
import ClusterBilling.Proofs.Exact

/-!
# What an estimate is made of

Every instance that is listed ends in one charge: it was billed for a cost or left out for a fault
(`items_charges`). **An estimate accounts for its charges**, whatever they are
(`accounts_groupsEstimate`): every cost counts once in the entries of its role, once in the total
and once in the units, in the order of the listing, and every fault counts once among the instances
left out. There is nothing else in it.

The sums are from left to right, so the law holds bit for bit in binary floating point. Where the
charges come from is not said here.
-/

namespace ClusterBilling

variable {α : Type} [Amount α]

/-- What is charged for a category. -/
def InstanceCost.amount (c : InstanceCost α) : CostCategory → α
  | .compute => c.compute
  | .surcharge => c.surcharge
  | .storage => c.storage

/-- An instance that was listed, and what became of it. -/
structure Charge (α : Type) where
  /-- The role of the group. -/
  role : String
  /-- The volumes of the group. -/
  volumes : List Volume
  item : Instance
  outcome : Except Fault (InstanceCost α)

/-- What became of an instance of a group. -/
def ResourceGroup.charge (g : ResourceGroup) (cost : Instance × Except Fault (InstanceCost α)) :
    Charge α :=
  ⟨g.role, g.volumes, cost.1, cost.2⟩

namespace Charge

/-- The cost, if the instance was billed. -/
def cost? (c : Charge α) : Option (InstanceCost α) := c.outcome.toOption

/-- How the instance is listed if it was left out. -/
def unbilled? (c : Charge α) : Option UnbilledInstance :=
  match c.outcome with
  | .ok _ => none
  | .error fault => some ⟨c.item.id, c.role, fault.message⟩

/-- The costs that were billed. -/
def costs (charges : List (Charge α)) : List (InstanceCost α) := charges.filterMap cost?

/-- The costs that were billed in groups of a role. -/
def costsOf (role : String) (charges : List (Charge α)) : List (InstanceCost α) :=
  costs (charges.filter fun c => decide (c.role = role))

omit [Amount α] in
theorem costs_append (charges : List (Charge α)) (c : Charge α) :
    costs (charges ++ [c]) = costs charges ++ c.cost?.toList := by
  rw [costs, List.filterMap_append]
  cases known : c.cost? <;> simp [known, costs]

omit [Amount α] in
theorem costsOf_append (role : String) (charges : List (Charge α)) (c : Charge α) :
    costsOf role (charges ++ [c])
      = costsOf role charges ++ if c.role = role then c.cost?.toList else [] := by
  rw [costsOf, List.filter_append]
  by_cases own : c.role = role
  · simp [own, costs_append, costsOf]
  · simp [own, costsOf]

omit [Amount α] in
theorem unbilled_append (charges : List (Charge α)) (c : Charge α) :
    (charges ++ [c]).filterMap unbilled?
      = charges.filterMap unbilled? ++ c.unbilled?.toList := by
  rw [List.filterMap_append]
  cases known : c.unbilled? <;> simp [known]

end Charge

/-- **Whether an estimate accounts for charges** in groups of some roles. -/
structure ClusterEstimate.Accounts (e : ClusterEstimate α) (roles : List String)
    (charges : List (Charge α)) : Prop where
  keys : ∀ key, e.breakdown.has key ↔ key = Breakdown.totalKey
    ∨ ∃ role ∈ roles, ∃ category, key = Breakdown.key role category
  entries : ∀ role category, e.breakdown.category role category
    = Amount.running ((Charge.costsOf role charges).map fun cost => cost.amount category)
  total : e.breakdown.total = Amount.running
    ((Charge.costs charges).flatMap fun cost => [cost.compute, cost.surcharge, cost.storage])
  units : e.surchargeUnits
    = Amount.running ((Charge.costs charges).map InstanceCost.surchargeUnits)
  unbilled : e.unbilled = charges.filterMap Charge.unbilled?

namespace ClusterEstimate

variable {e : ClusterEstimate α} {roles : List String} {charges : List (Charge α)}

theorem accounts_start (cluster : ClusterId) :
    (start cluster : ClusterEstimate α).Accounts [] [] where
  keys := Breakdown.isFor_start
  entries _ _ := Breakdown.get_start _
  total := Breakdown.get_start _
  units := rfl
  unbilled := rfl

theorem Accounts.ensureRole (accounts : e.Accounts roles charges) (role : String) :
    (e.ensureRole role).Accounts (roles ++ [role]) charges where
  keys := Breakdown.IsFor.ensureRole accounts.keys role
  entries role' category := (Breakdown.get_ensureRole ..).trans (accounts.entries role' category)
  total := (Breakdown.get_ensureRole ..).trans accounts.total
  units := accounts.units
  unbilled := accounts.unbilled

/-- A cost is booked under the three categories of its role. -/
theorem get_addCost (e : ClusterEstimate α) (role : String) (cost : InstanceCost α)
    (role' : String) (category : CostCategory) :
    (e.addCost role cost).breakdown.category role' category
      = if role' = role then e.breakdown.category role' category + cost.amount category
        else e.breakdown.category role' category := by
  have own (category' : CostCategory) :
      Breakdown.key role' category = Breakdown.key role category'
        ↔ role' = role ∧ category = category' :=
    ⟨Breakdown.key_injective, fun same => same.1 ▸ same.2 ▸ rfl⟩
  simp only [addCost, Breakdown.category, Breakdown.get_add, Breakdown.key_ne_totalKey, false_or,
    own]
  by_cases same : role' = role
  · cases category <;> simp [same, InstanceCost.amount]
  · simp [same]

theorem total_addCost (e : ClusterEstimate α) (role : String) (cost : InstanceCost α) :
    (e.addCost role cost).breakdown.total
      = e.breakdown.total + cost.compute + cost.surcharge + cost.storage := by
  simp only [addCost, Breakdown.total, Breakdown.get_add, true_or, if_true]

theorem has_addCost (e : ClusterEstimate α) (role : String) (cost : InstanceCost α) (key : String) :
    (e.addCost role cost).breakdown.has key
      ↔ key = Breakdown.totalKey ∨ (∃ category, key = Breakdown.key role category)
        ∨ e.breakdown.has key := by
  simp only [addCost, Breakdown.has_add]
  tauto

theorem Accounts.addCost (accounts : e.Accounts roles charges) {c : Charge α}
    {cost : InstanceCost α} (billed : c.outcome = .ok cost) (known : c.role ∈ roles) :
    (e.addCost c.role cost).Accounts roles (charges ++ [c]) := by
  have own : c.cost?.toList = [cost] := by rw [Charge.cost?, billed]; rfl
  have none : c.unbilled?.toList = [] := by rw [Charge.unbilled?, billed]; rfl
  constructor
  case keys =>
    intro key
    rw [has_addCost, accounts.keys]
    constructor
    · rintro (total | ⟨category, same⟩ | before)
      · exact .inl total
      · exact .inr ⟨c.role, known, category, same⟩
      · exact before
    · exact fun before => .inr (.inr before)
  case entries =>
    intro role category
    rw [get_addCost, accounts.entries, Charge.costsOf_append, own]
    by_cases same : role = c.role
    · rw [if_pos same, if_pos same.symm, List.map_append, Amount.running_append]
      rfl
    · rw [if_neg same, if_neg (Ne.symm same), List.append_nil]
  case total =>
    rw [total_addCost, accounts.total, Charge.costs_append, own, List.flatMap_append,
      Amount.running_append]
    rfl
  case units =>
    rw [Charge.costs_append, own, List.map_append, Amount.running_append, ← accounts.units]
    rfl
  case unbilled =>
    rw [Charge.unbilled_append, none, List.append_nil, ClusterEstimate.addCost]
    exact accounts.unbilled

theorem Accounts.addUnbilled (accounts : e.Accounts roles charges) {c : Charge α} {fault : Fault}
    (failed : c.outcome = .error fault) :
    (e.addUnbilled c.role c.item fault).Accounts roles (charges ++ [c]) := by
  have none : c.cost?.toList = [] := by rw [Charge.cost?, failed]; rfl
  have own : c.unbilled?.toList = [⟨c.item.id, c.role, fault.message⟩] := by
    rw [Charge.unbilled?, failed]; rfl
  constructor
  case keys => exact accounts.keys
  case entries =>
    intro role category
    rw [Charge.costsOf_append, none, ite_self, List.append_nil]
    exact accounts.entries role category
  case total => rw [Charge.costs_append, none, List.append_nil]; exact accounts.total
  case units => rw [Charge.costs_append, none, List.append_nil]; exact accounts.units
  case unbilled => rw [Charge.unbilled_append, own, ← accounts.unbilled]; rfl

/-- An estimate that accounts for its charges is whole. -/
theorem Accounts.whole (accounts : e.Accounts roles charges) : e.breakdown.Whole := by
  have keys : Breakdown.IsFor e.breakdown roles := accounts.keys
  exact keys.whole

/-- **One more instance is accounted for**, billed or not. -/
theorem Accounts.addInstance (accounts : e.Accounts roles charges) (c : Charge α)
    (known : c.role ∈ roles) :
    (e.addInstance c.role c.item c.outcome).Accounts roles (charges ++ [c]) := by
  cases billed : c.outcome with
  | ok cost => exact accounts.addCost billed known
  | error fault => exact accounts.addUnbilled billed

/-- **One more group is accounted for.** -/
theorem Accounts.addGroup (accounts : e.Accounts roles charges) (g : ResourceGroup)
    (costs : List (Instance × Except Fault (InstanceCost α))) :
    (e.addGroup g.role costs).Accounts (roles ++ [g.role]) (charges ++ costs.map g.charge) := by
  have room := accounts.ensureRole g.role
  unfold ClusterEstimate.addGroup
  generalize e.ensureRole g.role = started at room
  clear accounts
  induction costs generalizing started charges with
  | nil => simpa using room
  | cons cost rest ih =>
    have more : (started.addInstance g.role cost.1 cost.2).Accounts (roles ++ [g.role])
        (charges ++ [g.charge cost]) :=
      room.addInstance (g.charge cost) (by simp [ResourceGroup.charge])
    simpa using ih _ more

end ClusterEstimate

namespace Biller

variable {σ : Type} (b : Biller σ α) (terms : BillingTerms)

/-- What becomes of the instances of some groups, in listing order. -/
def charges : List GroupInstances → Nat → PriceBook σ α → List (Charge α)
  | [], _, _ => []
  | g :: rest, steps, book =>
    let billed := b.groupCosts terms g steps book
    billed.costs.map g.group.charge ++ charges rest billed.steps billed.book

/-- **Every listed instance is charged once**, for its own group. -/
theorem items_charges (groups : List GroupInstances) (steps : Nat) (book : PriceBook σ α) :
    (b.charges terms groups steps book).map (fun c => (c.role, c.volumes, c.item))
      = groups.flatMap fun g => g.instances.map fun i => (g.group.role, g.group.volumes, i) := by
  induction groups generalizing steps book with
  | nil => rfl
  | cons g rest ih =>
    rw [charges, List.map_append, ih, List.map_map, List.flatMap_cons,
      ← b.map_fst_costs terms g steps book, List.map_map]
    rfl

/-- More groups are accounted for, one after the other. -/
theorem accounts_foldl (groups : List GroupInstances) (state : RunningEstimate σ α)
    {roles : List String} {before : List (Charge α)}
    (accounts : state.estimate.Accounts roles before) :
    (groups.foldl (b.billGroup terms) state).estimate.Accounts
      (roles ++ groups.map fun g => g.group.role)
      (before ++ b.charges terms groups state.steps state.book) := by
  induction groups generalizing state roles before with
  | nil => simpa [charges] using accounts
  | cons g rest ih =>
    have group := accounts.addGroup g.group (b.groupCosts terms g state.steps state.book).costs
    simpa [charges, billGroup] using ih (b.billGroup terms state g) group

/-- **An estimate accounts for its charges.** -/
theorem accounts_groupsEstimate (cluster : ClusterId) (groups : List GroupInstances) (steps : Nat)
    (book : PriceBook σ α) :
    (b.groupsEstimate terms cluster groups steps book).estimate.Accounts
      (groups.map fun g => g.group.role) (b.charges terms groups steps book) :=
  b.accounts_foldl terms groups ⟨.start cluster, steps, book⟩
    (ClusterEstimate.accounts_start cluster)

/-! ## Bills on their way -/

/-- A turn leaves a bill that accounts for what was charged. -/
theorem accounts_turnAt (place : Nat) (bill : RunningBill α) (book : PriceBook σ α) {roles : List String} {charges : List (Charge α)}
    (accounts : bill.estimate.Accounts roles charges) :
    ∃ roles charges, (b.turnAt terms place bill book).1.estimate.Accounts roles charges := by
  obtain ⟨estimate, current, left⟩ := bill
  cases current with
  | none => cases left <;> exact ⟨roles, charges, accounts⟩
  | some current =>
    obtain ⟨group, lines⟩ := current
    simp only [Biller.turnAt]
    split
    · next costs _ => exact ⟨_, _, accounts.addGroup group costs⟩
    · split <;> exact ⟨roles, charges, accounts⟩

/-- The rest of a bill accounts for what is charged. -/
theorem accounts_finishBill (bill : RunningBill α) (steps : Nat) (book : PriceBook σ α) {roles : List String}
    {charges : List (Charge α)} (accounts : bill.estimate.Accounts roles charges) :
    ∃ roles charges, (b.finishBill terms bill steps book).estimate.Accounts roles charges := by
  obtain ⟨estimate, current, left⟩ := bill
  cases current with
  | none => exact ⟨_, _, b.accounts_foldl terms left ⟨estimate, steps, book⟩ accounts⟩
  | some current =>
    obtain ⟨group, lines⟩ := current
    exact ⟨_, _, b.accounts_foldl terms left _
      (accounts.addGroup group (b.settleLines terms group.volumes lines book).1)⟩

end Biller

end ClusterBilling
