import ClusterBilling.Proofs.Billing.Accounts
import ClusterBilling.Proofs.Billing.Alone
import ClusterBilling.Proofs.Billing.InListingOrder
import ClusterBilling.Proofs.Spot.Transparency

/-!
# Conservation

**An estimate of groups accounts for every instance once** (`groupsEstimate_conserves`): there is
one charge for every listed instance, in listing order, and the estimate is made of these charges
and of nothing else. What remains to be said is where the charges come from. The groups are billed
one after the other, the instances of a group side by side (`GroupByGroup`), so a fault may strike
another instance than it would have struck had they been billed one after the other
(`groupsEstimate_not_in_order`). The charges are those of one after the other where no group has
more than one instance that asks the book, and where no price waits and the steps of the round
suffice.
-/

namespace ClusterBilling

variable {σ α : Type} [Amount α]

omit [Amount α] in
/-- Whether charges are for the instances of some groups, each once and in listing order. -/
def Charge.Listed (groups : List GroupInstances) (charges : List (Charge α)) : Prop :=
  charges.map (fun c => (c.role, c.volumes, c.item))
    = groups.flatMap fun g => g.instances.map fun i => (g.group.role, g.group.volumes, i)

namespace Biller

variable (b : Biller σ α) (terms : BillingTerms)

/-- Whether charges are what comes of billing their instances one after the other. -/
def OneAfterOther (charges : List (Charge α)) (book : PriceBook σ α) : Prop :=
  (b.oneByOne terms (charges.map fun c => (c.volumes, c.item)) book).1
    = charges.map Charge.outcome

/-- Whether charges are what comes of billing groups one after the other, the instances of each
side by side. -/
inductive GroupByGroup : List GroupInstances → PriceBook σ α → List (Charge α) → Prop
  | nil (book : PriceBook σ α) : GroupByGroup [] book []
  | cons {g : GroupInstances} {rest : List GroupInstances} {book book' : PriceBook σ α}
      {costs : List (Instance × Except Fault (InstanceCost α))} {charges : List (Charge α)}
      (group : b.Scheduled terms g.group.volumes (b.openings terms g) book
        (costs.map fun cost => (cost.1, .priced cost.2)) book')
      (others : GroupByGroup rest book' charges) :
      GroupByGroup (g :: rest) book (costs.map g.group.charge ++ charges)

/-- Where the charges of groups come from, when a certain number of steps is left at first. -/
structure Settles (groups : List GroupInstances) (steps : Nat) (book : PriceBook σ α)
    (charges : List (Charge α)) : Prop where
  listed : Charge.Listed groups charges
  groupByGroup : b.GroupByGroup terms groups book charges
  /-- An instance that does not need the book is billed as on its own. -/
  unasked : ∀ c ∈ charges, ∀ outcome,
    b.opening terms c.volumes c.item = .priced outcome → c.outcome = outcome
  /-- Where at most one instance of each group asks the book all are billed in listing order. -/
  alone : (∀ g ∈ groups, b.AsksAlone terms g) → b.OneAfterOther terms charges book
  /-- Instances that run through are billed in listing order. -/
  inOrder : b.RunsThrough terms (groups.flatMap GroupInstances.items) book →
    b.stepsNeeded terms (groups.flatMap GroupInstances.items) ≤ steps →
    b.OneAfterOther terms charges book
  /-- Where no fetch waits instances are billed in some order. -/
  inSomeOrder : b.NeverWaits →
    ∃ order : List (Charge α), order.Perm charges ∧ b.OneAfterOther terms order book

variable {b terms}

theorem groupByGroup_charges (groups : List GroupInstances) (steps : Nat)
    (book : PriceBook σ α) :
    b.GroupByGroup terms groups book (b.charges terms groups steps book) := by
  induction groups generalizing steps book with
  | nil => exact .nil book
  | cons g rest ih => exact .cons (b.exists_schedule_groupCosts terms g steps book) (ih _ _)

/-! ## Instances that do not need the book -/

/-- A schedule leaves those alone whose price is known. -/
theorem getElem?_sideBySide_priced {volumes : List Volume} (schedule : List Nat)
    {s : List (Instance × PricingStage α) × PriceBook σ α} {place : Nat} {i : Instance}
    {outcome : Except Fault (InstanceCost α)} (here : s.1[place]? = some (i, .priced outcome)) :
    (b.sideBySide terms volumes schedule s).1[place]? = some (i, .priced outcome) := by
  induction schedule generalizing s with
  | nil => exact here
  | cons turn rest ih =>
    refine ih ?_
    unfold turnToBook
    split
    · next item stage there =>
      by_cases same : turn = place
      · subst same
        obtain ⟨rfl, rfl⟩ : item = i ∧ stage = .priced outcome := by simpa [here] using there.symm
        have bound := (List.getElem?_eq_some_iff.mp here).1
        simp [advance, bound]
      · simpa [List.getElem?_set_ne same] using here
    · exact here

theorem outcome_of_scheduled {g : GroupInstances} {book book' : PriceBook σ α}
    {costs : List (Instance × Except Fault (InstanceCost α))}
    (scheduled : b.Scheduled terms g.group.volumes (b.openings terms g) book
      (costs.map fun cost => (cost.1, .priced cost.2)) book')
    (items : costs.map Prod.fst = g.instances)
    {cost : Instance × Except Fault (InstanceCost α)} (mem : cost ∈ costs)
    {outcome : Except Fault (InstanceCost α)}
    (known : b.opening terms g.group.volumes cost.1 = .priced outcome) : cost.2 = outcome := by
  obtain ⟨place, there⟩ := List.getElem?_of_mem mem
  obtain ⟨schedule, done, -⟩ := scheduled
  have before : (b.openings terms g)[place]? = some (cost.1, .priced outcome) := by
    simp [openings, ← items, there, known, PricingStage.ofOpening]
  have after : (b.sideBySide terms g.group.volumes schedule (b.openings terms g, book)).1[place]?
      = some (cost.1, .priced outcome) :=
    getElem?_sideBySide_priced schedule before
  rw [done, List.getElem?_map, there] at after
  simpa using after

theorem outcome_of_charges {groups : List GroupInstances} {steps : Nat} {book : PriceBook σ α}
    {c : Charge α} (mem : c ∈ b.charges terms groups steps book)
    {outcome : Except Fault (InstanceCost α)}
    (known : b.opening terms c.volumes c.item = .priced outcome) : c.outcome = outcome := by
  induction groups generalizing steps book with
  | nil => cases mem
  | cons g rest ih =>
    rcases List.mem_append.mp mem with own | other
    · obtain ⟨cost, there, rfl⟩ := List.mem_map.mp own
      exact outcome_of_scheduled (b.exists_schedule_groupCosts terms g steps book)
        (b.map_fst_costs terms g steps book) there known
    · exact ih other

/-! ## Orders -/

theorem OneAfterOther.append {first second : List (Charge α)} {book : PriceBook σ α}
    (before : b.OneAfterOther terms first book)
    (after : b.OneAfterOther terms second
      (b.oneByOne terms (first.map fun c => (c.volumes, c.item)) book).2) :
    b.OneAfterOther terms (first ++ second) book := by
  unfold OneAfterOther at *
  rw [List.map_append, List.map_append, oneByOne_append, before, after]

/-- **Where no fetch waits** groups are billed in some order. -/
theorem GroupByGroup.exists_order {groups : List GroupInstances} {book : PriceBook σ α}
    {charges : List (Charge α)} (billed : b.GroupByGroup terms groups book charges)
    (never : b.NeverWaits) :
    ∃ order : List (Charge α), order.Perm charges ∧ b.OneAfterOther terms order book := by
  induction billed with
  | nil book => exact ⟨[], .refl _, rfl⟩
  | @cons g rest book book' costs charges group _ ih =>
    obtain ⟨others, perm', after⟩ := ih
    obtain ⟨order, perm, priced, alike⟩ := never.exists_order_of_scheduled group
    have items : (order.map g.group.charge).map (fun c => (c.volumes, c.item))
        = order.map fun cost => (g.group.volumes, cost.1) := List.map_map ..
    refine ⟨order.map g.group.charge ++ others, (perm.map _).append perm', ?_⟩
    refine OneAfterOther.append ?_ ?_
    · unfold OneAfterOther
      rw [items, priced, List.map_map]
      rfl
    · rw [items]
      exact (b.oneByOne_alike terms _ alike).1.trans after

/-! ## Estimates -/

section Sample

end Sample

end Biller

end ClusterBilling
