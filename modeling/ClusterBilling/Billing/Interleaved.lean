import ClusterBilling.Billing.Cluster

/-!
# Billing with others between

While one cluster is listed and billed, others may be, over the same inventory and the same price
book: between one call of the inventory and the next, and between one page of spot prices and the
next. So the listing of a cluster goes on call by call here (`Inventory.layoutCall`), and its bill
from question to question (`Biller.turnAt`), each by the instance that is given its turn.

Whoever is left alone comes to the end at once, of the listing (`Inventory.layoutFrom`) or of the
bill (`Biller.finishBill`). For one that has not begun these are the whole listing and the whole
estimate.
-/

namespace ClusterBilling

/-- How far the listing of a cluster has come. -/
inductive LayoutStage
  /-- The cluster is to be listed by groups. -/
  | groups
  /-- The cluster refused that and is to be listed by fleets. -/
  | fleets
  /-- The instances of some groups are listed, those of others are to be. -/
  | instances (listing : Listing) (listed : List GroupInstances) (left : List ResourceGroup)

namespace LayoutStage

/-- The groups with their instances, once all are listed. -/
def listed? : LayoutStage → Option (List GroupInstances)
  | .instances _ listed [] => some listed
  | _ => none

end LayoutStage

namespace Inventory

variable {ι : Type}

/-- **One call of a listing.** -/
def layoutCall (inventory : Inventory ι) (cluster : ClusterId) : LayoutStage → Asked ι LayoutStage
  | .groups => fun s =>
    match inventory.groups cluster s with
    | (.ok groups, s) => (.ok (.instances .groups [] groups), s)
    | (.error (.unsupportedListing _ _), s) => (.ok .fleets, s)
    | (.error fault, s) => (.error fault, s)
  | .fleets =>
    (inventory.fleets cluster).andThen fun fleets => .answer (.instances .fleets [] fleets)
  | .instances listing listed [] => .answer (.instances listing listed [])
  | .instances listing listed (group :: left) =>
    (inventory.withInstances cluster listing group).andThen fun withInstances =>
      .answer (.instances listing (listed ++ [withInstances]) left)

/-- The rest of a listing. -/
def layoutFrom (inventory : Inventory ι) (cluster : ClusterId) :
    LayoutStage → Asked ι (List GroupInstances)
  | .groups => inventory.layout cluster
  | .fleets =>
    (inventory.fleets cluster).andThen fun fleets =>
      .each (inventory.withInstances cluster .fleets) fleets
  | .instances listing listed left =>
    (Asked.each (inventory.withInstances cluster listing) left).andThen fun more =>
      .answer (listed ++ more)

end Inventory

/-- How far the pricing of an instance has come, wherever it stands and whatever time it is. -/
inductive PricingStage (α : Type)
  /-- The book is still to be asked. -/
  | asking (fetch : SpotFetch α)
  /-- A fetch is to go on. -/
  | fetching (fetch : SpotFetch α)
  | priced (outcome : Except Fault (InstanceCost α))

namespace PricingStage

variable {α : Type}

/-- The stage of an instance that begins. -/
def ofOpening : Pricing α (InstanceCost α) → PricingStage α
  | .priced outcome => .priced outcome
  | .waiting fetch => .asking fetch

/-- The stage that an answer of the book leads to. -/
def ofAnswer : Pricing α (InstanceCost α) → PricingStage α
  | .priced outcome => .priced outcome
  | .waiting fetch => .fetching fetch

end PricingStage

/-- What some instances cost, once all of them are priced. -/
def costsOf? {α : Type} : List (Instance × PricingStage α) →
    Option (List (Instance × Except Fault (InstanceCost α)))
  | [] => some []
  | (i, .priced outcome) :: rest => (costsOf? rest).map ((i, outcome) :: ·)
  | _ :: _ => none

/-- A bill on its way through the groups of a cluster. -/
structure RunningBill (α : Type) where
  /-- The estimate of the groups before. -/
  estimate : ClusterEstimate α
  /-- The group that is billed now, and how far its instances have come. -/
  current : Option (ResourceGroup × List (Instance × PricingStage α))
  /-- The groups to come. -/
  left : List GroupInstances

namespace RunningBill

variable {α : Type}

/-- The bill of a cluster with certain groups before the first of them. -/
def start [Amount α] (cluster : ClusterId) (groups : List GroupInstances) : RunningBill α :=
  ⟨.start cluster, none, groups⟩

/-- The estimate, once all groups are billed. -/
def total? : RunningBill α → Option (ClusterEstimate α)
  | ⟨estimate, none, []⟩ => some estimate
  | _ => none

theorem estimate_of_total? {bill : RunningBill α} {estimate : ClusterEstimate α}
    (total : bill.total? = some estimate) : bill.estimate = estimate := by
  obtain ⟨own, current, left⟩ := bill
  cases current <;> cases left <;> cases total
  rfl

end RunningBill

namespace Biller

variable {σ α : Type} [Amount α]

/-- The instances of a group before any of them has turned to the book. -/
def openings (b : Biller σ α) (terms : BillingTerms) (g : GroupInstances) :
    List (Instance × PricingStage α) :=
  g.instances.map fun i => (i, .ofOpening (b.opening terms g.group.volumes i))

/-- **One question of an instance to the book**: for its price, or for one more page. -/
def askOnce (b : Biller σ α) (terms : BillingTerms) (volumes : List Volume) (i : Instance) :
    PricingStage α → PriceBook σ α → PricingStage α × PriceBook σ α
  | .asking fetch, book =>
    let (compute, book) := book.look b.spot b.retry fetch
    let range := fetch.request
    (.ofAnswer (compute.map (b.withExtras terms volumes i range.start range.stop)), book)
  | .fetching fetch, book =>
    let (compute, book) := book.askPage b.spot b.retry fetch
    let range := fetch.request
    (.ofAnswer (compute.map (b.withExtras terms volumes i range.start range.stop)), book)
  | .priced outcome, book => (.priced outcome, book)

/-- **One turn of a bill.** The next group is begun; or the instance at a place of its listing turns
to the book; or the group is closed, all of its instances being priced. -/
def turnAt (b : Biller σ α) (terms : BillingTerms) (place : Nat) (bill : RunningBill α)
    (book : PriceBook σ α) : RunningBill α × PriceBook σ α :=
  match bill.current with
  | none =>
    match bill.left with
    | [] => (bill, book)
    | g :: left => ({ bill with current := some (g.group, b.openings terms g), left := left }, book)
  | some (group, lines) =>
    match costsOf? lines with
    | some costs =>
      ({ bill with estimate := bill.estimate.addGroup group.role costs, current := none }, book)
    | none =>
      match lines[place]? with
      | some (i, stage) =>
        let (stage, book) := b.askOnce terms group.volumes i stage book
        ({ bill with current := some (group, lines.set place (i, stage)) }, book)
      | none => (bill, book)

/-- What an instance costs that goes on alone. -/
def settleLine (b : Biller σ α) (terms : BillingTerms) (volumes : List Volume) (i : Instance) :
    PricingStage α → PriceBook σ α → Except Fault (InstanceCost α) × PriceBook σ α
  | .asking fetch, book =>
    let range := fetch.request
    let (compute, book) := (book.enter range.market).settle b.spot b.retry fetch
    (compute.map (b.withExtras terms volumes i range.start range.stop), book)
  | .fetching fetch, book =>
    let range := fetch.request
    let (compute, book) := book.await b.spot b.retry fetch
    (compute.map (b.withExtras terms volumes i range.start range.stop), book)
  | .priced outcome, book => (outcome, book)

/-- What instances cost that go on one after the other. -/
def settleLines (b : Biller σ α) (terms : BillingTerms) (volumes : List Volume) :
    List (Instance × PricingStage α) → PriceBook σ α →
      List (Instance × Except Fault (InstanceCost α)) × PriceBook σ α
  | [], book => ([], book)
  | (i, stage) :: rest, book =>
    let (outcome, book) := b.settleLine terms volumes i stage book
    let (others, book) := settleLines b terms volumes rest book
    ((i, outcome) :: others, book)

/-- The rest of a bill, when a certain number of steps is left. -/
def finishBill (b : Biller σ α) (terms : BillingTerms) (bill : RunningBill α) (steps : Nat)
    (book : PriceBook σ α) : RunningEstimate σ α :=
  match bill.current with
  | none => bill.left.foldl (b.billGroup terms) ⟨bill.estimate, steps, book⟩
  | some (group, lines) =>
    let (costs, book) := b.settleLines terms group.volumes lines book
    bill.left.foldl (b.billGroup terms)
      ⟨bill.estimate.addGroup group.role costs, steps, book⟩

end Biller

end ClusterBilling
