import ClusterBilling.Billing.Turn

/-!
# The costs of a group

The instances of a group are billed in rounds. A round gives turns to instances that are ready for
one, and has `roundSteps` steps for all of them. An instance is ready at first, and again when it
is let in at a gate, when the steps of its round ran out, or when it wakes up. When nobody is ready
the clock goes on to the next wait that ends.

In a small group a round goes through the listing once. In a large one whoever becomes ready goes
to the end of a queue, and the round takes from its head: those let in come as it happens, those
whose steps ran out the latest first, those who wake up in the order in which they fell asleep.
What a round does not come to, the next one begins with.

**Every instance has exactly one outcome, in listing order** (`map_fst_costs`). The rounds go on
as long as one leaves less to do; what they would leave goes on one instance after the other.
-/

namespace ClusterBilling

/-- An instance on the way to its cost. -/
structure InstanceBilling (α : Type) where
  item : Instance
  stage : BillingStage α

/-- A group on the way to its costs. An instance is known by its place in the listing. -/
structure GroupBilling (σ α : Type) where
  lines : List (InstanceBilling α)
  desk : PriceDesk σ α
  /-- The time in milliseconds. -/
  now : Nat
  /-- The steps that are left in the round. -/
  steps : Nat
  /-- Those who are ready, in the order in which they became so. -/
  ready : List Nat
  /-- Those whom the round had no steps for, the latest first. -/
  paused : List Nat
  /-- Those who sleep, with the end of the sleep, in the order in which they fell asleep. -/
  asleep : List (Nat × Nat)

namespace InstanceBilling

variable {α : Type}

/-- The line at another stage. -/
def moved (stage : BillingStage α) (line : InstanceBilling α) : InstanceBilling α :=
  { line with stage := stage }

/-- The line of one who is let in. -/
def letIn (line : InstanceBilling α) : InstanceBilling α := { line with stage := line.stage.letIn }

end InstanceBilling

namespace GroupBilling

variable {σ α : Type}

/-- The steps of a round. -/
def roundSteps : Nat := 128

/-- The most instances of a small group. -/
def smallSize : Nat := 30

/-- A group before the first round. -/
def start [Amount α] (b : Biller σ α) (terms : BillingTerms) (g : GroupInstances) (steps : Nat)
    (book : PriceBook σ α) : GroupBilling σ α where
  lines := g.instances.map fun i => ⟨i, .listed (b.opening terms g.group.volumes i)⟩
  desk := .start book
  now := 0
  steps := steps
  ready := List.range g.instances.length
  paused := []
  asleep := []

/-- The instances in listing order. -/
def items (g : GroupBilling σ α) : List Instance := g.lines.map InstanceBilling.item

/-- A measure of what is left to do. -/
def weight (g : GroupBilling σ α) (b : Biller σ α) : Nat :=
  natSum (g.lines.map fun line => line.stage.weight b.spot b.retry g.desk.book.source)

/-- The instances that are not billed yet. -/
def unbilled (g : GroupBilling σ α) : Nat := g.lines.countP fun line => !line.stage.isBilled

/-- The lines of those at some places are let in. -/
def letIn (lines : List (InstanceBilling α)) (places : List Nat) : List (InstanceBilling α) :=
  places.foldl (fun lines place => lines.modify place .letIn) lines

theorem map_item_modify (lines : List (InstanceBilling α)) (place : Nat)
    (f : InstanceBilling α → InstanceBilling α) (kept : ∀ line, (f line).item = line.item) :
    (lines.modify place f).map InstanceBilling.item = lines.map InstanceBilling.item := by
  induction lines generalizing place with
  | nil => cases place <;> rfl
  | cons line rest ih =>
    cases place with
    | zero => simp [kept]
    | succ place => simp [ih]

theorem map_item_letIn (lines : List (InstanceBilling α)) (places : List Nat) :
    (letIn lines places).map InstanceBilling.item = lines.map InstanceBilling.item := by
  induction places generalizing lines with
  | nil => rfl
  | cons place rest ih => exact (ih _).trans (map_item_modify _ _ _ fun _ => rfl)

/-- The group after the turn of an instance. -/
def after (g : GroupBilling σ α) (place : Nat) (turn : TurnEnd σ α) : GroupBilling σ α :=
  { g with
    lines := letIn (g.lines.modify place (.moved turn.stage)) turn.admitted
    desk := turn.desk
    steps := turn.steps
    ready := g.ready.erase place ++ turn.admitted
    paused := if turn.stage.isPaused g.now then place :: g.paused else g.paused
    asleep :=
      if turn.stage.isPaused g.now then g.asleep
      else g.asleep ++ (turn.stage.wake?.map (·, place)).toList }

/-- A turn changes how far instances have come, not what they are. -/
theorem items_after (g : GroupBilling σ α) (place : Nat) (turn : TurnEnd σ α) :
    (g.after place turn).items = g.items :=
  (map_item_letIn _ _).trans (map_item_modify _ _ _ fun _ => rfl)

/-- **The next round**: those whom the last one had no steps for are ready, or else those who
wake up next. -/
def nextRound (g : GroupBilling σ α) : GroupBilling σ α :=
  if g.ready.isEmpty && g.paused.isEmpty then
    let now := ((g.asleep.map Prod.fst).min?).getD g.now
    let (due, asleep) := g.asleep.partition fun sleep => sleep.1 ≤ now
    { g with now := now, steps := roundSteps, ready := due.map Prod.snd, asleep := asleep }
  else { g with steps := roundSteps, ready := g.ready ++ g.paused, paused := [] }

theorem items_nextRound (g : GroupBilling σ α) : g.nextRound.items = g.items := by
  unfold nextRound
  split <;> rfl

theorem weight_nextRound (g : GroupBilling σ α) (b : Biller σ α) :
    g.nextRound.weight b = g.weight b := by
  unfold nextRound
  split <;> rfl

end GroupBilling

namespace Biller

variable {σ α : Type} [Amount α]

/-- Gives an instance its turn. -/
def giveTurn (b : Biller σ α) (terms : BillingTerms) (volumes : List Volume)
    (g : GroupBilling σ α) (place : Nat) : GroupBilling σ α :=
  match g.lines[place]? with
  | some line =>
    g.after place (b.turn terms volumes g.now place line.item line.stage g.desk g.steps)
  | none => g

/-- The round of a small group. -/
def roundInOrder (b : Biller σ α) (terms : BillingTerms) (volumes : List Volume)
    (g : GroupBilling σ α) : GroupBilling σ α :=
  (List.range g.lines.length).foldl
    (fun g place => if g.ready.contains place then b.giveTurn terms volumes g place else g) g

/-- The round of a large group with so many instances that are not billed. It also ends with as
many turns, `turns` of which are left, in which nobody is billed. -/
def roundInQueue (b : Biller σ α) (terms : BillingTerms) (volumes : List Volume)
    (unbilled turns : Nat) (g : GroupBilling σ α) : GroupBilling σ α :=
  match turns, g.ready with
  | 0, _ | _, [] => g
  | turns + 1, place :: _ =>
    let next := b.giveTurn terms volumes g place
    if next.unbilled < unbilled then
      roundInQueue b terms volumes next.unbilled next.unbilled next
    else roundInQueue b terms volumes unbilled turns next
termination_by (unbilled, turns)
decreasing_by
  · exact .left _ _ ‹_›
  · exact .right _ (Nat.lt_succ_self _)

/-- **A round.** -/
def round (b : Biller σ α) (terms : BillingTerms) (volumes : List Volume)
    (g : GroupBilling σ α) : GroupBilling σ α :=
  if g.lines.length ≤ GroupBilling.smallSize then b.roundInOrder terms volumes g
  else b.roundInQueue terms volumes g.unbilled g.unbilled g

/-- **All rounds.** -/
def rounds (b : Biller σ α) (terms : BillingTerms) (volumes : List Volume)
    (g : GroupBilling σ α) : GroupBilling σ α :=
  let next := b.round terms volumes g
  if _less : next.weight b < g.weight b then
    if next.unbilled = 0 then next else rounds b terms volumes next.nextRound
  else next
termination_by g.weight b
decreasing_by exact (GroupBilling.weight_nextRound _ b).symm ▸ _less

/-- What an instance costs that goes on alone, after all waits. -/
def finish (b : Biller σ α) (terms : BillingTerms) (volumes : List Volume)
    (line : InstanceBilling α) (book : PriceBook σ α) :
    Except Fault (InstanceCost α) × PriceBook σ α :=
  match line.stage with
  | .billed outcome | .listed (.priced outcome) => (outcome, book)
  | .listed (.waiting fetch) | .queued _ fetch | .admitted _ fetch =>
    let (compute, book) := book.settle b.spot b.retry fetch
    let range := fetch.request
    (compute.map (b.withExtras terms volumes line.item range.start range.stop), book)
  | .fetching _ fetch | .asleep _ fetch =>
    let (compute, book) := book.await b.spot b.retry fetch
    let range := fetch.request
    (compute.map (b.withExtras terms volumes line.item range.start range.stop), book)

/-- The instances with what they cost; those without a cost go on one after the other. -/
def outcomes (b : Biller σ α) (terms : BillingTerms) (volumes : List Volume) :
    List (InstanceBilling α) → PriceBook σ α →
      List (Instance × Except Fault (InstanceCost α)) × PriceBook σ α
  | [], book => ([], book)
  | line :: rest, book =>
    let (outcome, book) := b.finish terms volumes line book
    let (others, book) := outcomes b terms volumes rest book
    ((line.item, outcome) :: others, book)

/-- What a group costs. -/
structure GroupCosts (σ α : Type) where
  /-- The instances with what they cost, in listing order. -/
  costs : List (Instance × Except Fault (InstanceCost α))
  book : PriceBook σ α
  /-- The steps that are left in the last round. -/
  steps : Nat

/-- **What the instances of a group cost**, when a certain number of steps is left at first. -/
def groupCosts (b : Biller σ α) (terms : BillingTerms) (g : GroupInstances) (steps : Nat)
    (book : PriceBook σ α) : GroupCosts σ α :=
  let volumes := g.group.volumes
  let billed := b.rounds terms volumes (.start b terms g steps book)
  let (costs, book) := b.outcomes terms volumes billed.lines billed.desk.book
  ⟨costs, book, billed.steps⟩

theorem map_fst_outcomes (b : Biller σ α) (terms : BillingTerms) (volumes : List Volume)
    (lines : List (InstanceBilling α)) (book : PriceBook σ α) :
    (b.outcomes terms volumes lines book).1.map Prod.fst = lines.map InstanceBilling.item := by
  induction lines generalizing book with
  | nil => rfl
  | cons line rest ih => exact congrArg _ (ih _)

theorem items_giveTurn (b : Biller σ α) (terms : BillingTerms) (volumes : List Volume)
    (g : GroupBilling σ α) (place : Nat) : (b.giveTurn terms volumes g place).items = g.items := by
  unfold giveTurn
  split
  · exact g.items_after ..
  · rfl

theorem items_roundInOrder (b : Biller σ α) (terms : BillingTerms) (volumes : List Volume)
    (g : GroupBilling σ α) : (b.roundInOrder terms volumes g).items = g.items := by
  unfold roundInOrder
  induction List.range g.lines.length generalizing g with
  | nil => rfl
  | cons place rest ih =>
    refine (ih _).trans ?_
    by_cases ready : g.ready.contains place
    · simp only [ready, if_true]
      exact b.items_giveTurn ..
    · simp only [ready, Bool.false_eq_true, if_false]

theorem items_roundInQueue (b : Biller σ α) (terms : BillingTerms) (volumes : List Volume)
    (unbilled turns : Nat) (g : GroupBilling σ α) :
    (b.roundInQueue terms volumes unbilled turns g).items = g.items := by
  fun_induction roundInQueue b terms volumes unbilled turns g with
  | case1 => rfl
  | case2 => rfl
  | case3 unbilled turns g place _ _ next billed ih => exact ih.trans (b.items_giveTurn ..)
  | case4 unbilled turns g place _ _ next billed ih => exact ih.trans (b.items_giveTurn ..)

theorem items_rounds (b : Biller σ α) (terms : BillingTerms) (volumes : List Volume)
    (g : GroupBilling σ α) : (b.rounds terms volumes g).items = g.items := by
  have round (g : GroupBilling σ α) : (b.round terms volumes g).items = g.items := by
    unfold Biller.round
    split
    · exact b.items_roundInOrder ..
    · exact b.items_roundInQueue ..
  fun_induction rounds b terms volumes g with
  | case1 g next less settled => exact round g
  | case2 g next less unsettled ih => exact (ih.trans next.items_nextRound).trans (round g)
  | case3 g next stuck => exact round g

/-- **Every instance is billed once**, in listing order. -/
theorem map_fst_costs (b : Biller σ α) (terms : BillingTerms) (g : GroupInstances) (steps : Nat)
    (book : PriceBook σ α) :
    (b.groupCosts terms g steps book).costs.map Prod.fst = g.instances := by
  refine ((b.map_fst_outcomes ..).trans (b.items_rounds ..)).trans ?_
  exact (List.map_map ..).trans (List.map_id _)

end Biller

end ClusterBilling
