import ClusterBilling.Proofs.Billing.SideBySide
import ClusterBilling.Proofs.Spot.Paging

/-!
# Instances billed one after the other

An instance that need not wait for another attempt is priced as soon as it turns to the book
(`firstAnswer_eq`). Where no fetch ever waits, **the costs of a group are those of its instances
billed one after the other**, in some order (`NeverWaits.exists_order_of_scheduled`): nothing comes
between the question of an instance and its price.
-/

namespace ClusterBilling

/-- The instances of a group, each with the volumes of the group. -/
def GroupInstances.items (g : GroupInstances) : List (List Volume × Instance) :=
  g.instances.map (g.group.volumes, ·)

namespace Biller

variable {σ α : Type} [Amount α] (b : Biller σ α) (terms : BillingTerms)

/-- Whether every fetch ends at once, for good or ill. -/
def NeverWaits : Prop :=
  ∀ market start stop s later s',
    (SpotFetch.start b.retry market start stop).proceed b.spot b.retry s ≠ (.waiting later, s')

/-- Instances, each with the volumes of its group, billed on their own one after the other. -/
def oneByOne : List (List Volume × Instance) → PriceBook σ α →
    List (Except Fault (InstanceCost α)) × PriceBook σ α
  | [], book => ([], book)
  | (volumes, i) :: rest, book =>
    let (outcome, book) := b.instanceCost terms volumes i book
    let (others, book) := oneByOne rest book
    (outcome :: others, book)

theorem oneByOne_append (first second : List (List Volume × Instance)) (book : PriceBook σ α) :
    b.oneByOne terms (first ++ second) book
      = ((b.oneByOne terms first book).1
          ++ (b.oneByOne terms second (b.oneByOne terms first book).2).1,
        (b.oneByOne terms second (b.oneByOne terms first book).2).2) := by
  induction first generalizing book with
  | nil => rfl
  | cons one rest ih => simp [oneByOne, ih]

/-- Books that answer alike bill instances alike. -/
theorem oneByOne_alike (items : List (List Volume × Instance)) {book book' : PriceBook σ α}
    (alike : book.Alike book') :
    (b.oneByOne terms items book).1 = (b.oneByOne terms items book').1
      ∧ (b.oneByOne terms items book).2.Alike (b.oneByOne terms items book').2 := by
  induction items generalizing book book' with
  | nil => exact ⟨rfl, alike⟩
  | cons one rest ih =>
    obtain ⟨volumes, i⟩ := one
    have here := b.instanceCost_alike terms volumes alike i
    have others := ih here.2
    simp only [oneByOne, here.1, others.1, true_and]
    exact others.2

/-- Instances with what they cost when they are billed one after the other. -/
def costsInOrder (volumes : List Volume) (items : List Instance) (book : PriceBook σ α) :
    List (Instance × Except Fault (InstanceCost α)) :=
  items.zip (b.oneByOne terms (items.map (volumes, ·)) book).1

theorem costsInOrder_cons (volumes : List Volume) (i : Instance) (rest : List Instance)
    (book : PriceBook σ α) :
    b.costsInOrder terms volumes (i :: rest) book
      = (i, (b.instanceCost terms volumes i book).1)
        :: b.costsInOrder terms volumes rest (b.instanceCost terms volumes i book).2 :=
  rfl

/-- Whether the price of an instance is asked of the book. -/
def asksBook (volumes : List Volume) (i : Instance) : Bool :=
  match b.opening terms volumes i with
  | .priced _ => false
  | .waiting _ => true

/-- The stage and the book after an instance turns to the book for the first time. -/
def firstAnswer (volumes : List Volume) (i : Instance) (book : PriceBook σ α) :
    PricingStage α × PriceBook σ α :=
  b.advance terms volumes i (.ofOpening (b.opening terms volumes i), book)

/-- Whether instances billed one after the other run through: the price of none of them waits. -/
def RunsThrough : List (List Volume × Instance) → PriceBook σ α → Prop
  | [], _ => True
  | (volumes, i) :: rest, book =>
    (∃ outcome, (b.firstAnswer terms volumes i book).1 = .priced outcome)
      ∧ RunsThrough rest (b.instanceCost terms volumes i book).2

theorem firstAnswer_alike {book book' : PriceBook σ α} (alike : book.Alike book')
    (volumes : List Volume) (i : Instance) :
    (b.firstAnswer terms volumes i book).1 = (b.firstAnswer terms volumes i book').1
      ∧ (b.firstAnswer terms volumes i book).2.Alike (b.firstAnswer terms volumes i book').2 :=
  b.advance_alike terms volumes alike i _

variable {b terms}

/-- **An instance that is priced by its first question** is priced as on its own. -/
theorem firstAnswer_eq {volumes : List Volume} {i : Instance} {book : PriceBook σ α}
    (known : ∃ outcome, (b.firstAnswer terms volumes i book).1 = .priced outcome) :
    b.firstAnswer terms volumes i book
      = (.priced (b.instanceCost terms volumes i book).1,
        (b.instanceCost terms volumes i book).2) := by
  obtain ⟨outcome, priced⟩ := known
  unfold instanceCost
  unfold firstAnswer at priced ⊢
  cases opens : b.opening terms volumes i with
  | priced known => rfl
  | waiting fetch =>
    simp only [opens, PricingStage.ofOpening, advance, quote, PriceBook.settle] at priced ⊢
    cases answered : book.price b.spot b.retry fetch with
    | mk pricing after =>
      cases pricing with
      | priced known => rfl
      | waiting later => simp [answered, Pricing.map, PricingStage.ofAnswer] at priced

/-- What is asked of the book for an instance is asked for the first time. -/
theorem start_of_opening {volumes : List Volume} {i : Instance} {fetch : SpotFetch α}
    (waits : b.opening terms volumes i = .waiting fetch) :
    ∃ start stop, fetch = .start b.retry (i.market terms) start stop := by
  unfold opening at waits
  split at waits
  · cases waits
  · cases waits
  · next start stop _ =>
    split at waits
    · cases waits
    · cases waits
      exact ⟨start, stop, rfl⟩

/-- Where no fetch waits the first question of an instance is answered. -/
theorem NeverWaits.firstAnswer (never : b.NeverWaits) (terms : BillingTerms) (volumes : List Volume)
    (i : Instance) (book : PriceBook σ α) :
    b.firstAnswer terms volumes i book
      = (.priced (b.instanceCost terms volumes i book).1,
        (b.instanceCost terms volumes i book).2) := by
  apply firstAnswer_eq
  unfold Biller.firstAnswer
  cases opens : b.opening terms volumes i with
  | priced outcome => exact ⟨outcome, rfl⟩
  | waiting fetch =>
    obtain ⟨start, stop, rfl⟩ := start_of_opening opens
    simp only [PricingStage.ofOpening, advance, quote]
    cases answered : book.price b.spot b.retry (.start b.retry (i.market terms) start stop) with
    | mk pricing after =>
      cases pricing with
      | priced outcome => exact ⟨_, rfl⟩
      | waiting later =>
        exfalso
        simp only [PriceBook.price] at answered
        split at answered
        · obtain ⟨waits, -⟩ := PriceBook.eq_waiting_of_conclude answered
          exact never _ _ _ _ _ _ (Prod.ext waits rfl)
        · simp at answered

theorem RunsThrough.append {first second : List (List Volume × Instance)} {book : PriceBook σ α} :
    b.RunsThrough terms (first ++ second) book
      ↔ b.RunsThrough terms first book
        ∧ b.RunsThrough terms second (b.oneByOne terms first book).2 := by
  induction first generalizing book with
  | nil => exact (true_and _).symm.to_iff
  | cons one rest ih => exact (and_congr_right fun _ => ih).trans and_assoc.symm

/-- The instances that are priced, with what they cost. -/
def pricedOf (lines : List (Instance × PricingStage α)) :
    List (Instance × Except Fault (InstanceCost α)) :=
  lines.filterMap fun line =>
    match line.2 with
    | .priced outcome => some (line.1, outcome)
    | _ => none

omit [Amount α] in
theorem pricedOf_priced (costs : List (Instance × Except Fault (InstanceCost α))) :
    pricedOf (costs.map fun cost => (cost.1, .priced cost.2)) = costs := by
  simp [pricedOf, List.filterMap_map]

omit [Amount α] in
/-- An instance that gets its price is one more that is priced. -/
theorem pricedOf_set {lines : List (Instance × PricingStage α)} {place : Nat} {i : Instance}
    {fetch : SpotFetch α} (here : lines[place]? = some (i, .asking fetch))
    (outcome : Except Fault (InstanceCost α)) :
    (pricedOf (lines.set place (i, .priced outcome))).Perm ((i, outcome) :: pricedOf lines) := by
  induction lines generalizing place with
  | nil => simp at here
  | cons line rest ih =>
    cases place with
    | zero =>
      obtain rfl : line = (i, .asking fetch) := by simpa using here
      exact .refl _
    | succ place =>
      have next : rest[place]? = some (i, .asking fetch) := by simpa using here
      have others := ih next
      obtain ⟨item, stage⟩ := line
      cases stage with
      | asking fetch => exact others
      | fetching fetch => exact others
      | priced outcome' => exact (others.cons _).trans (.swap ..)

variable (b terms) in
/-- Whether every instance is either priced or still to begin. -/
def Fresh (volumes : List Volume) (lines : List (Instance × PricingStage α)) : Prop :=
  ∀ line ∈ lines, line.2 = .ofOpening (b.opening terms volumes line.1)
    ∨ ∃ outcome, line.2 = .priced outcome

theorem fresh_openings (g : GroupInstances) :
    b.Fresh terms g.group.volumes (b.openings terms g) := by
  intro line mem
  obtain ⟨i, -, rfl⟩ := List.mem_map.mp mem
  exact .inl rfl

theorem Fresh.set {volumes : List Volume} {lines : List (Instance × PricingStage α)}
    (fresh : b.Fresh terms volumes lines) (place : Nat) (i : Instance)
    (outcome : Except Fault (InstanceCost α)) :
    b.Fresh terms volumes (lines.set place (i, .priced outcome)) := by
  intro line mem
  rcases List.mem_or_eq_of_mem_set mem with old | rfl
  · exact fresh line old
  · exact .inr ⟨outcome, rfl⟩

/-- **Where no fetch waits**, whoever turns to the book is priced, as on its own, or was priced
before. -/
theorem NeverWaits.turnToBook_cases (never : b.NeverWaits) {volumes : List Volume}
    {lines : List (Instance × PricingStage α)} (fresh : b.Fresh terms volumes lines)
    (book : PriceBook σ α) (place : Nat) :
    b.turnToBook terms volumes (lines, book) place = (lines, book)
      ∨ ∃ i fetch, lines[place]? = some (i, .asking fetch)
        ∧ b.turnToBook terms volumes (lines, book) place
          = (lines.set place (i, .priced (b.instanceCost terms volumes i book).1),
            (b.instanceCost terms volumes i book).2) := by
  unfold turnToBook
  cases here : lines[place]? with
  | none => exact .inl rfl
  | some line =>
    obtain ⟨i, stage⟩ := line
    obtain ⟨bound, same⟩ := List.getElem?_eq_some_iff.mp here
    rcases fresh _ (List.mem_of_getElem? here) with opening | ⟨outcome, rfl⟩
    · have answer := never.firstAnswer terms volumes i book
      rw [Biller.firstAnswer, ← opening] at answer
      cases stage with
      | asking fetch => exact .inr ⟨i, fetch, rfl, by simp only [answer]⟩
      | fetching fetch =>
        -- No instance begins with a fetch to go on with.
        cases opens : b.opening terms volumes i <;>
          simp [opens, PricingStage.ofOpening] at opening
      | priced outcome => exact .inl (by simp [advance, ← same])
    · exact .inl (by simp [advance, ← same])

/-- **Where no fetch waits a schedule prices instances one after the other**: those that are not
priced yet, in the order in which they turn to the book for the first time. -/
theorem NeverWaits.exists_order (never : b.NeverWaits) (volumes : List Volume)
    (schedule : List Nat) {lines : List (Instance × PricingStage α)} {book : PriceBook σ α}
    (fresh : b.Fresh terms volumes lines) {costs : List (Instance × Except Fault (InstanceCost α))}
    (done : (b.sideBySide terms volumes schedule (lines, book)).1
      = costs.map fun cost => (cost.1, .priced cost.2)) :
    ∃ order : List (Instance × Except Fault (InstanceCost α)),
      (order ++ pricedOf lines).Perm costs
        ∧ b.oneByOne terms (order.map fun cost => (volumes, cost.1)) book
          = (order.map Prod.snd, (b.sideBySide terms volumes schedule (lines, book)).2) := by
  induction schedule generalizing lines book with
  | nil =>
    obtain rfl : lines = _ := done
    exact ⟨[], by simp [pricedOf_priced], rfl⟩
  | cons place rest ih =>
    simp only [sideBySide, List.foldl_cons] at done ⊢
    rcases never.turnToBook_cases fresh book place with unmoved | ⟨i, fetch, here, moved⟩
    · rw [unmoved] at done ⊢
      exact ih fresh done
    · rw [moved] at done ⊢
      obtain ⟨order, perm, one⟩ := ih (fresh.set place i _) done
      refine ⟨(i, (b.instanceCost terms volumes i book).1) :: order, ?_, ?_⟩
      · refine .trans ?_ perm
        exact (List.perm_middle.symm.trans ((pricedOf_set here _).symm.append_left order))
      · simp only [List.map_cons, oneByOne]
        simp only [sideBySide] at one
        rw [one]

/-- Instances that do not need the book are billed at any time. -/
theorem oneByOne_pricedOf_openings (g : GroupInstances) (book : PriceBook σ α) :
    b.oneByOne terms ((pricedOf (b.openings terms g)).map fun cost => (g.group.volumes, cost.1))
        book
      = ((pricedOf (b.openings terms g)).map Prod.snd, book) := by
  unfold openings
  induction g.instances with
  | nil => rfl
  | cons i rest ih =>
    cases opens : b.opening terms g.group.volumes i with
    | priced outcome =>
      have here : b.instanceCost terms g.group.volumes i book = (outcome, book) := by
        simp only [instanceCost, opens]
      simp only [pricedOf, List.map_cons, List.filterMap_cons, opens, PricingStage.ofOpening,
        oneByOne, here] at ih ⊢
      rw [ih]
    | waiting fetch =>
      simpa only [pricedOf, List.map_cons, List.filterMap_cons, opens, PricingStage.ofOpening]
        using ih

/-- **The costs of a schedule are costs in some order** where no fetch waits. -/
theorem NeverWaits.exists_order_of_scheduled (never : b.NeverWaits) {g : GroupInstances}
    {book book' : PriceBook σ α} {costs : List (Instance × Except Fault (InstanceCost α))}
    (scheduled : b.Scheduled terms g.group.volumes (b.openings terms g) book
      (costs.map fun cost => (cost.1, .priced cost.2)) book') :
    ∃ order : List (Instance × Except Fault (InstanceCost α)), order.Perm costs
      ∧ (b.oneByOne terms (order.map fun cost => (g.group.volumes, cost.1)) book).1
        = order.map Prod.snd
      ∧ (b.oneByOne terms (order.map fun cost => (g.group.volumes, cost.1)) book).2.Alike
        book' := by
  obtain ⟨schedule, done, after⟩ := scheduled
  obtain ⟨order, perm, costsOfOrder⟩ :=
    never.exists_order g.group.volumes schedule (fresh_openings g) done
  refine ⟨order ++ pricedOf (b.openings terms g), perm, ?_, ?_⟩ <;>
    rw [List.map_append, oneByOne_append, costsOfOrder, oneByOne_pricedOf_openings]
  · rw [List.map_append]
  · exact after

end Biller

end ClusterBilling
