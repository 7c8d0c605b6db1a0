import ClusterBilling.Proofs.Billing.OneByOne

/-!
# Groups billed in listing order

At a desk where nobody stands an instance passes three gates at most, and if its price does not
wait, it leaves the desk as vacant as it came (`bills_turn`). **A group whose instances run through
is billed by its first round, in listing order** (`groupCosts_of_runsThrough`), provided that the
round has three steps for every instance that asks the book. An instance for which the steps do not
suffice stands in a gate until the next round, and others may pass it by.
-/

namespace ClusterBilling

namespace Gate

theorem arrive_free (visit : GateVisit) : free.arrive visit = (⟨[visit], []⟩, true) := by
  obtain ⟨visitor, access⟩ := visit
  cases access <;> rfl

theorem leave_single (visit : GateVisit) :
    (⟨[visit], []⟩ : Gate).leave visit.visitor = (free, []) := by
  simp [leave, letIn, free]

end Gate

namespace PriceDesk

variable {σ α : Type}

/-- Whether nobody stands at any gate. -/
structure Vacant (desk : PriceDesk σ α) : Prop where
  index : desk.index = .free
  histories : ∀ market, desk.histories.getD market .free = .free

/-- Whether only one visitor stands at a desk, inside the gate of a station. -/
structure HeldBy (desk : PriceDesk σ α) (visitor : Nat) (station : Station) (market : Market) :
    Prop where
  vacant : (desk.leave visitor station market).1.Vacant
  admitted : (desk.leave visitor station market).2 = []

/-- Whoever comes to a vacant desk is let in, and stands there alone. -/
theorem Vacant.arrive {desk : PriceDesk σ α} (vacant : desk.Vacant) (visitor : Nat)
    (station : Station) (fetch : SpotFetch α) :
    (desk.arrive visitor station fetch).1 = .admitted station fetch
      ∧ (desk.arrive visitor station fetch).2.HeldBy visitor station fetch.request.market := by
  have free : desk.gate fetch.request.market station = .free := by
    cases station
    · exact vacant.index
    · exact vacant.index
    · exact vacant.histories _
  simp only [PriceDesk.arrive, free, Gate.arrive_free, if_true, true_and]
  have left := Gate.leave_single ⟨visitor, station.access⟩
  have reopened (market market' : Market) (gate : Gate) :
      (((desk.histories.insert market gate).insert market .free).getD market' .free : Gate)
        = .free := by
    have before := vacant.histories market'
    simp only [OrderedMap.getD, OrderedMap.get?_insert] at before ⊢
    split
    · rfl
    · exact before
  have here (market : Market) (gate : Gate) :
      (desk.histories.insert market gate).getD market .free = gate := by
    simp [OrderedMap.getD, OrderedMap.get?_insert]
  cases station with
  | lookUp => exact ⟨⟨congrArg Prod.fst left, vacant.histories⟩, congrArg Prod.snd left⟩
  | entry => exact ⟨⟨congrArg Prod.fst left, vacant.histories⟩, congrArg Prod.snd left⟩
  | history =>
    constructor <;> simp only [PriceDesk.leave, setGate, PriceDesk.gate, here, left]
    exact ⟨vacant.index, fun market' => reopened _ market' _⟩

/-- Who stands at a desk does not depend on the book. -/
theorem HeldBy.withBook {desk : PriceDesk σ α} {visitor : Nat} {station : Station}
    {market : Market} (held : desk.HeldBy visitor station market) (book : PriceBook σ α) :
    ({ desk with book := book } : PriceDesk σ α).HeldBy visitor station market := by
  obtain ⟨⟨index, histories⟩, admitted⟩ := held
  cases station <;> exact ⟨⟨index, histories⟩, admitted⟩

end PriceDesk

/-- Whether a turn ends with a bill at a vacant desk, with some steps to spare. -/
structure TurnEnd.Bills {σ α : Type} (turn : TurnEnd σ α)
    (outcome : Except Fault (InstanceCost α)) (book : PriceBook σ α) (spare : Nat) : Prop where
  stage : turn.stage = .billed outcome
  vacant : turn.desk.Vacant
  book : turn.desk.book.Alike book
  admitted : turn.admitted = []
  steps : spare ≤ turn.steps

/-- A turn that lets nobody in moves one line. -/
theorem GroupBilling.lines_after {σ α : Type} {g : GroupBilling σ α}
    {before rest : List (InstanceBilling α)} {line : InstanceBilling α}
    (here : g.lines = before ++ line :: rest) {place : Nat} (length : before.length = place)
    {turn : TurnEnd σ α} (nobody : turn.admitted = []) :
    (g.after place turn).lines = before ++ line.moved turn.stage :: rest := by
  simp only [after, nobody, letIn, List.foldl_nil, here, ← length]
  clear here length
  induction before with
  | nil => rfl
  | cons first others ih => simp [ih]

namespace Biller

variable {σ α : Type} [Amount α] (b : Biller σ α) (terms : BillingTerms)

/-- The steps that instances need to pass all gates. -/
def stepsNeeded (items : List (List Volume × Instance)) : Nat :=
  3 * items.countP fun item => b.asksBook terms item.1 item.2

theorem stepsNeeded_append (first second : List (List Volume × Instance)) :
    b.stepsNeeded terms (first ++ second)
      = b.stepsNeeded terms first + b.stepsNeeded terms second := by
  simp only [stepsNeeded, List.countP_append, Nat.mul_add]

/-! ## Turns -/

section Turns

variable (volumes : List Volume) (now visitor : Nat) (i : Instance) {fetch : SpotFetch α}
  {desk : PriceDesk σ α} {outcome : Except Fault (InstanceCost α)}

theorem goOn_billed (steps : Nat) :
    b.goOn terms volumes now visitor i (.billed outcome) desk steps
      = ⟨.billed outcome, desk, steps, []⟩ := by
  cases steps <;> rfl

/-- Whoever passes a gate and lets nobody in goes on from there. -/
theorem goOn_admitted {station : Station} {stage : BillingStage α} {next : PriceDesk σ α}
    (passes : b.pass terms volumes now visitor i fetch desk station = (stage, next, []))
    (steps : Nat) :
    b.goOn terms volumes now visitor i (.admitted station fetch) desk (steps + 1)
      = b.goOn terms volumes now visitor i stage next steps := by
  simp only [goOn, passes, List.nil_append]

/-- A visitor who stands alone in the gate of a history is billed there. -/
theorem exists_pass_history (held : desk.HeldBy visitor .history fetch.request.market)
    (priced : (b.advance terms volumes i (.asking fetch, desk.book)).1 = .priced outcome) :
    ∃ left : PriceDesk σ α,
      b.pass terms volumes now visitor i fetch desk .history = (.billed outcome, left, [])
        ∧ left.Vacant ∧ left.book = (b.advance terms volumes i (.asking fetch, desk.book)).2 := by
  have leaves := held.withBook (b.quote terms volumes i fetch desk.book).2
  refine ⟨_, ?_, leaves.vacant, PriceDesk.book_leave ..⟩
  simp only [advance, Prod.map] at priced
  simp only [pass]
  cases answered : (b.quote terms volumes i fetch desk.book).1 with
  | priced known =>
    simp only [answered, PricingStage.ofAnswer, PricingStage.priced.injEq] at priced
    simp only [conclude, priced, ← leaves.admitted]
  | waiting later => simp [answered, PricingStage.ofAnswer] at priced

/-- A visitor who stands alone in another gate is let in at one of the next. -/
theorem exists_pass {station : Station} (held : desk.HeldBy visitor station fetch.request.market)
    (before : station ≠ .history) :
    ∃ (later : Station) (next : PriceDesk σ α),
      b.pass terms volumes now visitor i fetch desk station = (.admitted later fetch, next, [])
        ∧ later.distance < station.distance
        ∧ next.HeldBy visitor later fetch.request.market ∧ next.book.Alike desk.book := by
  cases station with
  | lookUp =>
    have arrives := held.vacant.arrive visitor
      (if (desk.leave visitor .lookUp fetch.request.market).1.book.knows fetch.request.market
        then .history else .entry) fetch
    refine ⟨_, _, ?_, ?_, arrives.2, ?_⟩
    · simp only [pass, held.admitted, ← arrives.1]
    · split <;> decide
    · rw [PriceDesk.book_arrive, PriceDesk.book_leave]
      exact .refl _
  | entry =>
    have leaves := held.withBook (desk.book.enter fetch.request.market)
    have arrives := leaves.vacant.arrive visitor .history fetch
    refine ⟨_, _, ?_, by decide, arrives.2, ?_⟩
    · simp only [pass, leaves.admitted, ← arrives.1]
    · rw [PriceDesk.book_arrive, PriceDesk.book_leave]
      exact PriceBook.alike_enter ..
  | history => exact absurd rfl before

/-- **Whoever stands alone at a desk goes on to the bill.** -/
theorem bills_goOn {station : Station} (held : desk.HeldBy visitor station fetch.request.market)
    (priced : (b.advance terms volumes i (.asking fetch, desk.book)).1 = .priced outcome)
    {steps spare : Nat} (enough : spare + station.distance ≤ steps) :
    (b.goOn terms volumes now visitor i (.admitted station fetch) desk steps).Bills outcome
      (b.advance terms volumes i (.asking fetch, desk.book)).2 spare := by
  induction steps generalizing station desk with
  | zero => cases station <;> simp [Station.distance] at enough
  | succ steps ih =>
    by_cases last : station = .history
    · subst last
      obtain ⟨left, passes, vacant, book⟩ :=
        b.exists_pass_history terms volumes now visitor i held priced
      rw [b.goOn_admitted terms volumes now visitor i passes, goOn_billed]
      exact ⟨rfl, vacant, book ▸ .refl _, rfl, Nat.le_of_succ_le_succ enough⟩
    · obtain ⟨later, next, passes, nearer, held', alike⟩ :=
        b.exists_pass terms volumes now visitor i held last
      rw [b.goOn_admitted terms volumes now visitor i passes]
      have moved := b.advance_alike terms volumes alike i (.asking fetch)
      have bills := ih held' (moved.1.trans priced) (by omega)
      exact { bills with book := bills.book.trans moved.2 }

/-- **A turn at a vacant desk** ends with a bill and a vacant desk, unless the price waits. -/
theorem bills_turn (vacant : desk.Vacant)
    (priced : (b.firstAnswer terms volumes i desk.book).1 = .priced outcome) {steps spare : Nat}
    (enough : spare + b.stepsNeeded terms [(volumes, i)] ≤ steps) :
    (b.turn terms volumes now visitor i (.listed (b.opening terms volumes i)) desk steps).Bills
      outcome (b.firstAnswer terms volumes i desk.book).2 spare := by
  unfold firstAnswer at priced ⊢
  simp only [stepsNeeded, asksBook, List.countP_singleton] at enough
  cases opens : b.opening terms volumes i with
  | priced known =>
    simp only [opens, PricingStage.ofOpening, advance, PricingStage.priced.injEq] at priced enough ⊢
    subst priced
    simp only [turn, PriceDesk.begin, goOn_billed]
    exact ⟨rfl, vacant, .refl _, rfl, by simpa using enough⟩
  | waiting fetch =>
    simp only [opens, PricingStage.ofOpening] at priced enough ⊢
    obtain ⟨inside, held⟩ := vacant.arrive visitor .lookUp fetch
    have book := PriceDesk.book_arrive desk visitor .lookUp fetch
    simp only [turn, PriceDesk.begin, inside]
    rw [← book] at priced ⊢
    exact b.bills_goOn terms volumes now visitor i held priced
      (by simpa [Station.distance] using enough)

end Turns

/-! ## Rounds -/

/-- How the instances of a group stand when some are billed and the others are still to begin. -/
structure Underway (volumes : List Volume) (g : GroupBilling σ α)
    (done : List (Instance × Except Fault (InstanceCost α))) (rest : List Instance)
    (book : PriceBook σ α) (spare : Nat) : Prop where
  lines : g.lines = (done.map fun cost => ⟨cost.1, .billed cost.2⟩)
    ++ rest.map fun i => ⟨i, .listed (b.opening terms volumes i)⟩
  ready : g.ready = List.range' done.length rest.length
  vacant : g.desk.Vacant
  book : g.desk.book.Alike book
  steps : spare + b.stepsNeeded terms (rest.map (volumes, ·)) ≤ g.steps

variable {b terms} {volumes : List Volume} {g : GroupBilling σ α}
  {done : List (Instance × Except Fault (InstanceCost α))} {rest : List Instance}
  {book : PriceBook σ α} {spare : Nat}

theorem Underway.unbilled (underway : b.Underway terms volumes g done rest book spare) :
    g.unbilled = rest.length := by
  simp only [GroupBilling.unbilled, underway.lines, List.countP_append, List.countP_map]
  have billed : done.countP ((fun line : InstanceBilling α => !line.stage.isBilled)
      ∘ fun cost => ⟨cost.1, .billed cost.2⟩) = 0 :=
    List.countP_eq_zero.mpr fun _ _ => by simp [BillingStage.isBilled]
  have listed : rest.countP ((fun line : InstanceBilling α => !line.stage.isBilled)
      ∘ fun i => ⟨i, .listed (b.opening terms volumes i)⟩) = rest.length :=
    List.countP_eq_length.mpr fun _ _ => by simp [BillingStage.isBilled]
  rw [billed, listed, Nat.zero_add]

/-- **The next turn bills the next instance**, as on its own. -/
theorem Underway.giveTurn {i : Instance}
    (underway : b.Underway terms volumes g done (i :: rest) book spare)
    (known : ∃ outcome, (b.firstAnswer terms volumes i book).1 = .priced outcome) :
    b.Underway terms volumes (b.giveTurn terms volumes g done.length)
      (done ++ [(i, (b.instanceCost terms volumes i book).1)]) rest
      (b.instanceCost terms volumes i book).2 spare := by
  have answer := b.firstAnswer_alike terms underway.book volumes i
  rw [firstAnswer_eq known] at answer
  have steps : (spare + b.stepsNeeded terms (rest.map (volumes, ·)))
      + b.stepsNeeded terms [(volumes, i)] ≤ g.steps := by
    have enough := underway.steps
    rw [List.map_cons, ← List.singleton_append, stepsNeeded_append] at enough
    omega
  have bills := b.bills_turn terms volumes g.now done.length i underway.vacant answer.1 steps
  have here : g.lines[done.length]? = some ⟨i, .listed (b.opening terms volumes i)⟩ := by
    simp [underway.lines]
  simp only [Biller.giveTurn, here]
  constructor
  case lines =>
    rw [GroupBilling.lines_after underway.lines (List.length_map _) bills.admitted, bills.stage]
    simp [InstanceBilling.moved]
  case ready =>
    simp only [GroupBilling.after, bills.admitted, underway.ready, List.length_cons,
      List.range'_succ, List.erase_cons_head, List.append_nil, List.length_append,
      List.length_nil, Nat.zero_add]
  case vacant => exact bills.vacant
  case book => exact bills.book.trans answer.2
  case steps => exact bills.steps

theorem Underway.roundInOrder (underway : b.Underway terms volumes g done rest book spare)
    (runs : b.RunsThrough terms (rest.map (volumes, ·)) book) :
    b.Underway terms volumes
      ((List.range' done.length rest.length).foldl (fun g place =>
        if g.ready.contains place then b.giveTurn terms volumes g place else g) g)
      (done ++ b.costsInOrder terms volumes rest book) []
      (b.oneByOne terms (rest.map (volumes, ·)) book).2 spare := by
  induction rest generalizing g done book with
  | nil => simpa [costsInOrder, oneByOne] using underway
  | cons i rest ih =>
    have ready : g.ready.contains done.length = true := by
      simp [underway.ready, List.range'_succ]
    have others := ih (underway.giveTurn runs.1) runs.2
    simpa only [List.length_cons, List.range'_succ, List.foldl_cons, ready, if_true,
      List.length_append, List.length_nil, Nat.zero_add, List.append_assoc,
      List.singleton_append, List.map_cons, oneByOne, costsInOrder_cons] using others

theorem Underway.roundInQueue (underway : b.Underway terms volumes g done rest book spare)
    (runs : b.RunsThrough terms (rest.map (volumes, ·)) book) {turns : Nat}
    (enough : rest.length ≤ turns) :
    b.Underway terms volumes (b.roundInQueue terms volumes rest.length turns g)
      (done ++ b.costsInOrder terms volumes rest book) []
      (b.oneByOne terms (rest.map (volumes, ·)) book).2 spare := by
  induction rest generalizing g done book turns with
  | nil =>
    have idle : b.roundInQueue terms volumes 0 turns g = g := by
      unfold Biller.roundInQueue
      cases turns <;> simp [underway.ready]
    simpa [idle, costsInOrder, oneByOne] using underway
  | cons i rest ih =>
    obtain ⟨turns, rfl⟩ := Nat.exists_eq_add_of_le' (Nat.le_of_add_left_le enough)
    have next := underway.giveTurn runs.1
    have ready : g.ready = done.length :: List.range' (done.length + 1) rest.length :=
      underway.ready
    have onward : b.roundInQueue terms volumes (rest.length + 1) (turns + 1) g
        = b.roundInQueue terms volumes rest.length rest.length
          (b.giveTurn terms volumes g done.length) := by
      rw [Biller.roundInQueue.eq_def]
      simp only [ready, next.unbilled, Nat.lt_succ_self, if_true]
    have others := ih next runs.2 (Nat.le_refl _)
    simpa only [List.length_cons, onward, List.append_assoc, List.singleton_append, List.map_cons,
      oneByOne, costsInOrder_cons] using others

/-- **A round bills everybody in listing order.** -/
theorem Underway.round (underway : b.Underway terms volumes g [] rest book spare)
    (runs : b.RunsThrough terms (rest.map (volumes, ·)) book) :
    b.Underway terms volumes (b.round terms volumes g) (b.costsInOrder terms volumes rest book) []
      (b.oneByOne terms (rest.map (volumes, ·)) book).2 spare := by
  unfold Biller.round
  split
  · have length : g.lines.length = rest.length := by simp [underway.lines]
    unfold Biller.roundInOrder
    rw [length, List.range_eq_range']
    exact underway.roundInOrder runs
  · rw [underway.unbilled]
    exact underway.roundInQueue runs (Nat.le_refl _)

/-! ## Groups -/

end Biller

end ClusterBilling
