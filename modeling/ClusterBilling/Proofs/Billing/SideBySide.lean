import ClusterBilling.Billing.Interleaved
import ClusterBilling.Proofs.Spot.Queries

/-!
# Instances billed side by side

The instances of a group share a price book and are billed side by side. Which of them comes next
is decided by gates, clocks and rounds, but all that matters for what they cost is the order in
which they turn to the book (`Biller.sideBySide`). **The costs of a group are those of some
schedule** (`exists_schedule_groupCosts`): a list of places in the listing, at each of which one
instance asks the book for its price or goes on with its fetch, until it has to wait or is priced.

Entering a market that is not known yet makes no difference to any price, so books are compared by
their histories and the state of their source (`PriceBook.Alike`).
-/

namespace ClusterBilling

namespace PriceBook

variable {σ α : Type}

/-- Whether two books answer alike, whichever markets were entered. -/
structure Alike (book book' : PriceBook σ α) : Prop where
  history : ∀ market, book.history market = book'.history market
  source : book.source = book'.source

theorem Alike.refl (book : PriceBook σ α) : book.Alike book := ⟨fun _ => rfl, rfl⟩

theorem Alike.trans {book book' book'' : PriceBook σ α} (first : book.Alike book')
    (second : book'.Alike book'') : book.Alike book'' :=
  ⟨fun market => (first.history market).trans (second.history market),
    first.source.trans second.source⟩

theorem Alike.symm {book book' : PriceBook σ α} (alike : book.Alike book') : book'.Alike book :=
  ⟨fun market => (alike.history market).symm, alike.source.symm⟩

theorem alike_enter (book : PriceBook σ α) (market : Market) :
    (book.enter market).Alike book := ⟨book.history_enter market, rfl⟩

theorem Alike.extend {book book' : PriceBook σ α} (alike : book.Alike book') (market : Market)
    (observations : List (Observation α)) :
    (book.extend market observations).Alike (book'.extend market observations) := by
  refine ⟨fun other => ?_, alike.source⟩
  rw [history_extend, history_extend, alike.history, alike.history]

variable [Amount α] {book book' : PriceBook σ α} (source : SpotSource σ α) (retry : RetryPolicy)

omit source retry in
theorem Alike.conclude (alike : book.Alike book') (fetch : SpotFetch α)
    (progress : SpotFetch.Progress α) :
    (book.conclude fetch progress).1 = (book'.conclude fetch progress).1
      ∧ (book.conclude fetch progress).2.Alike (book'.conclude fetch progress).2 := by
  cases progress with
  | waiting fetch => exact ⟨rfl, alike⟩
  | ended outcome =>
    cases outcome with
    | error fault => exact ⟨rfl, alike⟩
    | ok observations =>
      have extended := alike.extend fetch.request.market observations
      exact ⟨by simp only [PriceBook.conclude, extended.history], extended⟩

theorem Alike.resume (alike : book.Alike book') (fetch : SpotFetch α) :
    (book.resume source retry fetch).1 = (book'.resume source retry fetch).1
      ∧ (book.resume source retry fetch).2.Alike (book'.resume source retry fetch).2 := by
  simp only [PriceBook.resume, alike.source]
  have moved : ({ book with source := (fetch.proceed source retry book'.source).2 }
      : PriceBook σ α).Alike { book' with source := (fetch.proceed source retry book'.source).2 } :=
    ⟨alike.history, rfl⟩
  exact moved.conclude fetch _

theorem Alike.price (alike : book.Alike book') (fetch : SpotFetch α) :
    (book.price source retry fetch).1 = (book'.price source retry fetch).1
      ∧ (book.price source retry fetch).2.Alike (book'.price source retry fetch).2 := by
  simp only [PriceBook.price, alike.history]
  split
  · exact alike.resume source retry fetch
  · exact ⟨rfl, alike⟩

end PriceBook

/-- A fetch that waits is still one for its range. -/
theorem SpotFetch.range_of_waiting {σ α : Type} {source : SpotSource σ α} {retry : RetryPolicy}
    {f later : SpotFetch α} {s s' : σ} (waits : f.proceed source retry s = (.waiting later, s')) :
    later.request.start = f.request.start ∧ later.request.stop = f.request.stop := by
  fun_induction proceed source retry f s with
  | case1 => simp at waits
  | case2 f s page s'' answered token next ih => exact ih waits
  | case3 => simp at waits
  | case4 f s fault s'' answered attempts goesOn =>
    cases waits
    exact ⟨rfl, rfl⟩

theorem PriceBook.range_of_waiting {σ α : Type} [Amount α] {source : SpotSource σ α}
    {retry : RetryPolicy} {book after : PriceBook σ α} {fetch later : SpotFetch α}
    (waits : book.resume source retry fetch = (.waiting later, after)) :
    later.request.start = fetch.request.start ∧ later.request.stop = fetch.request.stop := by
  unfold resume at waits
  obtain ⟨progress, -⟩ := eq_waiting_of_conclude waits
  exact SpotFetch.range_of_waiting (Prod.ext progress rfl)

/-- How far the pricing has come at a stage of billing. -/
def BillingStage.pricing {α : Type} : BillingStage α → PricingStage α
  | .listed opening => .ofOpening opening
  | .queued _ fetch | .admitted _ fetch => .asking fetch
  | .fetching _ fetch | .asleep _ fetch => .fetching fetch
  | .billed outcome => .priced outcome

namespace PriceDesk

variable {σ α : Type} (desk : PriceDesk σ α) (visitor : Nat) (station : Station) (market : Market)
  (fetch : SpotFetch α)

theorem book_setGate (gate : Gate) : (desk.setGate market gate station).book = desk.book := by
  cases station <;> rfl

theorem book_leave : (desk.leave visitor station market).1.book = desk.book := book_setGate ..

theorem book_arrive : (desk.arrive visitor station fetch).2.book = desk.book := book_setGate ..

theorem pricing_arrive : (desk.arrive visitor station fetch).1.pricing = .asking fetch := by
  unfold arrive
  dsimp only
  split <;> rfl

end PriceDesk

namespace GroupBilling

variable {σ α : Type}

/-- How far the instances of some lines have come. -/
def progressOf (lines : List (InstanceBilling α)) : List (Instance × PricingStage α) :=
  lines.map fun line => (line.item, line.stage.pricing)

/-- How far the instances of a group have come. -/
def progress (g : GroupBilling σ α) : List (Instance × PricingStage α) := progressOf g.lines

/-- Letting instances in brings none of them nearer to its price. -/
theorem progressOf_letIn (lines : List (InstanceBilling α)) (places : List Nat) :
    progressOf (letIn lines places) = progressOf lines := by
  have one (lines : List (InstanceBilling α)) (place : Nat) :
      progressOf (lines.modify place .letIn) = progressOf lines := by
    refine List.ext_getElem? fun other => ?_
    simp only [progressOf, List.getElem?_map, List.getElem?_modify, Option.map_eq_map]
    cases lines[other]? with
    | none => rfl
    | some line =>
      obtain ⟨item, stage⟩ := line
      by_cases here : place = other
      · cases stage <;> simp [here, InstanceBilling.letIn, BillingStage.letIn,
          BillingStage.pricing]
      · simp [here]
  induction places generalizing lines with
  | nil => rfl
  | cons place rest ih => exact (ih _).trans (one lines place)

theorem progress_after {g : GroupBilling σ α} {place : Nat} {line : InstanceBilling α}
    (here : g.lines[place]? = some line) (turn : TurnEnd σ α) :
    (g.after place turn).progress = g.progress.set place (line.item, turn.stage.pricing) := by
  refine (progressOf_letIn ..).trans (List.ext_getElem? fun other => ?_)
  simp only [progressOf, progress, List.getElem?_map, List.getElem?_modify, List.getElem?_set]
  by_cases same : place = other
  · obtain ⟨bound, own⟩ := List.getElem?_eq_some_iff.mp here
    simp [← same, own, InstanceBilling.moved, bound]
  · simp [same]

end GroupBilling

namespace Biller

variable {σ α : Type} [Amount α] (b : Biller σ α) (terms : BillingTerms) (volumes : List Volume)

/-- One question of an instance to the book, or one more attempt at its fetch. -/
def advance (i : Instance) (s : PricingStage α × PriceBook σ α) :
    PricingStage α × PriceBook σ α :=
  match s.1 with
  | .asking fetch => (b.quote terms volumes i fetch s.2).map .ofAnswer id
  | .fetching fetch => (b.resume terms volumes i fetch s.2).map .ofAnswer id
  | .priced _ => s

/-- The instance at a place of the listing turns to the book. -/
def turnToBook (s : List (Instance × PricingStage α) × PriceBook σ α) (place : Nat) :
    List (Instance × PricingStage α) × PriceBook σ α :=
  match s.1[place]? with
  | some (i, stage) =>
    let (stage, book) := b.advance terms volumes i (stage, s.2)
    (s.1.set place (i, stage), book)
  | none => s

/-- **Instances side by side**: what becomes of them and the book when they turn to it in the order
of a schedule of their places. -/
def sideBySide (schedule : List Nat) (s : List (Instance × PricingStage α) × PriceBook σ α) :
    List (Instance × PricingStage α) × PriceBook σ α :=
  schedule.foldl (b.turnToBook terms volumes) s

theorem sideBySide_append (first second : List Nat)
    (s : List (Instance × PricingStage α) × PriceBook σ α) :
    b.sideBySide terms volumes (first ++ second) s
      = b.sideBySide terms volumes second (b.sideBySide terms volumes first s) :=
  List.foldl_append ..

theorem advance_alike {book book' : PriceBook σ α} (alike : book.Alike book') (i : Instance)
    (stage : PricingStage α) :
    (b.advance terms volumes i (stage, book)).1 = (b.advance terms volumes i (stage, book')).1
      ∧ (b.advance terms volumes i (stage, book)).2.Alike
        (b.advance terms volumes i (stage, book')).2 := by
  cases stage with
  | asking fetch =>
    have priced := alike.price b.spot b.retry fetch
    simp only [advance, quote, Prod.map, id_eq, priced.1, true_and]
    exact priced.2
  | fetching fetch =>
    have resumed := alike.resume b.spot b.retry fetch
    simp only [advance, resume, Prod.map, id_eq, resumed.1, true_and]
    exact resumed.2
  | priced outcome => exact ⟨rfl, alike⟩

theorem iterate_advance_alike {book book' : PriceBook σ α} (alike : book.Alike book')
    (i : Instance) (times : Nat) (stage : PricingStage α) :
    ((b.advance terms volumes i)^[times] (stage, book)).1
        = ((b.advance terms volumes i)^[times] (stage, book')).1
      ∧ ((b.advance terms volumes i)^[times] (stage, book)).2.Alike
        ((b.advance terms volumes i)^[times] (stage, book')).2 := by
  induction times generalizing stage book book' with
  | zero => exact ⟨rfl, alike⟩
  | succ times ih =>
    have moved := b.advance_alike terms volumes alike i stage
    simp only [Function.iterate_succ_apply]
    rw [← Prod.eta (b.advance terms volumes i (stage, book)),
      ← Prod.eta (b.advance terms volumes i (stage, book')), moved.1]
    exact ih moved.2 _

theorem sideBySide_alike {book book' : PriceBook σ α} (alike : book.Alike book')
    (schedule : List Nat) (lines : List (Instance × PricingStage α)) :
    (b.sideBySide terms volumes schedule (lines, book)).1
        = (b.sideBySide terms volumes schedule (lines, book')).1
      ∧ (b.sideBySide terms volumes schedule (lines, book)).2.Alike
        (b.sideBySide terms volumes schedule (lines, book')).2 := by
  induction schedule generalizing lines book book' with
  | nil => exact ⟨rfl, alike⟩
  | cons place rest ih =>
    simp only [sideBySide, List.foldl_cons, turnToBook]
    cases lines[place]? with
    | none => exact ih alike lines
    | some line =>
      obtain ⟨i, stage⟩ := line
      have moved := b.advance_alike terms volumes alike i stage
      simp only [moved.1]
      exact ih moved.2 _

/-! ## One instance -/

/-- Whether an instance comes from one stage to another by turning to the book some times. -/
def Reaches (i : Instance) (stage : PricingStage α) (book : PriceBook σ α)
    (stage' : PricingStage α) (book' : PriceBook σ α) : Prop :=
  ∃ times, ((b.advance terms volumes i)^[times] (stage, book)).1 = stage'
    ∧ ((b.advance terms volumes i)^[times] (stage, book)).2.Alike book'

theorem reaches_advance (i : Instance) (stage : PricingStage α) (book : PriceBook σ α) :
    b.Reaches terms volumes i stage book (b.advance terms volumes i (stage, book)).1
      (b.advance terms volumes i (stage, book)).2 :=
  ⟨1, rfl, .refl _⟩

variable {b terms volumes} {i : Instance}

theorem Reaches.of_alike {stage : PricingStage α} {book book' : PriceBook σ α}
    (alike : book.Alike book') : b.Reaches terms volumes i stage book stage book' :=
  ⟨0, rfl, alike⟩

theorem Reaches.trans {stage stage' stage'' : PricingStage α} {book book' book'' : PriceBook σ α}
    (first : b.Reaches terms volumes i stage book stage' book')
    (second : b.Reaches terms volumes i stage' book' stage'' book'') :
    b.Reaches terms volumes i stage book stage'' book'' := by
  obtain ⟨n, reached, alike⟩ := first
  obtain ⟨m, reached', alike'⟩ := second
  refine ⟨m + n, ?_⟩
  rw [Function.iterate_add_apply,
    ← Prod.eta ((b.advance terms volumes i)^[n] (stage, book)), reached]
  have rest := b.iterate_advance_alike terms volumes alike i m stage'
  exact ⟨rest.1.trans reached', rest.2.trans alike'⟩

/-- What an instance reaches does not depend on the markets that were entered. -/
theorem Reaches.of_alike_start {stage stage' : PricingStage α} {book book' after : PriceBook σ α}
    (reaches : b.Reaches terms volumes i stage book stage' after) (alike : book'.Alike book) :
    b.Reaches terms volumes i stage book' stage' after := by
  obtain ⟨times, reached, ends⟩ := reaches
  have same := b.iterate_advance_alike terms volumes alike i times stage
  exact ⟨times, same.1.trans reached, same.2.trans ends⟩

/-- Once priced, an instance does not turn to the book any more. -/
theorem iterate_advance_of_priced {s : PricingStage α × PriceBook σ α} {times more : Nat}
    {outcome : Except Fault (InstanceCost α)}
    (priced : ((b.advance terms volumes i)^[times] s).1 = .priced outcome) (later : times ≤ more) :
    (b.advance terms volumes i)^[more] s = (b.advance terms volumes i)^[times] s := by
  obtain ⟨extra, rfl⟩ := Nat.exists_eq_add_of_le' later
  rw [Function.iterate_add_apply]
  refine Function.iterate_fixed ?_ extra
  simp only [advance, priced]

/-- **An instance alone has one price.** -/
theorem Reaches.unique {stage : PricingStage α} {book book' book'' : PriceBook σ α}
    {outcome outcome' : Except Fault (InstanceCost α)}
    (first : b.Reaches terms volumes i stage book (.priced outcome) book')
    (second : b.Reaches terms volumes i stage book (.priced outcome') book'') :
    outcome = outcome' ∧ book'.Alike book'' := by
  obtain ⟨n, reached, alike⟩ := first
  obtain ⟨m, reached', alike'⟩ := second
  have same : (b.advance terms volumes i)^[n] (stage, book)
      = (b.advance terms volumes i)^[m] (stage, book) := by
    rcases Nat.le_total n m with before | after
    · exact (iterate_advance_of_priced reached before).symm
    · exact iterate_advance_of_priced reached' after
  rw [same] at reached alike
  exact ⟨PricingStage.priced.inj (reached.symm.trans reached'), alike.symm.trans alike'⟩

variable (b terms volumes) in
/-- At its place among others an instance does what it does alone. -/
theorem sideBySide_replicate (times : Nat) {s : PricingStage α × PriceBook σ α}
    {lines : List (Instance × PricingStage α)} {place : Nat}
    (here : lines[place]? = some (i, s.1)) :
    b.sideBySide terms volumes (List.replicate times place) (lines, s.2)
      = (lines.set place (i, ((b.advance terms volumes i)^[times] s).1),
        ((b.advance terms volumes i)^[times] s).2) := by
  induction times generalizing lines s with
  | zero =>
    obtain ⟨bound, same⟩ := List.getElem?_eq_some_iff.mp here
    simp [sideBySide, ← same]
  | succ times ih =>
    have there : (lines.set place (i, (b.advance terms volumes i s).1))[place]?
        = some (i, (b.advance terms volumes i s).1) := by
      obtain ⟨bound, -⟩ := List.getElem?_eq_some_iff.mp here
      simp [bound]
    have rest := ih there
    simp only [sideBySide, List.replicate_succ, List.foldl_cons, turnToBook, here,
      Function.iterate_succ_apply] at rest ⊢
    rw [rest, List.set_set]

/-- What one instance reaches alone it reaches at its place among others. -/
theorem Reaches.exists_schedule {stage stage' : PricingStage α} {book book' : PriceBook σ α}
    (reaches : b.Reaches terms volumes i stage book stage' book')
    {lines : List (Instance × PricingStage α)} {place : Nat}
    (here : lines[place]? = some (i, stage)) :
    ∃ schedule, (b.sideBySide terms volumes schedule (lines, book)).1 = lines.set place (i, stage')
      ∧ (b.sideBySide terms volumes schedule (lines, book)).2.Alike book' := by
  obtain ⟨times, reached, alike⟩ := reaches
  have whole := b.sideBySide_replicate terms volumes times (s := (stage, book)) here
  refine ⟨List.replicate times place, ?_⟩
  rw [whole, reached]
  exact ⟨rfl, alike⟩

/-! ## Turns -/

section Turns

variable (b terms volumes i) (desk : PriceDesk σ α) (now visitor : Nat)

omit [Amount α] in
/-- Leaving with an answer does not touch the book. -/
theorem conclude_eq (market : Market) (pricing : Pricing α (InstanceCost α)) :
    (conclude now visitor market desk pricing).1.pricing = .ofAnswer pricing
      ∧ (conclude now visitor market desk pricing).2.1.book = desk.book := by
  cases pricing with
  | priced outcome => exact ⟨rfl, PriceDesk.book_leave ..⟩
  | waiting fetch => exact ⟨rfl, rfl⟩

theorem reaches_pass (fetch : SpotFetch α) (station : Station) :
    b.Reaches terms volumes i (.asking fetch) desk.book
      (b.pass terms volumes now visitor i fetch desk station).1.pricing
      (b.pass terms volumes now visitor i fetch desk station).2.1.book := by
  cases station with
  | lookUp =>
    simp only [pass, PriceDesk.pricing_arrive, PriceDesk.book_arrive, PriceDesk.book_leave]
    exact .of_alike (.refl _)
  | entry =>
    simp only [pass, PriceDesk.pricing_arrive, PriceDesk.book_arrive, PriceDesk.book_leave]
    exact .of_alike (PriceBook.alike_enter ..).symm
  | history =>
    simp only [pass, conclude_eq]
    exact b.reaches_advance terms volumes i (.asking fetch) desk.book

theorem reaches_wakeUp (fetch : SpotFetch α) :
    b.Reaches terms volumes i (.fetching fetch) desk.book
      (b.wakeUp terms volumes now visitor i fetch desk).1.pricing
      (b.wakeUp terms volumes now visitor i fetch desk).2.1.book := by
  simp only [wakeUp, conclude_eq]
  exact b.reaches_advance terms volumes i (.fetching fetch) desk.book

theorem reaches_goOn (stage : BillingStage α) (desk : PriceDesk σ α) (steps : Nat) :
    b.Reaches terms volumes i stage.pricing desk.book
      (b.goOn terms volumes now visitor i stage desk steps).stage.pricing
      (b.goOn terms volumes now visitor i stage desk steps).desk.book := by
  induction steps generalizing stage desk with
  | zero => exact .of_alike (.refl _)
  | succ steps ih =>
    cases stage with
    | listed opening => exact .of_alike (.refl _)
    | queued station fetch => exact .of_alike (.refl _)
    | billed outcome => exact .of_alike (.refl _)
    | admitted station fetch =>
      exact (b.reaches_pass terms volumes i desk now visitor fetch station).trans (ih _ _)
    | fetching wake fetch =>
      simp only [goOn]
      split
      · exact (b.reaches_wakeUp terms volumes i desk now visitor fetch).trans (ih _ _)
      · exact .of_alike (.refl _)
    | asleep wake fetch =>
      simp only [goOn]
      split
      · exact (b.reaches_wakeUp terms volumes i desk now visitor fetch).trans (ih _ _)
      · exact .of_alike (.refl _)

/-- **A turn** takes its instance some way along its pricing. -/
theorem reaches_turn (stage : BillingStage α) (desk : PriceDesk σ α) (steps : Nat) :
    b.Reaches terms volumes i stage.pricing desk.book
      (b.turn terms volumes now visitor i stage desk steps).stage.pricing
      (b.turn terms volumes now visitor i stage desk steps).desk.book := by
  have begins : (desk.begin visitor stage).1.pricing = stage.pricing
      ∧ (desk.begin visitor stage).2.book = desk.book := by
    unfold PriceDesk.begin
    split
    · exact ⟨rfl, rfl⟩
    · exact ⟨PriceDesk.pricing_arrive .., PriceDesk.book_arrive ..⟩
    · exact ⟨rfl, rfl⟩
  have onward := b.reaches_goOn terms volumes i now visitor (desk.begin visitor stage).1
    (desk.begin visitor stage).2 steps
  rwa [begins.1, begins.2] at onward

end Turns

/-! ## Groups -/

variable (b terms volumes) in
/-- Whether instances come from some stages to others by some schedule. -/
def Scheduled (lines : List (Instance × PricingStage α)) (book : PriceBook σ α)
    (lines' : List (Instance × PricingStage α)) (book' : PriceBook σ α) : Prop :=
  ∃ schedule, (b.sideBySide terms volumes schedule (lines, book)).1 = lines'
    ∧ (b.sideBySide terms volumes schedule (lines, book)).2.Alike book'

theorem Scheduled.refl (lines : List (Instance × PricingStage α)) (book : PriceBook σ α) :
    b.Scheduled terms volumes lines book lines book :=
  ⟨[], rfl, .refl _⟩

theorem Scheduled.trans {lines lines' lines'' : List (Instance × PricingStage α)}
    {book book' book'' : PriceBook σ α}
    (first : b.Scheduled terms volumes lines book lines' book')
    (second : b.Scheduled terms volumes lines' book' lines'' book'') :
    b.Scheduled terms volumes lines book lines'' book'' := by
  obtain ⟨before, reached, alike⟩ := first
  obtain ⟨after, reached', alike'⟩ := second
  refine ⟨before ++ after, ?_⟩
  have rest := b.sideBySide_alike terms volumes alike after lines'
  rw [sideBySide_append, ← Prod.eta (b.sideBySide terms volumes before (lines, book)), reached]
  exact ⟨rest.1.trans reached', rest.2.trans alike'⟩

variable (b terms volumes)

theorem scheduled_giveTurn (g : GroupBilling σ α) (place : Nat) :
    b.Scheduled terms volumes g.progress g.desk.book (b.giveTurn terms volumes g place).progress
      (b.giveTurn terms volumes g place).desk.book := by
  unfold giveTurn
  split
  · next line here =>
    have there : g.progress[place]? = some (line.item, line.stage.pricing) := by
      simp [GroupBilling.progress, GroupBilling.progressOf, here]
    rw [GroupBilling.progress_after here]
    exact (b.reaches_turn terms volumes line.item g.now place line.stage g.desk
      g.steps).exists_schedule there
  · exact .refl _ _

theorem scheduled_roundInOrder (g : GroupBilling σ α) :
    b.Scheduled terms volumes g.progress g.desk.book (b.roundInOrder terms volumes g).progress
      (b.roundInOrder terms volumes g).desk.book := by
  unfold roundInOrder
  induction List.range g.lines.length generalizing g with
  | nil => exact .refl _ _
  | cons place rest ih =>
    rw [List.foldl_cons]
    split
    · exact (b.scheduled_giveTurn terms volumes g place).trans (ih _)
    · exact ih g

theorem scheduled_roundInQueue (unbilled turns : Nat) (g : GroupBilling σ α) :
    b.Scheduled terms volumes g.progress g.desk.book
      (b.roundInQueue terms volumes unbilled turns g).progress
      (b.roundInQueue terms volumes unbilled turns g).desk.book := by
  fun_induction roundInQueue b terms volumes unbilled turns g with
  | case1 => exact .refl _ _
  | case2 => exact .refl _ _
  | case3 unbilled turns g place _ _ next billed ih =>
    exact (b.scheduled_giveTurn ..).trans ih
  | case4 unbilled turns g place _ _ next billed ih =>
    exact (b.scheduled_giveTurn ..).trans ih

theorem scheduled_rounds (g : GroupBilling σ α) :
    b.Scheduled terms volumes g.progress g.desk.book (b.rounds terms volumes g).progress
      (b.rounds terms volumes g).desk.book := by
  have round (g : GroupBilling σ α) :
      b.Scheduled terms volumes g.progress g.desk.book (b.round terms volumes g).progress
        (b.round terms volumes g).desk.book := by
    unfold Biller.round
    split
    · exact b.scheduled_roundInOrder ..
    · exact b.scheduled_roundInQueue ..
  have unmoved (g : GroupBilling σ α) :
      g.nextRound.progress = g.progress ∧ g.nextRound.desk = g.desk := by
    unfold GroupBilling.nextRound
    split <;> exact ⟨rfl, rfl⟩
  fun_induction rounds b terms volumes g with
  | case1 g next less settled => exact round g
  | case2 g next less unsettled ih =>
    rw [(unmoved next).1, (unmoved next).2] at ih
    exact (round g).trans ih
  | case3 g next stuck => exact round g

/-- Whoever waits for a fetch goes on with it until the price is there. -/
theorem reaches_await (i : Instance) (book : PriceBook σ α) (fetch : SpotFetch α) :
    b.Reaches terms volumes i (.fetching fetch) book
      (.priced ((book.await b.spot b.retry fetch).1.map
        (b.withExtras terms volumes i fetch.request.start fetch.request.stop)))
      (book.await b.spot b.retry fetch).2 := by
  have once (book : PriceBook σ α) (fetch : SpotFetch α) :=
    b.reaches_advance terms volumes i (.fetching fetch) book
  fun_induction PriceBook.await b.spot b.retry book fetch with
  | case1 book fetch outcome after answered =>
    have step := once book fetch
    simp only [advance, resume, answered] at step
    exact step
  | case2 book fetch later after waits ih =>
    have step := once book fetch
    simp only [advance, resume, waits] at step
    obtain ⟨start, stop⟩ := PriceBook.range_of_waiting waits
    rw [start, stop] at ih
    exact step.trans ih

/-- Whoever asks alone does so until the price is there. -/
theorem reaches_settle (i : Instance) (book : PriceBook σ α) (fetch : SpotFetch α) :
    b.Reaches terms volumes i (.asking fetch) book
      (.priced ((book.settle b.spot b.retry fetch).1.map
        (b.withExtras terms volumes i fetch.request.start fetch.request.stop)))
      (book.settle b.spot b.retry fetch).2 := by
  have step := b.reaches_advance terms volumes i (.asking fetch) book
  unfold PriceBook.settle
  split
  · next outcome after answered =>
    simp only [advance, quote, answered] at step
    exact step
  · next later after waits =>
    simp only [advance, quote, waits] at step
    obtain ⟨start, stop⟩ : later.request.start = fetch.request.start
        ∧ later.request.stop = fetch.request.stop := by
      simp only [PriceBook.price] at waits
      split at waits
      · exact PriceBook.range_of_waiting waits
      · simp at waits
    have rest := b.reaches_await terms volumes i after later
    rw [start, stop] at rest
    exact step.trans rest

/-- An instance that is billed on its own turns to the book until the price is there. -/
theorem reaches_instanceCost (i : Instance) (book : PriceBook σ α) :
    b.Reaches terms volumes i (.ofOpening (b.opening terms volumes i)) book
      (.priced (b.instanceCost terms volumes i book).1)
      (b.instanceCost terms volumes i book).2 := by
  unfold instanceCost
  cases b.opening terms volumes i with
  | priced outcome => exact .of_alike (.refl _)
  | waiting fetch => exact b.reaches_settle terms volumes i book fetch

/-- Books that answer alike bill an instance alike. -/
theorem instanceCost_alike {book book' : PriceBook σ α} (alike : book.Alike book')
    (i : Instance) :
    (b.instanceCost terms volumes i book).1 = (b.instanceCost terms volumes i book').1
      ∧ (b.instanceCost terms volumes i book).2.Alike
        (b.instanceCost terms volumes i book').2 :=
  (b.reaches_instanceCost terms volumes i book).unique
    ((b.reaches_instanceCost terms volumes i book').of_alike_start alike)

/-- Whoever goes on alone turns to the book until the price is there. -/
theorem reaches_finish (line : InstanceBilling α) (book : PriceBook σ α) :
    b.Reaches terms volumes line.item line.stage.pricing book
      (.priced (b.finish terms volumes line book).1) (b.finish terms volumes line book).2 := by
  obtain ⟨item, stage⟩ := line
  cases stage with
  | listed opening =>
    cases opening with
    | priced outcome => exact .of_alike (.refl _)
    | waiting fetch => exact b.reaches_settle terms volumes item book fetch
  | queued station fetch => exact b.reaches_settle terms volumes item book fetch
  | admitted station fetch => exact b.reaches_settle terms volumes item book fetch
  | fetching wake fetch => exact b.reaches_await terms volumes item book fetch
  | asleep wake fetch => exact b.reaches_await terms volumes item book fetch
  | billed outcome => exact .of_alike (.refl _)

theorem scheduled_outcomes (lines : List (InstanceBilling α))
    (done : List (Instance × PricingStage α)) (book : PriceBook σ α) :
    b.Scheduled terms volumes (done ++ GroupBilling.progressOf lines) book
      (done ++ (b.outcomes terms volumes lines book).1.map fun cost => (cost.1, .priced cost.2))
      (b.outcomes terms volumes lines book).2 := by
  induction lines generalizing done book with
  | nil => exact .refl _ _
  | cons line rest ih =>
    have here : (done ++ GroupBilling.progressOf (line :: rest))[done.length]?
        = some (line.item, line.stage.pricing) := by
      simp [GroupBilling.progressOf]
    have first := (b.reaches_finish terms volumes line book).exists_schedule here
    have others := ih (done ++ [(line.item, .priced (b.finish terms volumes line book).1)])
      (b.finish terms volumes line book).2
    simp only [GroupBilling.progressOf, List.map_cons, List.set_append_right _ _ (Nat.le_refl _),
      Nat.sub_self, List.set_cons_zero] at first
    simp only [List.append_assoc, List.singleton_append] at others
    exact Scheduled.trans first others

/-- **The costs of a group are those of some schedule.** -/
theorem exists_schedule_groupCosts (g : GroupInstances) (steps : Nat) (book : PriceBook σ α) :
    b.Scheduled terms g.group.volumes (b.openings terms g) book
      ((b.groupCosts terms g steps book).costs.map fun cost => (cost.1, .priced cost.2))
      (b.groupCosts terms g steps book).book := by
  have start : (GroupBilling.start b terms g steps book).progress = b.openings terms g := by
    simp only [GroupBilling.progress, GroupBilling.progressOf, GroupBilling.start, openings,
      List.map_map]
    rfl
  have rounds := b.scheduled_rounds terms g.group.volumes (.start b terms g steps book)
  rw [start] at rounds
  exact rounds.trans (b.scheduled_outcomes terms g.group.volumes _ [] _)

end Biller

end ClusterBilling
