import ClusterBilling.Billing.Gate
import ClusterBilling.Billing.Instance

/-!
# The turn of an instance

The instances of a group are billed side by side. Those on the spot market share a price book, and
pass three gates on the way to their price: they look their market up in the index of the book,
enter it if it is missing there, and ask the history of the market, which they hold until their
price is known, all waits of a fetch included. Waits end on whole milliseconds.

A turn takes one instance as far as it comes. It spends a step for every gate that is passed and
every wait that has ended; without a step the instance stands where it is, inside the gate if it
was let in. A turn cannot spend more steps than it is given, and that is why it ends.

An instance with no spot price to ask for is billed by its first turn, which needs no step.
-/

namespace ClusterBilling

/-- What an instance passes on the way to its spot price. -/
inductive Station
  /-- The market is looked up. -/
  | lookUp
  /-- The market is entered. -/
  | entry
  /-- The history of the market is asked. -/
  | history
deriving DecidableEq, Repr

namespace Station

/-- Only looking up goes together with others. -/
def access : Station → Access
  | .lookUp => .shared
  | .entry | .history => .alone

/-- How many stations there are from here on. -/
def distance : Station → Nat
  | .lookUp => 3
  | .entry => 2
  | .history => 1

end Station

/-- How far the billing of an instance has come. -/
inductive BillingStage (α : Type)
  /-- Its first turn is still to come. -/
  | listed (opening : Pricing α (InstanceCost α))
  /-- Waits before the gate of a station. -/
  | queued (station : Station) (fetch : SpotFetch α)
  /-- Is inside the gate of a station. -/
  | admitted (station : Station) (fetch : SpotFetch α)
  /-- A fetch goes on at a certain time, in milliseconds. -/
  | fetching (wake : Nat) (fetch : SpotFetch α)
  /-- Sleeps until a fetch goes on. -/
  | asleep (wake : Nat) (fetch : SpotFetch α)
  | billed (outcome : Except Fault (InstanceCost α))

namespace BillingStage

variable {σ α : Type}

def isBilled : BillingStage α → Bool
  | .billed _ => true
  | _ => false

/-- Whether only steps were missing to go on. -/
def isPaused (now : Nat) : BillingStage α → Bool
  | .admitted _ _ | .fetching _ _ => true
  | .asleep wake _ => wake ≤ now
  | _ => false

/-- The end of a sleep. -/
def wake? : BillingStage α → Option Nat
  | .asleep wake _ => some wake
  | _ => none

/-- The stage of one who is let in. -/
def letIn : BillingStage α → BillingStage α
  | .queued station fetch => .admitted station fetch
  | stage => stage

/-- A measure of what is left to do. -/
def weight (source : SpotSource σ α) (retry : RetryPolicy) (s : σ) : BillingStage α → Nat
  | .listed (.priced _) => 1
  | .listed (.waiting fetch) => 2 * fetch.weight source retry s + 4
  | .queued station fetch | .admitted station fetch =>
    2 * fetch.weight source retry s + station.distance
  | .fetching _ fetch => 2 * fetch.weight source retry s + 2
  | .asleep _ fetch => 2 * fetch.weight source retry s + 1
  | .billed _ => 0

end BillingStage

/-- A price book with the gates before it. -/
structure PriceDesk (σ α : Type) where
  book : PriceBook σ α
  /-- Before the index of the markets. -/
  index : Gate
  /-- Before the history of each market. -/
  histories : OrderedMap Market Gate

namespace PriceDesk

variable {σ α : Type}

/-- A desk nobody has come to. -/
def start (book : PriceBook σ α) : PriceDesk σ α := ⟨book, .free, .empty⟩

/-- The gate of a station. -/
def gate (desk : PriceDesk σ α) (market : Market) : Station → Gate
  | .history => desk.histories.getD market .free
  | _ => desk.index

def setGate (desk : PriceDesk σ α) (market : Market) (gate : Gate) : Station → PriceDesk σ α
  | .history => { desk with histories := desk.histories.insert market gate }
  | _ => { desk with index := gate }

/-- An instance comes to a station. -/
def arrive (desk : PriceDesk σ α) (visitor : Nat) (station : Station) (fetch : SpotFetch α) :
    BillingStage α × PriceDesk σ α :=
  let market := fetch.request.market
  let (gate, inside) := (desk.gate market station).arrive ⟨visitor, station.access⟩
  (if inside then .admitted station fetch else .queued station fetch,
    desk.setGate market gate station)

/-- An instance leaves a station: the desk then, and those let in. -/
def leave (desk : PriceDesk σ α) (visitor : Nat) (station : Station) (market : Market) :
    PriceDesk σ α × List Nat :=
  let (gate, admitted) := (desk.gate market station).leave visitor
  (desk.setGate market gate station, admitted)

/-- An instance that was only listed so far begins. -/
def begin (desk : PriceDesk σ α) (visitor : Nat) : BillingStage α → BillingStage α × PriceDesk σ α
  | .listed (.priced outcome) => (.billed outcome, desk)
  | .listed (.waiting fetch) => desk.arrive visitor .lookUp fetch
  | stage => (stage, desk)

end PriceDesk

/-- What a turn leaves. -/
structure TurnEnd (σ α : Type) where
  stage : BillingStage α
  desk : PriceDesk σ α
  /-- The steps that were not spent. -/
  steps : Nat
  /-- The instances that were let in at gates, in order. -/
  admitted : List Nat

namespace Biller

variable {σ α : Type} [Amount α]

/-- What follows from an answer of the book: a bill, or a wait inside the gate. -/
def conclude (now visitor : Nat) (market : Market) (desk : PriceDesk σ α) :
    Pricing α (InstanceCost α) → BillingStage α × PriceDesk σ α × List Nat
  | .priced outcome => (.billed outcome, desk.leave visitor .history market)
  | .waiting fetch => (.fetching (now + fetch.attempts.lastWait.toMillis) fetch, desk, [])

/-- An instance goes from a station to the next. -/
def pass (b : Biller σ α) (terms : BillingTerms) (volumes : List Volume) (now visitor : Nat)
    (i : Instance) (fetch : SpotFetch α) (desk : PriceDesk σ α) :
    Station → BillingStage α × PriceDesk σ α × List Nat
  | .lookUp =>
    let market := fetch.request.market
    let (desk, admitted) := desk.leave visitor .lookUp market
    let next := if desk.book.knows market then .history else .entry
    let (stage, desk) := desk.arrive visitor next fetch
    (stage, desk, admitted)
  | .entry =>
    let market := fetch.request.market
    let desk := { desk with book := desk.book.enter market }
    let (desk, admitted) := desk.leave visitor .entry market
    let (stage, desk) := desk.arrive visitor .history fetch
    (stage, desk, admitted)
  | .history =>
    let (pricing, book) := b.quote terms volumes i fetch desk.book
    conclude now visitor fetch.request.market { desk with book := book } pricing

/-- A wait has ended. -/
def wakeUp (b : Biller σ α) (terms : BillingTerms) (volumes : List Volume) (now visitor : Nat)
    (i : Instance) (fetch : SpotFetch α) (desk : PriceDesk σ α) :
    BillingStage α × PriceDesk σ α × List Nat :=
  let (pricing, book) := b.resume terms volumes i fetch desk.book
  conclude now visitor fetch.request.market { desk with book := book } pricing

/-- Goes on as long as there are steps. -/
def goOn (b : Biller σ α) (terms : BillingTerms) (volumes : List Volume) (now visitor : Nat)
    (i : Instance) (stage : BillingStage α) (desk : PriceDesk σ α) : Nat → TurnEnd σ α
  | 0 => ⟨stage, desk, 0, []⟩
  | steps + 1 =>
    let spend (after : BillingStage α × PriceDesk σ α × List Nat) : TurnEnd σ α :=
      let rest := goOn b terms volumes now visitor i after.1 after.2.1 steps
      { rest with admitted := after.2.2 ++ rest.admitted }
    match stage with
    | .admitted station fetch => spend (b.pass terms volumes now visitor i fetch desk station)
    | .fetching wake fetch =>
      if wake ≤ now then spend (b.wakeUp terms volumes now visitor i fetch desk)
      else ⟨.asleep wake fetch, desk, steps + 1, []⟩
    | .asleep wake fetch =>
      if wake ≤ now then spend (b.wakeUp terms volumes now visitor i fetch desk)
      else ⟨stage, desk, steps + 1, []⟩
    | .listed _ | .queued _ _ | .billed _ => ⟨stage, desk, steps + 1, []⟩

/-- **A turn** of an instance. -/
def turn (b : Biller σ α) (terms : BillingTerms) (volumes : List Volume) (now visitor : Nat)
    (i : Instance) (stage : BillingStage α) (desk : PriceDesk σ α) (steps : Nat) : TurnEnd σ α :=
  let (stage, desk) := desk.begin visitor stage
  b.goOn terms volumes now visitor i stage desk steps

end Biller

end ClusterBilling
