import ClusterBilling.Spot.Fetch

/-!
# The price book

The book keeps the history of every market asked for so far. To price an interval it first looks
whether the history may lack observations, and if so fetches the range from its source, and only
when all pages are there merges them. A fetch that fails leaves every history as it was; the
source's own state moves on, whatever happened.

The price of an interval is either there or waits for a fetch. `PriceBook.cost` does nothing but
wait; others may ask the book for more while they do. A market is known to the book from when it
is entered, which may be before anything was observed in it.
-/

namespace ClusterBilling

/-- Something with a price, as far as it is known. -/
inductive Pricing (α β : Type)
  | priced (outcome : Except Fault β)
  /-- The price waits for a fetch of spot prices. -/
  | waiting (fetch : SpotFetch α)

namespace Pricing

variable {α β γ : Type}

/-- What is made from the price once it is there. -/
def map (f : β → γ) : Pricing α β → Pricing α γ
  | priced outcome => priced (outcome.map f)
  | waiting fetch => waiting fetch

end Pricing

/-- The histories known so far, and the state of the source. -/
structure PriceBook (σ α : Type) where
  histories : OrderedMap Market (History α)
  source : σ

namespace PriceBook

variable {σ α : Type}

/-- A book without histories. -/
def start (s : σ) : PriceBook σ α := ⟨.empty, s⟩

/-- The history of a market, empty where nothing is known. -/
def history (book : PriceBook σ α) (market : Market) : History α :=
  book.histories.getD market .empty

/-- Whether a market has a history, if only an empty one. -/
def knows (book : PriceBook σ α) (market : Market) : Bool := book.histories.contains market

/-- The book with a history for a market. -/
def enter (book : PriceBook σ α) (market : Market) : PriceBook σ α :=
  { book with histories := book.histories.insert market (book.history market) }

/-- Adds observations to the history of a market. -/
def extend (book : PriceBook σ α) (market : Market) (observations : List (Observation α)) :
    PriceBook σ α :=
  { book with
    histories := book.histories.insert market ((book.history market).extend observations) }

variable [Amount α]

/-- The price of a fetched range: what was fetched is merged, and the history integrated. -/
def conclude (book : PriceBook σ α) (fetch : SpotFetch α) :
    SpotFetch.Progress α → Pricing α α × PriceBook σ α
  | .waiting fetch => (.waiting fetch, book)
  | .ended (.error fault) => (.priced (.error fault), book)
  | .ended (.ok observations) =>
    let book := book.extend fetch.request.market observations
    (.priced (.ok ((book.history fetch.request.market).integrate fetch.request.start
      fetch.request.stop)), book)

/-- Goes on with the fetch that a price waits for. -/
def resume (source : SpotSource σ α) (retry : RetryPolicy) (book : PriceBook σ α)
    (fetch : SpotFetch α) : Pricing α α × PriceBook σ α :=
  let (progress, s) := fetch.proceed source retry book.source
  conclude { book with source := s } fetch progress

/-- Asks for one page of the fetch that a price waits for. -/
def askPage (source : SpotSource σ α) (retry : RetryPolicy) (book : PriceBook σ α)
    (fetch : SpotFetch α) : Pricing α α × PriceBook σ α :=
  let (progress, s) := fetch.askPage source retry book.source
  conclude { book with source := s } fetch progress

/-- Enters the market of a fetch and looks at its history; the first page is asked for if
observations may be missing. -/
def look (source : SpotSource σ α) (retry : RetryPolicy) (book : PriceBook σ α)
    (fetch : SpotFetch α) : Pricing α α × PriceBook σ α :=
  let range := fetch.request
  let history := book.history range.market
  let book := book.enter range.market
  if history.needsRefresh range.start range.stop then book.askPage source retry fetch
  else (.priced (.ok (history.integrate range.start range.stop)), book)

/-- **The spot price of the interval of a fetch**; the fetch is made if observations may be
missing. -/
def price (source : SpotSource σ α) (retry : RetryPolicy) (book : PriceBook σ α)
    (fetch : SpotFetch α) : Pricing α α × PriceBook σ α :=
  let range := fetch.request
  let history := book.history range.market
  if history.needsRefresh range.start range.stop then book.resume source retry fetch
  else (.priced (.ok (history.integrate range.start range.stop)), book)

theorem eq_waiting_of_conclude {book after : PriceBook σ α} {fetch later : SpotFetch α}
    {progress : SpotFetch.Progress α}
    (waits : book.conclude fetch progress = (.waiting later, after)) :
    progress = .waiting later ∧ after = book := by
  unfold conclude at waits
  split at waits <;> simp_all

/-- A fetch is lighter when a price waits for it again. -/
theorem weight_lt_of_resume {source : SpotSource σ α} {retry : RetryPolicy}
    {book after : PriceBook σ α} {fetch later : SpotFetch α}
    (waits : book.resume source retry fetch = (.waiting later, after)) :
    later.weight source retry after.source < fetch.weight source retry book.source := by
  unfold resume at waits
  obtain ⟨progress, unchanged⟩ := eq_waiting_of_conclude waits
  subst unchanged
  exact fetch.weight_lt_of_waiting source retry (Prod.ext progress rfl)

/-- The price that waited for a fetch, after all its waits. -/
def await (source : SpotSource σ α) (retry : RetryPolicy) (book : PriceBook σ α)
    (fetch : SpotFetch α) : Except Fault α × PriceBook σ α :=
  match _waits : book.resume source retry fetch with
  | (.priced outcome, book) => (outcome, book)
  | (.waiting fetch, book) => await source retry book fetch
termination_by fetch.weight source retry book.source
decreasing_by exact weight_lt_of_resume _waits

/-- The spot price of the interval of a fetch, with whatever fetching and waiting it takes. -/
def settle (source : SpotSource σ α) (retry : RetryPolicy) (book : PriceBook σ α)
    (fetch : SpotFetch α) : Except Fault α × PriceBook σ α :=
  match book.price source retry fetch with
  | (.priced outcome, book) => (outcome, book)
  | (.waiting fetch, book) => book.await source retry fetch

/-- **The spot cost of an interval.** -/
def cost (source : SpotSource σ α) (retry : RetryPolicy) (book : PriceBook σ α) (market : Market)
    (start stop : Instant) : Except Fault α × PriceBook σ α :=
  book.settle source retry (.start retry market start stop)

end PriceBook

end ClusterBilling
