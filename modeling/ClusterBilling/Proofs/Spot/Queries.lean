import ClusterBilling.Proofs.OrderedMap
import ClusterBilling.Spot.Book

/-!
# Questions to a price book

A price book is asked for the cost of intervals in markets, one after the other, and every answer
may leave it with more observations than it had. Asking for one market changes the history of no
other.
-/

namespace ClusterBilling

/-- An interval in a market, whose cost is asked for. -/
structure SpotQuery where
  market : Market
  start : Instant
  stop : Instant
deriving DecidableEq

namespace History

variable {α : Type}

@[simp] theorem get?_empty (time : Instant) : (empty : History α).points.get? time = none := rfl

/-- The price of the last of some observations at an instant. -/
def lastPrice (time : Instant) (observations : List (Observation α)) : Option α :=
  OrderedMap.lastOf time (observations.map fun o => (o.time, o.price))

theorem lastPrice_eq (time : Instant) (observations : List (Observation α)) :
    lastPrice time observations
      = (observations.reverse.find? fun o => decide (o.time = time)).map Observation.price := by
  simp only [lastPrice, OrderedMap.lastOf, ← List.map_reverse, List.find?_map, Option.map_map]
  rfl

/-- **The last of some observations at an instant stays.** -/
theorem get?_extend (h : History α) (observations : List (Observation α)) (time : Instant) :
    (h.extend observations).points.get? time
      = (lastPrice time observations).or (h.points.get? time) :=
  OrderedMap.get?_overlay ..

theorem contains_extend {h : History α} {observations : List (Observation α)} {time : Instant} :
    (h.extend observations).points.contains time
      ↔ (∃ o ∈ observations, o.time = time) ∨ h.points.contains time := by
  rw [OrderedMap.contains_eq_isSome, get?_extend, Option.isSome_or, Bool.or_eq_true, lastPrice,
    OrderedMap.isSome_lastOf, OrderedMap.contains_eq_isSome]
  simp

end History

namespace PriceBook

variable {σ α : Type}

theorem history_insert (histories : OrderedMap Market (History α)) (s : σ) (market other : Market)
    (h : History α) :
    (⟨histories.insert market h, s⟩ : PriceBook σ α).history other
      = if other = market then h else (⟨histories, s⟩ : PriceBook σ α).history other := by
  simp only [history, OrderedMap.getD, OrderedMap.get?_insert]
  split <;> rfl

/-- Observations of one market leave the others as they are. -/
theorem history_extend (book : PriceBook σ α) (market other : Market)
    (observations : List (Observation α)) :
    (book.extend market observations).history other
      = if other = market then (book.history market).extend observations
        else book.history other :=
  history_insert ..

/-- A market that is entered has the history it had. -/
theorem history_enter (book : PriceBook σ α) (market other : Market) :
    (book.enter market).history other = book.history other := by
  refine (history_insert ..).trans ?_
  split
  · next same => rw [same]
  · rfl

variable [Amount α]

/-- The answer to a question, and the book afterwards. -/
def ask (source : SpotSource σ α) (retry : RetryPolicy) (book : PriceBook σ α) (query : SpotQuery) :
    Except Fault α × PriceBook σ α :=
  book.cost source retry query.market query.start query.stop

/-- The book after some questions. -/
def askAll (source : SpotSource σ α) (retry : RetryPolicy) (book : PriceBook σ α)
    (queries : List SpotQuery) : PriceBook σ α :=
  queries.foldl (fun book query => (book.ask source retry query).2) book

omit [Amount α] in
/-- Whether the source is asked before a question is answered. -/
def fetchesFor (book : PriceBook σ α) (query : SpotQuery) : Bool :=
  (book.history query.market).needsRefresh query.start query.stop

theorem askAll_append (source : SpotSource σ α) (retry : RetryPolicy) (book : PriceBook σ α)
    (first second : List SpotQuery) :
    book.askAll source retry (first ++ second)
      = (book.askAll source retry first).askAll source retry second :=
  List.foldl_append ..

/-- What the book holds for sure is answered from it. -/
theorem ask_of_not_fetchesFor (source : SpotSource σ α) (retry : RetryPolicy)
    {book : PriceBook σ α} {query : SpotQuery} (sure : book.fetchesFor query = false) :
    book.ask source retry query
      = (.ok ((book.history query.market).integrate query.start query.stop), book) := by
  have settled : book.price source retry (.start retry query.market query.start query.stop)
      = (.priced (.ok ((book.history query.market).integrate query.start query.stop)), book) :=
    if_neg (Bool.eq_false_iff.mp sure)
  rw [ask, cost, settle, settled]

/-- A fetch that ends is merged, and the history then integrated. -/
theorem resume_of_ended {source : SpotSource σ α} {retry : RetryPolicy} {book : PriceBook σ α}
    {fetch : SpotFetch α} {observations : List (Observation α)} {s : σ}
    (ended : fetch.proceed source retry book.source = (.ended (.ok observations), s)) :
    book.resume source retry fetch
      = (.priced (.ok (((book.history fetch.request.market).extend observations).integrate
          fetch.request.start fetch.request.stop)),
        { book with source := s }.extend fetch.request.market observations) := by
  unfold resume
  rw [ended]
  simp only [conclude, history_extend, if_true]
  rfl

/-- A question that needs a range of the source is answered once the range is there. -/
theorem ask_of_fetched {source : SpotSource σ α} {retry : RetryPolicy} {book : PriceBook σ α}
    {query : SpotQuery} {observations : List (Observation α)} {s : σ}
    (unsure : book.fetchesFor query = true)
    (fetched : (SpotFetch.start retry query.market query.start query.stop).proceed source retry
      book.source = (.ended (.ok observations), s)) :
    book.ask source retry query
      = (.ok (((book.history query.market).extend observations).integrate query.start query.stop),
        { book with source := s }.extend query.market observations) := by
  have settled : book.price source retry (.start retry query.market query.start query.stop)
      = (.priced (.ok (((book.history query.market).extend observations).integrate query.start
          query.stop)), { book with source := s }.extend query.market observations) :=
    (if_pos unsure).trans (resume_of_ended fetched)
  rw [ask, cost, settle, settled]

end PriceBook

end ClusterBilling
