import ClusterBilling.Proofs.Spot.Queries

/-!
# What a question does to a book

A question that the book cannot answer for sure makes it fetch a range: the source is asked for
page after page, a page that fails is asked for again or given up on, and only a complete range is
merged. `SpotSource.Fetches` says which exchanges with a source are the fetch of a range. **A
question that fails leaves every history as it was; one that is answered changes that of its own
market only**, by the observations of the pages in order, if the source was asked at all
(`ask_exchanges`). Nothing that a book has observed is ever forgotten.

The source is free to give any pages and any failures, and the exchanges go on from the state in
which the latest one left it.
-/

namespace ClusterBilling

/-- A question to a source of spot prices, and the answer. -/
structure Exchange (α : Type) where
  request : PageRequest
  answer : Except Fault (SpotPage α)

/-- The observations of the page that was answered, if one was. -/
def Exchange.observations {α : Type} (e : Exchange α) : List (Observation α) :=
  match e.answer with
  | .ok page => page.observations
  | .error _ => []

/-- **The fetch of a range** from a page on: after a page comes the one that its token names, and
after a failure the same page again, until the last page is there or a failure is given up on. The
truth value says whether the range is complete. -/
inductive SpotSource.Fetches {σ α : Type} (source : SpotSource σ α) :
    PageRequest → σ → List (Exchange α) → Bool → σ → Prop
  | last {request : PageRequest} {s s' : σ} {page : SpotPage α}
    (answered : source.page request s = (.ok page, s')) (last : page.next? = none) :
    Fetches source request s [⟨request, .ok page⟩] true s'
  | next {request : PageRequest} {s s' s'' : σ} {page : SpotPage α} {token : String}
    {rest : List (Exchange α)} {complete : Bool}
    (answered : source.page request s = (.ok page, s')) (next : page.next? = some token)
    (others : Fetches source { request with token := some token } s' rest complete s'') :
    Fetches source request s (⟨request, .ok page⟩ :: rest) complete s''
  | again {request : PageRequest} {s s' s'' : σ} {fault : Fault} {rest : List (Exchange α)}
    {complete : Bool} (failed : source.page request s = (.error fault, s'))
    (others : Fetches source request s' rest complete s'') :
    Fetches source request s (⟨request, .error fault⟩ :: rest) complete s''
  | givenUp {request : PageRequest} {s s' : σ} {fault : Fault}
    (failed : source.page request s = (.error fault, s')) :
    Fetches source request s [⟨request, .error fault⟩] false s'

namespace SpotFetch

variable {σ α : Type} (source : SpotSource σ α)

/-- What is known of a fetch that went on from some state: which exchanges took place, what was
gathered if it ended, and how it continues if it waits. -/
def GoesOn (f : SpotFetch α) (s : σ) : Progress α → σ → Prop
  | .ended (.ok observations), s' =>
    ∃ exchanges, source.Fetches f.request s exchanges true s'
      ∧ observations = f.gathered ++ exchanges.flatMap Exchange.observations
  | .ended (.error _), s' => ∃ exchanges, source.Fetches f.request s exchanges false s'
  | .waiting later, s' =>
    ∃ exchanges, later.request = { f.request with token := later.request.token }
      ∧ later.gathered = f.gathered ++ exchanges.flatMap Exchange.observations
      ∧ ∀ rest complete s'', source.Fetches later.request s' rest complete s'' →
        source.Fetches f.request s (exchanges ++ rest) complete s''

variable {source}

/-- A fetch that goes on behind an exchange went on before it. -/
theorem GoesOn.behind {f next : SpotFetch α} {s s' s'' : σ} {e : Exchange α}
    {progress : Progress α} (goesOn : next.GoesOn source s' progress s'')
    (request : next.request = { f.request with token := next.request.token })
    (gathered : next.gathered = f.gathered ++ e.observations)
    (fetches : ∀ rest complete s'', source.Fetches next.request s' rest complete s'' →
      source.Fetches f.request s (e :: rest) complete s'') :
    f.GoesOn source s progress s'' := by
  match progress, goesOn with
  | .ended (.ok _), ⟨exchanges, others, observed⟩ =>
    exact ⟨e :: exchanges, fetches _ _ _ others, by simp [observed, gathered]⟩
  | .ended (.error _), ⟨exchanges, others⟩ => exact ⟨e :: exchanges, fetches _ _ _ others⟩
  | .waiting later, ⟨exchanges, same, observed, others⟩ =>
    refine ⟨e :: exchanges, ?_, by simp [observed, gathered], fun rest complete s'' more =>
      fetches _ _ _ (others rest complete s'' more)⟩
    rw [same, request]

/-- **What a fetch does until it ends or waits.** -/
theorem goesOn_proceed (source : SpotSource σ α) (retry : RetryPolicy) (f : SpotFetch α) (s : σ) :
    f.GoesOn source s (f.proceed source retry s).1 (f.proceed source retry s).2 := by
  fun_induction proceed source retry f s with
  | case1 f s page s' answered last =>
    exact ⟨[⟨f.request, .ok page⟩], .last answered last, by simp [Exchange.observations]⟩
  | case2 f s page s' answered token next ih =>
    exact ih.behind rfl rfl fun _ _ _ others => .next answered next others
  | case3 f s fault s' failed => exact ⟨_, .givenUp failed⟩
  | case4 f s fault s' failed attempts goesOn =>
    exact ⟨[⟨f.request, .error fault⟩], rfl, by simp [Exchange.observations],
      fun _ _ _ others => .again failed others⟩

end SpotFetch

namespace PriceBook

variable {σ α : Type} [Amount α] (source : SpotSource σ α) (retry : RetryPolicy)

/-- What a price that waits for a fetch comes to in the end: the range is complete and merged, or
no history has changed. -/
inductive Settles (book : PriceBook σ α) (fetch : SpotFetch α) :
    Except Fault α → PriceBook σ α → Prop
  | merged {exchanges : List (Exchange α)} {s : σ} {observations : List (Observation α)}
    (fetches : source.Fetches fetch.request book.source exchanges true s)
    (gathered : observations = fetch.gathered ++ exchanges.flatMap Exchange.observations) :
    Settles book fetch
      (.ok (((book.history fetch.request.market).extend observations).integrate
        fetch.request.start fetch.request.stop))
      ({ book with source := s }.extend fetch.request.market observations)
  | failed {exchanges : List (Exchange α)} {s : σ} {fault : Fault}
    (fetches : source.Fetches fetch.request book.source exchanges false s) :
    Settles book fetch (.error fault) { book with source := s }

variable {source retry} {book after : PriceBook σ α} {fetch later : SpotFetch α}

/-- A fetch that ends is merged, or it has changed no history. -/
theorem settles_of_resume {outcome : Except Fault α}
    (answered : book.resume source retry fetch = (.priced outcome, after)) :
    book.Settles source fetch outcome after := by
  have goesOn := fetch.goesOn_proceed source retry book.source
  unfold resume at answered
  generalize fetch.proceed source retry book.source = went at goesOn answered
  obtain ⟨progress, s⟩ := went
  match progress with
  | .ended (.ok observations) =>
    obtain ⟨exchanges, fetches, gathered⟩ := goesOn
    cases answered
    simp only [history_extend, if_true]
    exact .merged fetches gathered
  | .ended (.error fault) =>
    obtain ⟨exchanges, fetches⟩ := goesOn
    cases answered
    exact .failed fetches
  | .waiting later => cases answered

/-- What comes of a fetch after a wait has come of it all along. -/
theorem Settles.of_waiting {outcome : Except Fault α} {final : PriceBook σ α}
    (waits : book.resume source retry fetch = (.waiting later, after))
    (settles : after.Settles source later outcome final) :
    book.Settles source fetch outcome final := by
  have goesOn := fetch.goesOn_proceed source retry book.source
  unfold resume at waits
  generalize fetch.proceed source retry book.source = went at goesOn waits
  obtain ⟨progress, s⟩ := went
  obtain ⟨rfl, rfl⟩ := eq_waiting_of_conclude waits
  obtain ⟨exchanges, request, before, fetches⟩ := goesOn
  cases settles with
  | merged others gathered =>
    rw [before, List.append_assoc, ← List.flatMap_append] at gathered
    have market : later.request.market = fetch.request.market := by rw [request]
    have start : later.request.start = fetch.request.start := by rw [request]
    have stop : later.request.stop = fetch.request.stop := by rw [request]
    rw [market, start, stop]
    exact .merged (fetches _ _ _ others) gathered
  | failed others => exact .failed (fetches _ _ _ others)

variable (source retry)

/-- **A price that waits comes to its end.** -/
theorem settles_await (book : PriceBook σ α) (fetch : SpotFetch α) :
    book.Settles source fetch (book.await source retry fetch).1
      (book.await source retry fetch).2 := by
  fun_induction await source retry book fetch with
  | case1 book fetch outcome after answered => exact settles_of_resume answered
  | case2 book fetch later after waits ih => exact .of_waiting waits ih

/-- A question that is fetched for is answered once the price has come to its end. -/
theorem settles_ask {book : PriceBook σ α} {query : SpotQuery}
    (unsure : book.fetchesFor query = true) :
    book.Settles source (.start retry query.market query.start query.stop)
      (book.ask source retry query).1 (book.ask source retry query).2 := by
  have asked : book.price source retry (.start retry query.market query.start query.stop)
      = book.resume source retry (.start retry query.market query.start query.stop) :=
    if_pos unsure
  rw [ask, cost, settle, asked]
  split
  · next outcome after answered => exact settles_of_resume answered
  · next later after waits => exact .of_waiting waits (settles_await source retry after later)

end PriceBook

/-! ## Runs -/

/-- The request for the first page of the range that a question needs. -/
def SpotQuery.firstPage (query : SpotQuery) : PageRequest :=
  ⟨query.market, query.start, query.stop, none⟩

/-- What a book is called for. -/
inductive BookCall (α : Type)
  /-- Observations are handed over. -/
  | seed (market : Market) (observations : List (Observation α))
  | ask (query : SpotQuery)
  /-- The history of a market is read. -/
  | snapshot (market : Market)

namespace PriceBook

variable {σ α : Type} [Amount α] (source : SpotSource σ α) (retry : RetryPolicy)

/-- The book after a call. -/
def call (book : PriceBook σ α) : BookCall α → PriceBook σ α
  | .seed market observations => book.extend market observations
  | .ask query => (book.ask source retry query).2
  | .snapshot market => book.enter market

/-- The book after some calls. -/
def callAll (book : PriceBook σ α) (calls : List (BookCall α)) : PriceBook σ α :=
  calls.foldl (call source retry) book

omit [Amount α] in
/-- Merging observations forgets nothing. -/
theorem contains_history_extend (book : PriceBook σ α) {market : Market} {time : Instant}
    (held : (book.history market).points.contains time) (other : Market)
    (observations : List (Observation α)) :
    ((book.extend other observations).history market).points.contains time := by
  rw [history_extend]
  split
  · next same => exact History.contains_extend.mpr (.inr (same ▸ held))
  · exact held

theorem contains_call {book : PriceBook σ α} {market : Market} {time : Instant}
    (held : (book.history market).points.contains time) (call : BookCall α) :
    ((book.call source retry call).history market).points.contains time := by
  cases call with
  | seed other observations => exact contains_history_extend book held other observations
  | snapshot other => exact (book.history_enter other market).symm ▸ held
  | ask query =>
    simp only [PriceBook.call]
    cases unsure : book.fetchesFor query with
    | false => rwa [ask_of_not_fetchesFor source retry unsure]
    | true =>
      have settles := settles_ask source retry unsure
      generalize book.ask source retry query = answered at settles ⊢
      obtain ⟨outcome, after⟩ := answered
      cases settles with
      | merged => exact contains_history_extend { book with source := _ } held _ _
      | failed => exact held

/-- **A book forgets nothing that it has observed.** -/
theorem contains_callAll {book : PriceBook σ α} {market : Market} {time : Instant}
    (held : (book.history market).points.contains time) (calls : List (BookCall α)) :
    ((book.callAll source retry calls).history market).points.contains time := by
  induction calls generalizing book with
  | nil => exact held
  | cons call rest ih => exact ih (contains_call source retry held call)

/-- **What a question does to a book**, after any calls. A question that the book answers for sure
changes nothing, and the source is not asked. For any other one the source is asked for its range,
page after page. If that fails every history is as it was. Otherwise only the history of the
market has changed: the observations of all pages, in order, were written over it, and the answer
is its integral. No observed instant is ever lost. -/
theorem ask_exchanges (source : SpotSource σ α) (retry : RetryPolicy) (book : PriceBook σ α)
    (calls : List (BookCall α)) :
    (∀ market time, (book.history market).points.contains time →
        ((book.callAll source retry calls).history market).points.contains time)
      ∧ ∀ query : SpotQuery,
        let before := book.callAll source retry calls
        let answer := (before.ask source retry query).1
        let after := (before.ask source retry query).2
        (before.fetchesFor query = false →
            after = before
              ∧ answer = .ok ((before.history query.market).integrate query.start query.stop))
          ∧ (before.fetchesFor query = true → ∃ exchanges,
            source.Fetches query.firstPage before.source exchanges answer.isOk after.source
              ∧ (∀ fault, answer = .error fault →
                ∀ market, after.history market = before.history market)
              ∧ ∀ cost, answer = .ok cost →
                (∀ market, market ≠ query.market →
                    after.history market = before.history market)
                  ∧ (∀ time, (after.history query.market).points.get? time
                    = (History.lastPrice time (exchanges.flatMap Exchange.observations)).or
                      ((before.history query.market).points.get? time))
                  ∧ cost = (after.history query.market).integrate query.start query.stop) := by
  refine ⟨fun market time held => contains_callAll source retry held calls, fun query => ?_⟩
  intro before answer after
  refine ⟨fun sure => ?_, fun unsure => ?_⟩
  · have known := ask_of_not_fetchesFor source retry sure
    exact ⟨congrArg Prod.snd known, congrArg Prod.fst known⟩
  · have settles : before.Settles source (.start retry query.market query.start query.stop) answer
      after := settles_ask source retry unsure
    generalize answer = answer, after = after at settles ⊢
    cases settles with
    | failed fetches => exact ⟨_, fetches, fun _ _ _ => rfl, nofun⟩
    | @merged exchanges s observations fetches gathered =>
      have written (market : Market) := history_extend { before with source := s } query.market
        market observations
      obtain rfl : observations = exchanges.flatMap Exchange.observations := gathered
      refine ⟨exchanges, fetches, nofun, ?_⟩
      rintro cost ⟨⟩
      refine ⟨fun market other => ?_, fun time => ?_, ?_⟩
      · exact (written market).trans (if_neg other)
      · exact (congrArg (fun h : History α => h.points.get? time)
          ((written query.market).trans (if_pos rfl))).trans (History.get?_extend ..)
      · exact (congrArg (fun h : History α => h.integrate query.start query.stop)
          ((written query.market).trans (if_pos rfl))).symm

end PriceBook

end ClusterBilling
