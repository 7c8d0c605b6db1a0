import ClusterBilling.Retry
import ClusterBilling.Spot.Source

/-!
# Fetching a range of spot prices

A fetch asks its source for the pages of a range one by one. A page that fails is asked for again
after a wait, as often as the retry policy allows; every page has the whole budget. Between two
attempts a fetch stands still: `SpotFetch.proceed` goes on until the range is complete, a failure
ends it, or it has to wait, and whoever holds the fetch decides what is done meanwhile. A source
that is slow to answer lets others come between two pages as well; `SpotFetch.askPage` asks for a
single one.

**Every fetch comes to an end**, also when its source is asked for other ranges while it waits:
`SpotFetch.weight` shrinks from one wait to the next, and no question to the source makes it grow.
-/

namespace ClusterBilling

/-- A fetch that is under way. -/
structure SpotFetch (α : Type) where
  /-- The page that is asked for next. -/
  request : PageRequest
  /-- The observations of the pages before, in the order of the pages. -/
  gathered : List (Observation α)
  /-- The attempts at the page that is asked for. -/
  attempts : Attempts

namespace SpotFetch

variable {σ α : Type}

/-- How far a fetch has come. -/
inductive Progress (α : Type)
  | ended (outcome : Except Fault (List (Observation α)))
  /-- A page is to be asked for; one that failed, after the latest wait of the fetch. -/
  | waiting (fetch : SpotFetch α)

/-- A fetch of a range before its first question. -/
def start (retry : RetryPolicy) (market : Market) (start stop : Instant) : SpotFetch α :=
  ⟨⟨market, start, stop, none⟩, [], retry.start⟩

/-- How a fetch is named in faults. -/
def operation (market : Market) : String :=
  "spot price history for " ++ market.kind ++ " in " ++ market.zone

/-- The fetch with one more page, before the first question for the next one. -/
def nextPage (f : SpotFetch α) (retry : RetryPolicy) (page : SpotPage α) (token : String) :
    SpotFetch α :=
  ⟨{ f.request with token := some token }, f.gathered ++ page.observations, retry.start⟩

/-- **Asks for one page**: the fetch ends, or there is another page or another attempt to come. -/
def askPage (source : SpotSource σ α) (retry : RetryPolicy) (f : SpotFetch α) (s : σ) :
    Progress α × σ :=
  match source.page f.request s with
  | (.ok page, s) =>
    match page.next? with
    | none => (.ended (.ok (f.gathered ++ page.observations)), s)
    | some token => (.waiting (f.nextPage retry page token), s)
  | (.error fault, s) =>
    match retry.afterFailure (operation f.request.market) f.attempts fault with
    | .error fault => (.ended (.error fault), s)
    | .ok attempts => (.waiting { f with attempts := attempts }, s)

/-- A bound for the attempts still to come. -/
def weight (source : SpotSource σ α) (retry : RetryPolicy) (s : σ) (f : SpotFetch α) : Nat :=
  source.remaining f.request s * retry.budget + f.attempts.left

theorem weight_nextPage_lt {source : SpotSource σ α} {retry : RetryPolicy} {f : SpotFetch α}
    {s s' : σ} {page : SpotPage α} {token : String}
    (answered : source.page f.request s = (.ok page, s')) (next : page.next? = some token) :
    (f.nextPage retry page token).weight source retry s' < f.weight source retry s := by
  have fewer : source.remaining { f.request with token := some token } s' + 1
      ≤ source.remaining f.request s := source.page_lt _ _ _ _ _ answered next
  have scaled := Nat.mul_le_mul_right retry.budget fewer
  have allowed : 1 ≤ retry.budget := Nat.le_max_right _ _
  have whole : (f.nextPage retry page token).attempts.left = retry.budget - 1 := rfl
  simp only [weight, whole]
  rw [Nat.add_mul, Nat.one_mul] at scaled
  have same : (f.nextPage retry page token).request = { f.request with token := some token } := rfl
  rw [same]
  omega

theorem weight_retried_lt {source : SpotSource σ α} {retry : RetryPolicy} {f : SpotFetch α}
    {s s' : σ} {answer : Except Fault (SpotPage α)} {operation : String} {fault : Fault}
    {attempts : Attempts} (answered : source.page f.request s = (answer, s'))
    (goesOn : retry.afterFailure operation f.attempts fault = .ok attempts) :
    weight source retry s' { f with attempts := attempts } < f.weight source retry s := by
  have scaled := Nat.mul_le_mul_right retry.budget
    (SpotSource.remaining_le_of_page answered f.request)
  have fewer := RetryPolicy.left_lt_of_afterFailure goesOn
  simp only [weight]
  omega

/-- **Goes on with a fetch** until it ends or has to wait. -/
def proceed (source : SpotSource σ α) (retry : RetryPolicy) (f : SpotFetch α) (s : σ) :
    Progress α × σ :=
  match _answered : source.page f.request s with
  | (.ok page, s') =>
    match _next : page.next? with
    | none => (.ended (.ok (f.gathered ++ page.observations)), s')
    | some token => proceed source retry (f.nextPage retry page token) s'
  | (.error fault, s') =>
    match _goesOn : retry.afterFailure (operation f.request.market) f.attempts fault with
    | .error fault => (.ended (.error fault), s')
    | .ok attempts => (.waiting { f with attempts := attempts }, s')
termination_by f.weight source retry s
decreasing_by exact weight_nextPage_lt _answered _next

/-- A fetch is lighter at a wait than before. -/
theorem weight_lt_of_waiting (source : SpotSource σ α) (retry : RetryPolicy)
    {f later : SpotFetch α} {s s' : σ} (waits : f.proceed source retry s = (.waiting later, s')) :
    later.weight source retry s' < f.weight source retry s := by
  fun_induction proceed source retry f s with
  | case1 => simp at waits
  | case2 f s page s'' answered token next ih =>
    exact Nat.lt_trans (ih waits) (weight_nextPage_lt answered next)
  | case3 => simp at waits
  | case4 f s fault s'' answered attempts goesOn =>
    cases waits
    exact weight_retried_lt answered goesOn

end SpotFetch

end ClusterBilling
