import ClusterBilling.Proofs.Retry
import ClusterBilling.Proofs.Spot.Exchanges
import ClusterBilling.Proofs.Spot.Transparency

/-!
# Pages and attempts

A fetch goes through the pages of a range and tries each of them a number of times. Where it stands
is known from its exchanges with the source so far (`SpotFetch.standing`): the token to ask with is
that of the latest page, whatever failed since; what was gathered are the observations of all pages,
in order; and the attempts that are left depend on the failures since the latest page only, so that
every page has the whole budget.

`SpotFetch.Course` says which exchanges make up a whole fetch, and with what it ends: an exchange is
followed by another one exactly if it was a page that names a next one, or a failure that may be
retried while attempts are left. **Every question that needs a fetch follows such a course**
(`ask_scripted`), and makes no other request. Over a script of answers it comes to its end with the
first answer behind the script at the latest. All of this is for policies whose waits a duration can
hold; with one whose waits have no end a fetch is stopped while attempts are left (`ask_endless`).
-/

namespace ClusterBilling

variable {σ α : Type}

theorem SpotPage.next?_eq_some_iff {page : SpotPage α} {token : String} :
    page.next? = some token ↔ page.nextToken = some token ∧ token ≠ "" := by
  unfold SpotPage.next?
  cases page.nextToken with
  | none => simp
  | some named =>
    simp only [Option.ite_none_left_eq_some, Option.some.injEq, String.isEmpty_iff]
    constructor
    · rintro ⟨nonempty, rfl⟩
      exact ⟨rfl, nonempty⟩
    · rintro ⟨rfl, nonempty⟩
      exact ⟨nonempty, rfl⟩

theorem SpotPage.next?_eq_none_iff {page : SpotPage α} :
    page.next? = none ↔ page.nextToken = none ∨ page.nextToken = some "" := by
  unfold SpotPage.next?
  cases page.nextToken <;> simp [String.isEmpty_iff]

/-! ## What exchanges come to -/

namespace Exchange

/-- The page that was answered, if one was. -/
def page? (e : Exchange α) : Option (SpotPage α) :=
  match e.answer with
  | .ok page => some page
  | .error _ => none

/-- The token that the latest page names; none before the first page. -/
def latestToken (exchanges : List (Exchange α)) : Option String :=
  (exchanges.reverse.findSome? page?).bind SpotPage.nextToken

/-- The failures since the latest page. -/
def failuresInARow (exchanges : List (Exchange α)) : Nat :=
  (exchanges.reverse.takeWhile fun e => e.page?.isNone).length

variable (exchanges : List (Exchange α)) (request : PageRequest) (page : SpotPage α) (fault : Fault)

theorem latestToken_page :
    latestToken (exchanges ++ [⟨request, .ok page⟩]) = page.nextToken := by
  simp [latestToken, page?, List.findSome?_cons]

/-- A failure leaves the token as it is. -/
theorem latestToken_failure :
    latestToken (exchanges ++ [⟨request, .error fault⟩]) = latestToken exchanges := by
  simp [latestToken, page?, List.findSome?_cons]

/-- Failures are counted anew for every page. -/
theorem failuresInARow_page : failuresInARow (exchanges ++ [⟨request, .ok page⟩]) = 0 := by
  simp [failuresInARow, page?]

theorem failuresInARow_failure :
    failuresInARow (exchanges ++ [⟨request, .error fault⟩]) = failuresInARow exchanges + 1 := by
  simp [failuresInARow, page?]

end Exchange

open Exchange

/-! ## The course of a fetch -/

namespace SpotFetch

/-- Whether a fetch goes on after an exchange that followed some others: a page names a next one,
or a failure may be retried and is not the last one that is allowed in a row. -/
inductive GoesOnAfter (retry : RetryPolicy) (before : List (Exchange α)) : Exchange α → Prop
  | page {request : PageRequest} {page : SpotPage α} {token : String}
    (named : page.nextToken = some token) (nonempty : token ≠ "") :
    GoesOnAfter retry before ⟨request, .ok page⟩
  | failure {request : PageRequest} {fault : Fault} (again : retry.retries fault = true)
    (allowed : failuresInARow (before ++ [⟨request, .error fault⟩]) < retry.budget) :
    GoesOnAfter retry before ⟨request, .error fault⟩

/-- How a fetch ends with an exchange that followed some others: with the observations of all pages
after the last one, with a failure that is not retried, or with the last failure that is allowed in
a row. -/
inductive EndsWith (retry : RetryPolicy) (operation : String) (before : List (Exchange α)) :
    Exchange α → Except Fault (List (Observation α)) → Prop
  | complete {request : PageRequest} {page : SpotPage α}
    (last : page.nextToken = none ∨ page.nextToken = some "") :
    EndsWith retry operation before ⟨request, .ok page⟩
      (.ok (before.flatMap Exchange.observations ++ page.observations))
  | refused {request : PageRequest} {fault : Fault} (final : retry.retries fault = false) :
    EndsWith retry operation before ⟨request, .error fault⟩ (.error fault)
  | exhausted {request : PageRequest} {fault : Fault} (again : retry.retries fault = true)
    (all : failuresInARow (before ++ [⟨request, .error fault⟩]) = retry.budget) :
    EndsWith retry operation before ⟨request, .error fault⟩
      (.error (.retriesExhausted operation retry.budget (retry.waitAfter (retry.budget - 1)) fault))

/-- The request that follows some exchanges of a fetch. -/
def nextRequest (query : SpotQuery) (exchanges : List (Exchange α)) : PageRequest :=
  ⟨query.market, query.start, query.stop, latestToken exchanges⟩

/-- The exchanges of a fetch that has not come to its end. -/
inductive Underway (retry : RetryPolicy) (query : SpotQuery) : List (Exchange α) → Prop
  | start : Underway retry query []
  | more {exchanges : List (Exchange α)} {e : Exchange α}
      (underway : Underway retry query exchanges)
    (asked : e.request = nextRequest query exchanges) (goesOn : GoesOnAfter retry exchanges e) :
    Underway retry query (exchanges ++ [e])

/-- **The exchanges of a whole fetch**, and what it ends with. -/
inductive Course (retry : RetryPolicy) (query : SpotQuery) :
    List (Exchange α) → Except Fault (List (Observation α)) → Prop
  | ended {exchanges : List (Exchange α)} {e : Exchange α}
    {outcome : Except Fault (List (Observation α))} (underway : Underway retry query exchanges)
    (asked : e.request = nextRequest query exchanges)
    (ends : EndsWith retry (operation query.market) exchanges e outcome) :
    Course retry query (exchanges ++ [e]) outcome

/-- Where a fetch stands after some exchanges. -/
def standing (retry : RetryPolicy) (query : SpotQuery) (exchanges : List (Exchange α)) :
    SpotFetch α :=
  ⟨nextRequest query exchanges, exchanges.flatMap Exchange.observations,
    retry.attemptsAfter (failuresInARow exchanges)⟩

variable {retry : RetryPolicy} {query : SpotQuery} {before : List (Exchange α)}

/-- An attempt is left as long as a fetch is under way. -/
theorem Underway.failuresInARow_lt (underway : Underway retry query before) :
    failuresInARow before < retry.budget := by
  cases underway with
  | start => exact retry.budget_pos
  | more _ _ goesOn =>
    cases goesOn with
    | page => exact failuresInARow_page .. ▸ retry.budget_pos
    | failure _ allowed => exact allowed

end SpotFetch

/-- Exchanges with a source, one after the other, that lead it from one state to another. -/
inductive SpotSource.Answers (source : SpotSource σ α) : σ → List (Exchange α) → σ → Prop
  | none (s : σ) : Answers source s [] s
  | more {s s' s'' : σ} {request : PageRequest} {answer : Except Fault (SpotPage α)}
    {rest : List (Exchange α)} (answered : source.page request s = (answer, s'))
    (others : Answers source s' rest s'') : Answers source s (⟨request, answer⟩ :: rest) s''

namespace SpotSource.Answers

variable {source : SpotSource σ α} {s s' s'' : σ} {first second : List (Exchange α)}

theorem append (early : source.Answers s first s') (late : source.Answers s' second s'') :
    source.Answers s (first ++ second) s'' := by
  induction early with
  | none => exact late
  | more answered _ ih => exact .more answered (ih late)

end SpotSource.Answers

namespace SpotFetch

variable {retry : RetryPolicy} {query : SpotQuery} {before : List (Exchange α)}
  (source : SpotSource σ α)

/-- What is known of a fetch that went on after some exchanges: it came to its end with some more,
or it waits and stands where these led. -/
def ComesTo (retry : RetryPolicy) (query : SpotQuery) (before : List (Exchange α)) (s : σ) :
    Progress α → σ → Prop
  | .ended outcome, s' =>
    ∃ more, Course retry query (before ++ more) outcome ∧ source.Answers s more s'
  | .waiting later, s' =>
    ∃ more, Underway retry query (before ++ more) ∧ later = standing retry query (before ++ more)
      ∧ source.Answers s more s'

variable {source}

/-- What comes of a fetch after one more exchange comes of it before. -/
theorem ComesTo.behind {s s' s'' : σ} {request : PageRequest}
    {answer : Except Fault (SpotPage α)} {progress : Progress α}
    (answered : source.page request s = (answer, s'))
    (comesTo : ComesTo source retry query (before ++ [⟨request, answer⟩]) s' progress s'') :
    ComesTo source retry query before s progress s'' := by
  match progress, comesTo with
  | .ended _, ⟨more, course, answers⟩ =>
    rw [List.append_assoc] at course
    exact ⟨_ :: more, course, .more answered answers⟩
  | .waiting _, ⟨more, underway, later, answers⟩ =>
    rw [List.append_assoc] at underway later
    exact ⟨_ :: more, underway, later, .more answered answers⟩

/-- A page that names a next one is followed by the request for that. -/
theorem nextPage_standing {request : PageRequest} {page : SpotPage α} {token : String}
    (next : page.nextToken = some token) :
    (standing retry query before).nextPage retry page token
      = standing retry query (before ++ [⟨request, .ok page⟩]) := by
  simp only [nextPage, standing, nextRequest, latestToken_page, failuresInARow_page, next,
    List.flatMap_append, List.flatMap_singleton]
  rfl

/-- A failure is followed by the same request. -/
theorem retried_standing {request : PageRequest} {fault : Fault} :
    { standing retry query before with
        attempts := retry.attemptsAfter (failuresInARow before + 1) }
      = standing retry query (before ++ [⟨request, .error fault⟩]) := by
  simp only [standing, nextRequest, latestToken_failure, failuresInARow_failure,
    List.flatMap_append, List.flatMap_singleton, Exchange.observations, List.append_nil]

/-- **What a fetch does until it ends or waits**, wherever it stands. -/
theorem comesTo_proceed (source : SpotSource σ α) (fit : retry.WaitsFit)
    (underway : Underway retry query before) (s : σ) :
    ComesTo source retry query before s
      ((standing retry query before).proceed source retry s).1
      ((standing retry query before).proceed source retry s).2 := by
  generalize stands : standing retry query before = f
  fun_induction proceed source retry f s generalizing before with
  | case1 f s page s' answered last =>
    subst stands
    have ends := SpotPage.next?_eq_none_iff.mp last
    exact ⟨_, .ended underway rfl (.complete ends), .more answered (.none s')⟩
  | case2 f s page s' answered token next ih =>
    subst stands
    obtain ⟨named, nonempty⟩ := SpotPage.next?_eq_some_iff.mp next
    exact .behind answered
      (ih (underway.more rfl (.page named nonempty)) (nextPage_standing named).symm)
  | case3 f s fault s' failed ended final =>
    subst stands
    refine ⟨[⟨_, .error fault⟩], .ended underway rfl ?_, .more failed (.none s')⟩
    rcases retry.afterFailure_attemptsAfter (operation query.market) fault
      underway.failuresInARow_lt with
      ⟨refused, same⟩ | ⟨again, all, same⟩ | ⟨-, -, -, same⟩ | ⟨-, left, none, -⟩
    · cases final.symm.trans same
      exact .refused refused
    · cases final.symm.trans same
      have count : failuresInARow before = retry.budget - 1 := by omega
      rw [count]
      exact .exhausted again (by rw [failuresInARow_failure, all])
    · cases final.symm.trans same
    · have held := fit _ left
      rw [none] at held
      cases held
  | case4 f s fault s' failed attempts goesOn =>
    subst stands
    rcases retry.afterFailure_attemptsAfter (operation query.market) fault
      underway.failuresInARow_lt with
      ⟨-, same⟩ | ⟨-, -, same⟩ | ⟨again, allowed, -, same⟩ | ⟨-, -, -, same⟩
    · cases goesOn.symm.trans same
    · cases goesOn.symm.trans same
    · cases goesOn.symm.trans same
      refine ⟨[⟨_, .error fault⟩], underway.more rfl (.failure again ?_), ?_,
        .more failed (.none s')⟩
      · rwa [failuresInARow_failure]
      · exact retried_standing
    · cases goesOn.symm.trans same

end SpotFetch

/-! ## Questions -/

namespace PriceBook

variable [Amount α]

/-- What a book answers to a question when the fetch for it has ended, and the histories it then
has: all that was gathered is merged, or nothing has changed. -/
inductive TakesIn (book : PriceBook σ α) (query : SpotQuery) :
    Except Fault (List (Observation α)) → Except Fault α → OrderedMap Market (History α) → Prop
  | merged (observations : List (Observation α)) :
    TakesIn book query (.ok observations)
      (.ok (((book.history query.market).extend observations).integrate query.start query.stop))
      (book.extend query.market observations).histories
  | failed (fault : Fault) : TakesIn book query (.error fault) (.error fault) book.histories

/-- What comes of the fetch for a question from some exchanges on. -/
def Fetched (source : SpotSource σ α) (retry : RetryPolicy) (query : SpotQuery)
    (before : List (Exchange α)) (book : PriceBook σ α) (answer : Except Fault α)
    (after : PriceBook σ α) : Prop :=
  ∃ more outcome, SpotFetch.Course retry query (before ++ more) outcome
    ∧ source.Answers book.source more after.source
    ∧ book.TakesIn query outcome answer after.histories

variable {source : SpotSource σ α} {retry : RetryPolicy} {query : SpotQuery}
  {before : List (Exchange α)} {book after : PriceBook σ α}

/-- A fetch that ends has come to its end by a course. -/
theorem fetched_of_resume (fit : retry.WaitsFit)
    (underway : SpotFetch.Underway retry query before) {answer : Except Fault α}
    (answered : book.resume source retry (.standing retry query before) = (.priced answer, after)) :
    Fetched source retry query before book answer after := by
  have comesTo := SpotFetch.comesTo_proceed source fit underway book.source
  unfold resume at answered
  generalize SpotFetch.proceed source retry (.standing retry query before) book.source = went
    at comesTo answered
  obtain ⟨progress, s⟩ := went
  match progress with
  | .ended (.ok observations) =>
    obtain ⟨more, course, answers⟩ := comesTo
    cases answered
    refine ⟨more, _, course, answers, ?_⟩
    simp only [history_extend]
    exact .merged observations
  | .ended (.error fault) =>
    obtain ⟨more, course, answers⟩ := comesTo
    cases answered
    exact ⟨more, _, course, answers, .failed fault⟩
  | .waiting later => cases answered

/-- A fetch that waits goes on with its course. -/
theorem Fetched.of_waiting (fit : retry.WaitsFit)
    (underway : SpotFetch.Underway retry query before) {later : SpotFetch α}
    (waits : book.resume source retry (.standing retry query before) = (.waiting later, after)) :
    ∃ more, SpotFetch.Underway retry query (before ++ more)
      ∧ later = .standing retry query (before ++ more)
      ∧ ∀ answer final, Fetched source retry query (before ++ more) after answer final →
        Fetched source retry query before book answer final := by
  have comesTo := SpotFetch.comesTo_proceed source fit underway book.source
  unfold resume at waits
  generalize SpotFetch.proceed source retry (.standing retry query before) book.source = went
    at comesTo waits
  obtain ⟨progress, s⟩ := went
  obtain ⟨rfl, rfl⟩ := eq_waiting_of_conclude waits
  obtain ⟨more, goesOn, stands, answers⟩ := comesTo
  refine ⟨more, goesOn, stands, ?_⟩
  rintro answer final ⟨rest, outcome, course, others, takesIn⟩
  rw [List.append_assoc] at course
  refine ⟨more ++ rest, outcome, course, answers.append others, ?_⟩
  generalize final.histories = histories at takesIn ⊢
  cases takesIn with
  | merged observations => exact .merged observations
  | failed fault => exact .failed fault

theorem fetched_await (source : SpotSource σ α) (fit : retry.WaitsFit)
    (underway : SpotFetch.Underway retry query before) (book : PriceBook σ α) :
    Fetched source retry query before book
      (book.await source retry (.standing retry query before)).1
      (book.await source retry (.standing retry query before)).2 := by
  generalize stands : SpotFetch.standing retry query before = fetch
  fun_induction await source retry book fetch generalizing before with
  | case1 book fetch answer after answered =>
    subst stands
    exact fetched_of_resume fit underway answered
  | case2 book fetch later after waits ih =>
    subst stands
    obtain ⟨more, goesOn, rfl, comesOf⟩ := Fetched.of_waiting fit underway waits
    exact comesOf _ _ (ih goesOn rfl)

/-- **A question that needs a fetch follows a course.** -/
theorem fetched_ask (source : SpotSource σ α) (fit : retry.WaitsFit) {book : PriceBook σ α}
    {query : SpotQuery} (unsure : book.fetchesFor query = true) :
    Fetched source retry query [] book (book.ask source retry query).1
      (book.ask source retry query).2 := by
  have asked : book.price source retry (.start retry query.market query.start query.stop)
      = book.resume source retry (.standing retry query []) := if_pos unsure
  rw [ask, cost, settle, asked]
  split
  · next answer after answered => exact fetched_of_resume fit .start answered
  · next later after waits =>
    obtain ⟨more, goesOn, rfl, comesOf⟩ := Fetched.of_waiting fit .start waits
    exact comesOf _ _ (fetched_await source fit goesOn after)

end PriceBook

/-! ## Scripts of answers -/

namespace SpotSource

/-- The answer of a script at a place; behind its end an empty page that is the last one. -/
def answerAt (script : List (Except Fault (SpotPage α))) (place : Nat) :
    Except Fault (SpotPage α) :=
  script[place]?.getD (.ok ⟨[], none⟩)

/-- A script is read from its beginning, and every request is noted. -/
theorem answers_scripted {s s' : List (Except Fault (SpotPage α)) × List PageRequest}
    {exchanges : List (Exchange α)} (answers : scripted.noted.Answers s exchanges s') :
    (∀ place e, exchanges[place]? = some e → e.answer = answerAt s.1 place)
      ∧ s' = (s.1.drop exchanges.length, s.2 ++ exchanges.map Exchange.request) := by
  induction answers with
  | none => simp
  | @more s mid s' request answer rest answered others ih =>
    obtain ⟨script, notes⟩ := s
    obtain ⟨told, rfl⟩ := ih
    have first : answer = answerAt script 0 ∧ mid = (script.drop 1, notes ++ [request]) := by
      cases script <;> cases answered <;> exact ⟨rfl, rfl⟩
    obtain ⟨rfl, rfl⟩ := first
    refine ⟨fun place e here => ?_, by simp⟩
    cases place with
    | zero =>
      obtain rfl : _ = e := Option.some.inj here
      rfl
    | succ place =>
      refine (told place e here).trans ?_
      simp [answerAt]

end SpotSource

/-- Behind every exchange of a fetch that is under way it went on. -/
theorem SpotFetch.Underway.exists_goesOnAfter {retry : RetryPolicy} {query : SpotQuery}
    {exchanges : List (Exchange α)} (underway : Underway retry query exchanges) {e : Exchange α}
    (mem : e ∈ exchanges) : ∃ before, GoesOnAfter retry before e := by
  induction underway with
  | start => cases mem
  | more _ _ goesOn ih =>
    rcases List.mem_append.mp mem with early | last
    · exact ih early
    · exact ⟨_, List.mem_singleton.mp last ▸ goesOn⟩

/-- A fetch ends with the first answer behind a script at the latest. -/
theorem SpotFetch.Course.length_le {retry : RetryPolicy} {query : SpotQuery}
    {exchanges : List (Exchange α)} {outcome : Except Fault (List (Observation α))}
    (course : Course retry query exchanges outcome) {script : List (Except Fault (SpotPage α))}
    (told : ∀ place e, exchanges[place]? = some e → e.answer = SpotSource.answerAt script place) :
    exchanges.length ≤ script.length + 1 := by
  obtain @⟨exchanges, e, _, underway, -, -⟩ := course
  rw [List.length_append, List.length_singleton, Nat.add_le_add_iff_right]
  refine Nat.le_of_not_lt fun longer => ?_
  have behind : (exchanges ++ [e])[script.length]? = some exchanges[script.length] := by
    rw [List.getElem?_append_left longer, List.getElem?_eq_getElem longer]
  have empty : exchanges[script.length].answer = .ok ⟨[], none⟩ := by
    rw [told _ _ behind, SpotSource.answerAt, List.getElem?_eq_none (Nat.le_refl _)]
    rfl
  obtain ⟨before, goesOn⟩ := underway.exists_goesOnAfter (List.getElem_mem longer)
  generalize exchanges[script.length] = last at empty goesOn
  cases goesOn with
  | page named => cases empty; cases named
  | failure => cases empty

/-- **Paging with retries.** A question that needs a fetch takes its answers from a script one by
one. The exchanges make up a course: each request is for the range of the question, from the page
that the latest page named on; a failure that may be retried is followed by the same request, until
as many failures in a row as are allowed end the fetch; a failure that may not, or a page that names
no next one, ends it at once. The requests noted are those and no others, there is at most one more
of them than answers in the script, and what the course ends with is what the book takes in. The
waits of the policy are such that a duration can hold them. -/
theorem PriceBook.ask_scripted [Amount α] (script : List (Except Fault (SpotPage α)))
    (retry : RetryPolicy) (fit : retry.WaitsFit) (histories : OrderedMap Market (History α)) (notes : List PageRequest)
    (query : SpotQuery)
    (unsure : PriceBook.fetchesFor ⟨histories, (script, notes)⟩ query = true) :
    let book : PriceBook (List (Except Fault (SpotPage α)) × List PageRequest) α :=
      ⟨histories, (script, notes)⟩
    let answered := book.ask SpotSource.scripted.noted retry query
    ∃ exchanges outcome, SpotFetch.Course retry query exchanges outcome
      ∧ (∀ place e, exchanges[place]? = some e → e.answer = SpotSource.answerAt script place)
      ∧ answered.2.source
        = (script.drop exchanges.length, notes ++ exchanges.map Exchange.request)
      ∧ exchanges.length ≤ script.length + 1
      ∧ book.TakesIn query outcome answered.1 answered.2.histories := by
  intro book answered
  obtain ⟨exchanges, outcome, course, answers, takesIn⟩ :=
    fetched_ask SpotSource.scripted.noted fit unsure
  obtain ⟨told, source⟩ := SpotSource.answers_scripted answers
  exact ⟨exchanges, outcome, course, told, source, course.length_le told, takesIn⟩

section Sample

/-- A script in which a failure comes before each page, and the second page names no next one. -/
def interrupted : List (Except Fault (SpotPage Float)) :=
  [.error (.refused "503" "busy"), .ok ⟨[⟨.atHour 2, 0.1⟩], some "next"⟩,
    .error (.refused "Throttling" "slow down"), .ok ⟨[], some ""⟩]

/-- A range of which nothing is known. -/
def unknownRange : SpotQuery := ⟨⟨"m5.large", "us-east-1a"⟩, .atHour 1, .atHour 5⟩

theorem RetryPolicy.waitsFit_withAttempts_two : (RetryPolicy.withAttempts 2).WaitsFit := by
  intro failed less
  obtain rfl : failed = 0 := Nat.lt_one_iff.mp (Nat.lt_of_succ_lt_succ less)
  decide +kernel

theorem PriceBook.ask_scripted_interrupted :
    let book : PriceBook (List (Except Fault (SpotPage Float)) × List PageRequest) Float :=
      ⟨.empty, (interrupted, [])⟩
    let answered := book.ask SpotSource.scripted.noted (.withAttempts 2) unknownRange
    (RetryPolicy.withAttempts 2).WaitsFit ∧ book.fetchesFor unknownRange = true
      ∧ ∃ exchanges outcome, SpotFetch.Course (.withAttempts 2) unknownRange exchanges outcome
        ∧ (∀ place e, exchanges[place]? = some e →
          e.answer = SpotSource.answerAt interrupted place)
        ∧ answered.2.source
          = (interrupted.drop exchanges.length, exchanges.map Exchange.request)
        ∧ exchanges.length ≤ 5
        ∧ book.TakesIn unknownRange outcome answered.1 answered.2.histories :=
  ⟨RetryPolicy.waitsFit_withAttempts_two, rfl,
    ask_scripted interrupted (.withAttempts 2) RetryPolicy.waitsFit_withAttempts_two .empty []
      unknownRange rfl⟩

/-- A script of failures that may be retried. -/
def busy : List (Except Fault (SpotPage Float)) :=
  List.replicate 4 (.error (.refused "503" "busy"))

/-- **A fetch without end to its waits.** All answers are failures that may be retried, and three of
them in a row are allowed; but the fetch is stopped after two, and the last one is not wrapped. -/
theorem PriceBook.ask_endless :
    let book : PriceBook (List (Except Fault (SpotPage Float)) × List PageRequest) Float :=
      ⟨.empty, (busy, [])⟩
    let answered := book.ask SpotSource.scripted.noted .uncapped unknownRange
    book.fetchesFor unknownRange = true ∧ RetryPolicy.uncapped.budget = 3
      ∧ (∀ answer ∈ busy, answer.isOk = false)
      ∧ RetryPolicy.uncapped.retries (.refused "503" "busy") = true
      ∧ answered.1 = .error RetryPolicy.tooLong
      ∧ answered.2.source.1.length = 2
      ∧ answered.2.source.2
        = List.replicate 2 ⟨unknownRange.market, .atHour 1, .atHour 5, none⟩ := by
  intro book answered
  refine ⟨rfl, rfl, by decide, by decide, ?_, ?_, ?_⟩ <;> decide +kernel

end Sample

end ClusterBilling
