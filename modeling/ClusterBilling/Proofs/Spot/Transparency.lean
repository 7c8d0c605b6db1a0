import ClusterBilling.Proofs.Binary
import ClusterBilling.Proofs.Spot.Coverage

/-!
# Answers and the questions before them

A book over a recording is asked one question after the other. What an answer depends on is the
history it is taken from, which is the one that is known, with the whole range merged into it
where the recording is asked (`answer_eq`).

**A fetched range is priced from the whole recording** from then on, in every part of it and
whatever is asked in between (`answer_of_fetched`). Where an answer needs no fetch, the known
history may lack observations: whether to fetch is decided by the ends of the history alone, which
leaves holes between fetched ranges and up to 25 hours behind the last of them. Answers therefore
do depend on the questions before them (`answers_differ`); **they do not where a fetch would bring
nothing new** (`answer_eq_fresh`), up to the sign of a zero where something was observed just when
the interval begins.
-/

namespace ClusterBilling

/-- A full hour of 1970-01-01, on a clock of 24 hours. -/
def Instant.atHour (hour : Nat) : Instant :=
  { epoch with
    second := hour % 24 * 3600
    second_lt := by omega
    leap_last := fun leap => absurd leap (by decide) }

namespace SpotRecording

section Answers

variable {α : Type} [Amount α] (r : SpotRecording α) (retry : RetryPolicy)

/-- The book over a recording after some questions. -/
def after (questions : List SpotQuery) : PriceBook Unit α :=
  (PriceBook.start ()).askAll r.source retry questions

/-- The answer to a question after some others. -/
def answer (earlier : List SpotQuery) (query : SpotQuery) : Except Fault α :=
  ((r.after retry earlier).ask r.source retry query).1

/-- The history that a question is answered from. -/
def consulted (earlier : List SpotQuery) (query : SpotQuery) : History α :=
  ((r.after retry earlier).ask r.source retry query).2.history query.market

theorem consulted_eq (earlier : List SpotQuery) (query : SpotQuery) :
    r.consulted retry earlier query
      = if (r.after retry earlier).fetchesFor query then
          ((r.after retry earlier).history query.market).extend
            (r.range query.market query.start query.stop)
        else (r.after retry earlier).history query.market := by
  rw [consulted, history_ask]
  simp

/-- **Every question is answered**, from the history it consults. -/
theorem answer_eq (earlier : List SpotQuery) (query : SpotQuery) :
    r.answer retry earlier query
      = .ok ((r.consulted retry earlier query).integrate query.start query.stop) := by
  rw [answer, consulted_eq, ask_recording]
  split <;> rfl

theorem isPartOf_after (questions : List SpotQuery) (market : Market) :
    ((r.after retry questions).history market).IsPartOf (r.whole market) :=
  r.askAll_isPartOf retry (.start ()) questions (fun market => .empty (r.whole market)) market

theorem isPartOf_consulted (earlier : List SpotQuery) (query : SpotQuery) :
    (r.consulted retry earlier query).IsPartOf (r.whole query.market) := by
  rw [consulted_eq]
  split
  · exact isPartOf_extend (r.isPartOf_after retry earlier query.market)
  · exact r.isPartOf_after retry earlier query.market

/-- What is covered before a question is covered by the history it consults. -/
theorem covers_consulted {earlier : List SpotQuery} {query : SpotQuery} {start stop : Instant}
    (covers : r.Covers ((r.after retry earlier).history query.market) query.market start stop) :
    r.Covers (r.consulted retry earlier query) query.market start stop := by
  intro o mem early
  rw [consulted_eq]
  split
  · exact History.contains_extend.mpr (.inr (covers o mem early))
  · exact covers o mem early

/-- Nothing of its interval is lacking for a question that is fetched for. -/
theorem covers_consulted_of_fetched {earlier : List SpotQuery} {query : SpotQuery}
    (fetched : (r.after retry earlier).fetchesFor query = true) :
    r.Covers (r.consulted retry earlier query) query.market query.start query.stop := by
  rw [consulted_eq, if_pos fetched]
  exact covers_extend _

/-- The answer to a first question. -/
theorem answer_nil (query : SpotQuery) :
    r.answer retry [] query
      = .ok ((History.ofObservations (r.range query.market query.start query.stop)).integrate
          query.start query.stop) := by
  have fetched : (r.after retry []).fetchesFor query = true := rfl
  rw [answer_eq, consulted_eq, if_pos fetched]
  rfl

/-- What is known after a first question. -/
theorem history_after_singleton (first : SpotQuery) :
    (r.after retry [first]).history first.market
      = .ofObservations (r.range first.market first.start first.stop) :=
  (r.history_ask retry (.start ()) first first.market).trans (if_pos ⟨rfl, rfl⟩)

/-- The answer to a second question in the same market. -/
theorem answer_singleton (first second : SpotQuery) (same : second.market = first.market) :
    let known : History α := .ofObservations (r.range first.market first.start first.stop)
    r.answer retry [first] second
      = .ok ((if known.needsRefresh second.start second.stop then
            known.extend (r.range second.market second.start second.stop)
          else known).integrate second.start second.stop) := by
  have history := r.history_after_singleton retry first
  rw [← same] at history ⊢
  rw [answer_eq, consulted_eq, PriceBook.fetchesFor, history]

omit [Amount α] in
/-- What is recorded in order needs no sorting. -/
theorem range_of_ascending {market : Market}
    (ascending : (r.recorded market).Pairwise fun a b => a.time ≤ b.time) (start stop : Instant) :
    r.range market start stop
      = ((r.recorded market).reverse.find? fun o => decide (o.time ≤ start)).toList
        ++ (r.recorded market).filter
          fun o => decide (start < o.time) && decide (o.time ≤ stop) := by
  have sorted : r.sorted market = r.recorded market :=
    List.mergeSort_of_pairwise (ascending.imp fun ordered => decide_eq_true ordered)
  rw [range, sorted]

end Answers

/-! ## A day with two prices -/

section Sample

def sampleMarket : Market := ⟨"m5.large", "us-east-1a"⟩

/-- A recording of one price from midnight on and another one from a later hour on. -/
def sample (hour : Nat) (night day : Float) : SpotRecording Float :=
  ⟨standardPageSize,
    [⟨sampleMarket.kind, sampleMarket.zone, [⟨.atHour 0, night⟩, ⟨.atHour hour, day⟩]⟩],
    show 2 < 18446744073709551616 by decide⟩

def inHours (start stop : Nat) : SpotQuery := ⟨sampleMarket, .atHour start, .atHour stop⟩

variable (hour : Nat) (night day : Float)

theorem recorded_sample :
    (sample hour night day).recorded sampleMarket = [⟨.atHour 0, night⟩, ⟨.atHour hour, day⟩] := by
  simp [sample, recorded]

theorem ascending_sample :
    ((sample hour night day).recorded sampleMarket).Pairwise fun a b => a.time ≤ b.time := by
  rw [recorded_sample, List.pairwise_pair]
  simp only [Instant.le_def, Instant.stamp, Instant.atHour]
  omega

end Sample

/-! ## Fetched ranges -/

/-- **A fetched range is priced from the whole recording**: for a question that is fetched for, and
for every later one inside its interval, if something was observed before the interval and nothing
just at its start. -/
theorem answer_of_fetched {α : Type} [Amount α] (r : SpotRecording α) (retry : RetryPolicy)
    (earlier : List SpotQuery) (query : SpotQuery)
    (fetched : (r.after retry earlier).fetchesFor query = true)
    (opened : ∃ o ∈ r.recorded query.market, o.time < query.start)
    (free : ∀ o ∈ r.recorded query.market, o.time ≠ query.start) :
    (query.start < query.stop →
        r.answer retry earlier query
          = .ok ((r.whole query.market).integrate query.start query.stop))
      ∧ ∀ (between : List SpotQuery) (part : SpotQuery), part.market = query.market →
        query.start ≤ part.start → part.start < part.stop → part.stop ≤ query.stop →
        r.answer retry (earlier ++ query :: between) part
          = .ok ((r.whole part.market).integrate part.start part.stop) := by
  constructor
  · intro ordered
    rw [answer_eq, integrate_of_covers (r.isPartOf_consulted retry earlier query)
      (r.covers_consulted_of_fetched retry fetched) opened free (Int.le_refl _) ordered
      (Int.le_refl _)]
  · intro between part same low ordered high
    have covers := r.covers_of_fetched retry (r.after retry earlier) fetched between
    rw [← same] at covers opened free
    have kept : (r.after retry (earlier ++ query :: between))
        = ((r.after retry earlier).ask r.source retry query).2.askAll r.source retry between :=
      PriceBook.askAll_append ..
    rw [answer_eq, integrate_of_covers (r.isPartOf_consulted retry _ part)
      (r.covers_consulted retry (kept ▸ covers)) opened free low ordered high]

theorem answer_of_fetched_sample :
    (sample 10 1.0 2.0).answer .once ([] ++ inHours 1 12 :: [inHours 13 14]) (inHours 9 11)
      = .ok (((sample 10 1.0 2.0).whole sampleMarket).integrate (.atHour 9) (.atHour 11)) := by
  have opened : ∃ o ∈ (sample 10 1.0 2.0).recorded sampleMarket, o.time < .atHour 1 := by
    rw [recorded_sample]
    decide
  have free : ∀ o ∈ (sample 10 1.0 2.0).recorded sampleMarket, o.time ≠ .atHour 1 := by
    rw [recorded_sample]
    decide
  exact ((sample 10 1.0 2.0).answer_of_fetched .once [] (inHours 1 12) rfl opened free).2
    [inHours 13 14] (inHours 9 11) rfl (by decide) (by decide) (by decide)

/-! ## Independence of the questions before -/

/-- All that the later price is needed for is known from the hour before it on. -/
theorem covers_sample (night day : Float) :
    (sample 2 night day).Covers (((sample 2 night day).after .once [inHours 1 2]).history
      sampleMarket) sampleMarket (.atHour 2) (.atHour 3) := by
  intro o mem _
  have history := (sample 2 night day).history_after_singleton .once (inHours 1 2)
  have whole : (sample 2 night day).range sampleMarket (.atHour 1) (.atHour 2)
      = (sample 2 night day).recorded sampleMarket := by
    rw [range_of_ascending _ (ascending_sample ..), recorded_sample]
    simp [Instant.le_def, Instant.lt_def, Instant.stamp, Instant.atHour]
  have listed : o ∈ (sample 2 night day).recorded sampleMarket :=
    (mem_range.mp mem).elim (fun opens => (time_le_of_opening? opens).1) And.left
  rw [show sampleMarket = (inHours 1 2).market from rfl, history]
  exact History.contains_extend.mpr (.inl ⟨o, whole ▸ listed, rfl⟩)

/-- **Answers do depend on the questions before them**: where an observation is lacking that was
recorded since the last fetch; by the sign of a zero where the interval begins on an observation;
and there altogether if an infinite price precedes it. -/
theorem answers_differ :
    (∃ (r : SpotRecording Float) (retry : RetryPolicy) (earlier : List SpotQuery)
        (query : SpotQuery), query.start < query.stop
      ∧ (∃ o ∈ r.recorded query.market, o.time < query.start)
      ∧ (∀ o ∈ r.recorded query.market, o.time ≠ query.start ∧ o.price.isFinite)
      ∧ r.answer retry earlier query ≠ r.answer retry [] query)
    ∧ (∃ (r : SpotRecording Float) (retry : RetryPolicy) (earlier : List SpotQuery)
        (query : SpotQuery), query.start < query.stop
      ∧ (∃ o ∈ r.recorded query.market, o.time < query.start)
      ∧ (∀ o ∈ r.recorded query.market, o.price.isFinite)
      ∧ r.Covers ((r.after retry earlier).history query.market) query.market query.start query.stop
      ∧ r.answer retry earlier query ≠ r.answer retry [] query)
    ∧ ∃ (r : SpotRecording Float) (retry : RetryPolicy) (earlier : List SpotQuery)
        (query : SpotQuery), query.start < query.stop
      ∧ (∃ o ∈ r.recorded query.market, o.time < query.start)
      ∧ r.Covers ((r.after retry earlier).history query.market) query.market query.start query.stop
      ∧ ∀ shared fresh, r.answer retry earlier query = .ok shared →
          r.answer retry [] query = .ok fresh → ¬ Binary.SameNumber shared fresh := by
  refine ⟨⟨sample 10 1.0 2.0, .once, [inHours 1 2], inHours 11 12, by decide, ?_, ?_, ?_⟩,
    ⟨sample 2 1.0 (-0.0), .once, [inHours 1 2], inHours 2 3, by decide, ?_, ?_,
      covers_sample 1.0 (-0.0), ?_⟩,
    ⟨sample 2 (1.0 / 0.0) 1.0, .once, [inHours 1 2], inHours 2 3, by decide, ?_,
      covers_sample (1.0 / 0.0) 1.0, ?_⟩⟩
  · exact recorded_sample 10 1.0 2.0 ▸ by decide
  · exact recorded_sample 10 1.0 2.0 ▸ by decide
  · rw [answer_singleton _ _ (inHours 1 2) (inHours 11 12) rfl, answer_nil, inHours, inHours,
      range_of_ascending _ (ascending_sample ..), range_of_ascending _ (ascending_sample ..)]
    exact fun same => absurd (Except.ok.inj same) (by decide +kernel)
  · exact recorded_sample 2 1.0 (-0.0) ▸ by decide
  · exact recorded_sample 2 1.0 (-0.0) ▸ by decide
  · rw [answer_singleton _ _ (inHours 1 2) (inHours 2 3) rfl, answer_nil, inHours, inHours,
      range_of_ascending _ (ascending_sample ..), range_of_ascending _ (ascending_sample ..)]
    exact fun same => absurd (Except.ok.inj same) (by decide +kernel)
  · exact recorded_sample 2 (1.0 / 0.0) 1.0 ▸ by decide
  · rw [answer_singleton _ _ (inHours 1 2) (inHours 2 3) rfl, answer_nil, inHours, inHours,
      range_of_ascending _ (ascending_sample ..), range_of_ascending _ (ascending_sample ..)]
    rintro shared fresh ⟨⟩ ⟨⟩
    decide +kernel

section Binary

variable {r : SpotRecording Float} {market : Market} {start stop : Instant}

/-- No time at a finite price adds nothing to a sum of nothing. -/
theorem zero_add_segmentCost_self (time : Instant) {price : Float} (finite : price.isFinite) :
    Amount.zero + History.segmentCost time time price = (Amount.zero : Float) := by
  have nanos : time.nanosSince time = 0 := by simp [Instant.nanosSince, Instant.leapSeconds]
  have seconds : (secondsBetween time time : Float) = 0.0 := by
    simp only [secondsBetween, nanos]
    rfl
  rw [History.segmentCost, hourlyCost, seconds]
  exact Binary.zero_add_zero_mul_div finite

/-- Where something was observed just at the start of a covered interval, the cost is the sum from
that observation on, or its only term. -/
theorem integrate_of_covers_of_observed {h : History Float} (part : h.IsPartOf (r.whole market))
    (covers : r.Covers h market start stop)
    (finite : ∀ o ∈ r.recorded market, o.price.isFinite)
    {price : Float} {rest : List (Instant × Float)}
    (observed : (r.whole market).during start stop = (start, price) :: rest) :
    Binary.SameNumber (h.integrate start stop)
      (History.walk stop Amount.zero start price rest) := by
  have nothing : ∀ point ∈ h.points.toList,
      Amount.zero + History.segmentCost start start point.2 = (Amount.zero : Float) := by
    intro point held
    have known := part point.1 point.2 ((OrderedMap.get?_eq_some_iff ..).mpr held)
    obtain ⟨o, recorded, -, same⟩ := exists_of_mem_whole ((OrderedMap.get?_eq_some_iff ..).mp known)
    exact zero_add_segmentCost_self start (same ▸ finite o recorded)
  have during := covers.during_eq part (Int.le_refl _) (Int.le_refl _)
  rcases History.integrate_eq_of_observed (during.trans observed) nothing with
    ⟨alone, product⟩ | sum
  · rw [product, alone]
    exact Binary.sameNumber_zero_add _
  · exact .inl sum

/-- **What was asked before does not change an answer where a fetch would bring nothing new**: the
question is fetched for, or all that a fetch would bring of its interval is known. An observation
just at the start leaves the sign of a zero open, and needs finite prices. -/
theorem answer_eq_fresh (r : SpotRecording Float) (retry : RetryPolicy) (earlier : List SpotQuery)
    (query : SpotQuery) (ordered : query.start < query.stop)
    (opened : ∃ o ∈ r.recorded query.market, o.time < query.start)
    (known : (r.after retry earlier).fetchesFor query = true
      ∨ r.Covers ((r.after retry earlier).history query.market) query.market query.start
        query.stop) :
    ((∀ o ∈ r.recorded query.market, o.time ≠ query.start) →
        r.answer retry earlier query = r.answer retry [] query)
      ∧ ((∀ o ∈ r.recorded query.market, o.price.isFinite) →
        ∃ shared fresh, r.answer retry earlier query = .ok shared
          ∧ r.answer retry [] query = .ok fresh ∧ Binary.SameNumber shared fresh) := by
  have part := r.isPartOf_consulted retry earlier query
  have part' := r.isPartOf_consulted retry [] query
  have covers : r.Covers (r.consulted retry earlier query) query.market query.start query.stop := by
    rcases known with fetched | held
    · exact r.covers_consulted_of_fetched retry fetched
    · exact r.covers_consulted retry held
  have covers' : r.Covers (r.consulted retry [] query) query.market query.start query.stop :=
    r.covers_consulted_of_fetched retry rfl
  have alike (free : ∀ o ∈ r.recorded query.market, o.time ≠ query.start) :
      r.answer retry earlier query = r.answer retry [] query := by
    rw [answer_eq, answer_eq,
      integrate_of_covers part covers opened free (Int.le_refl _) ordered (Int.le_refl _),
      integrate_of_covers part' covers' opened free (Int.le_refl _) ordered (Int.le_refl _)]
  refine ⟨alike, fun finite => ?_⟩
  by_cases free : ∀ o ∈ r.recorded query.market, o.time ≠ query.start
  · exact ⟨_, _, answer_eq .., (alike free).symm.trans (answer_eq ..), .inl rfl⟩
  · obtain ⟨o, mem, time⟩ : ∃ o ∈ r.recorded query.market, o.time = query.start := by
      simpa using free
    obtain ⟨price, held⟩ := Option.isSome_iff_exists.mp (contains_whole mem)
    rw [time] at held
    obtain ⟨rest, observed⟩ :=
      History.during_eq_cons ((OrderedMap.get?_eq_some_iff ..).mp held) ordered
    have sum := integrate_of_covers_of_observed part covers finite observed
    have sum' := integrate_of_covers_of_observed part' covers' finite observed
    exact ⟨_, _, answer_eq .., answer_eq .., sum.trans sum'.symm⟩

theorem answer_eq_fresh_sample :
    ∃ shared fresh, (sample 2 1.0 (-0.0)).answer .once [inHours 1 2] (inHours 2 3) = .ok shared
      ∧ (sample 2 1.0 (-0.0)).answer .once [] (inHours 2 3) = .ok fresh
      ∧ Binary.SameNumber shared fresh := by
  have opened : ∃ o ∈ (sample 2 1.0 (-0.0)).recorded sampleMarket, o.time < .atHour 2 :=
    recorded_sample 2 1.0 (-0.0) ▸ by decide
  have finite : ∀ o ∈ (sample 2 1.0 (-0.0)).recorded sampleMarket, o.price.isFinite :=
    recorded_sample 2 1.0 (-0.0) ▸ by decide
  exact ((sample 2 1.0 (-0.0)).answer_eq_fresh .once [inHours 1 2] (inHours 2 3) (by decide)
    opened (.inr (covers_sample 1.0 (-0.0)))).2 finite

end Binary

end SpotRecording

end ClusterBilling
