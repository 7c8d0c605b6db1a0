import ClusterBilling.Proofs.Spot.Integral
import ClusterBilling.Proofs.Spot.Paging

/-!
# What a book holds of a recording

A book that is filled from a recording never holds a price that the recording does not give in the
end for that instant (`askAll_isPartOf`), and it forgets nothing (`contains_askAll`). What it may
do is to lack observations: the histories of its markets are unions of the ranges that were
fetched, with holes between them.

**Where nothing is lacking the price is that of the whole recording** (`integrate_of_covers`): a
history that holds every observation of the recording from the one in force at the start of an
interval up to its stop prices this interval, and every part of it, as the history of all recorded
observations does.
-/

namespace ClusterBilling

namespace History

variable {α : Type}

/-- Whether every price of a history is one of another history for the same instant. -/
def IsPartOf (h whole : History α) : Prop :=
  ∀ time price, h.points.get? time = some price → whole.points.get? time = some price

theorem IsPartOf.empty (whole : History α) : (.empty : History α).IsPartOf whole :=
  fun _ _ held => nomatch held

theorem mem_before {h : History α} {start : Instant} {point : Instant × α} :
    point ∈ h.before start ↔ point ∈ h.points.toList ∧ point.1 < start := by
  simp [before]

/-- The last of the observations before an instant is the latest of them. -/
theorem le_of_getLast?_before {h : History α} {start : Instant} {last point : Instant × α}
    (final : (h.before start).getLast? = some last) (mem : point ∈ h.before start) :
    point.1 ≤ last.1 := by
  obtain ⟨front, split⟩ := List.getLast?_eq_some_iff.mp final
  have ascending : (h.before start).Pairwise fun a b => a.1 < b.1 := h.ascending.filter _
  rw [split] at mem ascending
  rcases List.mem_append.mp mem with earlier | same
  · exact Int.le_of_lt ((List.pairwise_append.mp ascending).2.2 point earlier last (by simp))
  · rw [List.mem_singleton.mp same]
    exact Int.le_refl _

/-- The latest of the observations before an instant is the last of them. -/
theorem getLast?_before {h : History α} {start : Instant} {last : Instant × α}
    (mem : last ∈ h.before start) (latest : ∀ point ∈ h.before start, point.1 ≤ last.1) :
    (h.before start).getLast? = some last := by
  cases final : (h.before start).getLast? with
  | none => simp [List.getLast?_eq_none_iff.mp final] at mem
  | some other =>
    have listed := List.mem_of_getLast? final
    have same : other.1 = last.1 := Instant.stamp_injective
      (Int.le_antisymm (latest other listed) (le_of_getLast?_before final mem))
    have price := (OrderedMap.get?_eq_some_iff ..).mpr (mem_before.mp listed).1
    have expected := (OrderedMap.get?_eq_some_iff ..).mpr (mem_before.mp mem).1
    rw [same, expected] at price
    rw [Prod.ext same (Option.some.inj price).symm]

/-- A part of a history that holds the observations of an interval has the same ones there. -/
theorem IsPartOf.during_eq {h whole : History α} (part : h.IsPartOf whole) {start stop : Instant}
    (inside : ∀ point ∈ whole.during start stop, h.points.contains point.1) :
    h.during start stop = whole.during start stop := by
  refine OrderedMap.filter_toList_eq (fun time => decide (start ≤ time) && decide (time < stop))
    fun time chosen => ?_
  rw [Bool.and_eq_true, decide_eq_true_eq, decide_eq_true_eq] at chosen
  cases known : whole.points.get? time with
  | none =>
    cases held : h.points.get? time with
    | none => rfl
    | some price => exact (part time price held).symm.trans known
  | some price =>
    have there := inside (time, price)
      (mem_during.mpr ⟨(OrderedMap.get?_eq_some_iff ..).mp known, chosen⟩)
    obtain ⟨other, held⟩ := Option.isSome_iff_exists.mp there
    exact held.trans ((part time other held).symm.trans known)

/-- A part of a history that holds the last observation before an instant has the same price
there. -/
theorem IsPartOf.priceBefore?_eq {h whole : History α} (part : h.IsPartOf whole) {start : Instant}
    {last : Instant × α} (opening : (whole.before start).getLast? = some last)
    (held : h.points.contains last.1) : h.priceBefore? start = some last.2 := by
  obtain ⟨there, early⟩ := mem_before.mp (List.mem_of_getLast? opening)
  have listed : last ∈ h.points.toList := by
    obtain ⟨price, known⟩ := Option.isSome_iff_exists.mp held
    have expected := (OrderedMap.get?_eq_some_iff whole.points last.1 last.2).mpr there
    obtain rfl := Option.some.inj ((part last.1 price known).symm.trans expected)
    exact (OrderedMap.get?_eq_some_iff ..).mp known
  have same : (h.before start).getLast? = some last := by
    refine getLast?_before (mem_before.mpr ⟨listed, early⟩) fun point mem => ?_
    obtain ⟨held, earlier⟩ := mem_before.mp mem
    have known := part point.1 point.2 ((OrderedMap.get?_eq_some_iff ..).mpr held)
    exact le_of_getLast?_before opening
      (mem_before.mpr ⟨(OrderedMap.get?_eq_some_iff ..).mp known, earlier⟩)
  rw [priceBefore?, same, Option.map_some]

end History

namespace SpotRecording

variable {α : Type} {r : SpotRecording α} {market : Market} {start stop : Instant}

/-- The history of everything that was recorded for a market; of the observations of one instant
the one recorded last stays. -/
def whole (r : SpotRecording α) (market : Market) : History α :=
  .ofObservations (r.recorded market)

section Sorting

variable (r : SpotRecording α) (market : Market)

theorem decide_le_trans (a b c : Observation α) (ab : decide (a.time ≤ b.time))
    (bc : decide (b.time ≤ c.time)) : decide (a.time ≤ c.time) :=
  decide_eq_true (Int.le_trans (of_decide_eq_true ab) (of_decide_eq_true bc))

theorem decide_le_total (a b : Observation α) :
    (decide (a.time ≤ b.time) || decide (b.time ≤ a.time)) = true := by
  simp only [Bool.or_eq_true, decide_eq_true_eq]
  exact Int.le_total ..

theorem sorted_ascending : (r.sorted market).Pairwise fun a b => a.time ≤ b.time :=
  (List.pairwise_mergeSort decide_le_trans decide_le_total _).imp of_decide_eq_true

/-- Sorting leaves the observations of one instant in the order they were recorded in. -/
theorem filter_sorted (time : Instant) :
    (r.sorted market).filter (fun o => decide (o.time = time))
      = (r.recorded market).filter fun o => decide (o.time = time) := by
  have alike : ((r.recorded market).filter fun o => decide (o.time = time)).Pairwise
      fun a b => decide (a.time ≤ b.time) := by
    refine List.pairwise_of_forall_mem_list fun a inA b inB => decide_eq_true ?_
    rw [of_decide_eq_true (List.mem_filter.mp inA).2, of_decide_eq_true (List.mem_filter.mp inB).2]
    exact Int.le_refl _
  have kept := (List.sublist_mergeSort decide_le_trans decide_le_total alike
    List.filter_sublist).filter fun o => decide (o.time = time)
  rw [List.filter_filter] at kept
  simp only [Bool.and_self] at kept
  exact (kept.eq_of_length ((List.mergeSort_perm ..).filter _).length_eq.symm).symm

end Sorting

theorem get?_whole (r : SpotRecording α) (market : Market) (time : Instant) :
    (r.whole market).points.get? time = History.lastPrice time (r.sorted market) := by
  refine (History.get?_extend ..).trans (Option.or_none.trans ?_)
  simp only [History.lastPrice_eq, ← List.head?_filter, List.filter_reverse, filter_sorted]

/-- An instant with a price is one of a recorded observation. -/
theorem exists_of_mem_whole {point : Instant × α} (mem : point ∈ (r.whole market).points.toList) :
    ∃ o ∈ r.recorded market, o.time = point.1 ∧ o.price = point.2 := by
  have known := (OrderedMap.get?_eq_some_iff _ point.1 point.2).mpr mem
  rw [get?_whole, History.lastPrice_eq] at known
  obtain ⟨o, found, price⟩ := Option.map_eq_some_iff.mp known
  exact ⟨o, mem_sorted.mp (List.mem_reverse.mp (List.mem_of_find?_eq_some found)),
    by simpa using List.find?_some found, price⟩

theorem contains_whole {o : Observation α} (mem : o ∈ r.recorded market) :
    (r.whole market).points.contains o.time := by
  rw [OrderedMap.contains_eq_isSome, get?_whole, History.lastPrice, OrderedMap.isSome_lastOf,
    List.map_map]
  exact List.mem_map_of_mem (mem_sorted.mpr mem)

/-! ## Ranges -/

/-- The observation in force at an instant, which a range from there begins with. -/
def opening? (r : SpotRecording α) (market : Market) (start : Instant) : Option (Observation α) :=
  (r.sorted market).reverse.find? fun o => decide (o.time ≤ start)

theorem mem_range {o : Observation α} :
    o ∈ r.range market start stop ↔ r.opening? market start = some o
      ∨ o ∈ r.recorded market ∧ start < o.time ∧ o.time ≤ stop := by
  simp [range, opening?, mem_sorted]

theorem time_le_of_opening? {o : Observation α} (opens : r.opening? market start = some o) :
    o ∈ r.recorded market ∧ o.time ≤ start :=
  ⟨mem_sorted.mp (List.mem_reverse.mp (List.mem_of_find?_eq_some opens)),
    by simpa using List.find?_some opens⟩

/-- No observation that is not after the instant is later than the one in force. -/
theorem le_opening {o other : Observation α} (opens : r.opening? market start = some o)
    (mem : other ∈ r.recorded market) (early : other.time ≤ start) : other.time ≤ o.time := by
  obtain ⟨-, later, earlier, split, above⟩ := List.find?_eq_some_iff_append.mp opens
  have descending : (r.sorted market).reverse.Pairwise fun a b => b.time ≤ a.time :=
    List.pairwise_reverse.mpr (r.sorted_ascending market)
  have listed := List.mem_reverse.mpr (mem_sorted.mpr mem)
  rw [split] at listed descending
  rcases List.mem_append.mp listed with after | upTo
  · simpa [early] using above other after
  · rcases List.mem_cons.mp upTo with same | before
    · rw [same]
      exact Int.le_refl _
    · exact (List.pairwise_cons.mp (List.pairwise_append.mp descending).2.1).1 other before

/-- **A range gives for an instant, if it gives anything, what the whole recording gives.** -/
theorem lastPrice_of_range {time : Instant} {price : α}
    (given : History.lastPrice time (r.range market start stop) = some price) :
    History.lastPrice time (r.sorted market) = some price := by
  rw [History.lastPrice_eq] at given ⊢
  obtain ⟨o, found, rfl⟩ := Option.map_eq_some_iff.mp given
  have at_time : o.time = time := by simpa using List.find?_some found
  refine congrArg (Option.map Observation.price) (?_ : _ = some o)
  rw [range, List.reverse_append, List.find?_append, Option.or_eq_some_iff] at found
  rcases found with inside | ⟨-, opens⟩
  · -- Whether an observation lies inside the range depends on its time alone.
    rw [← List.filter_reverse, List.find?_filter] at inside
    obtain ⟨chosen, later, earlier, split, others⟩ := List.find?_eq_some_iff_append.mp inside
    simp only [Bool.and_eq_true, decide_eq_true_eq] at chosen
    refine List.find?_eq_some_iff_append.mpr ⟨by simpa using at_time, later, earlier, split, ?_⟩
    intro other mem
    by_cases same : other.time = time
    · have outside := others other mem
      simp [same, ← at_time, chosen.1] at outside
    · simpa using same
  · have opens : r.opening? market start = some o := by
      rw [opening?]
      cases known : (r.sorted market).reverse.find? (fun o => decide (o.time ≤ start)) with
      | none => simp [known] at opens
      | some other =>
        obtain ⟨-, rfl⟩ : other.time = time ∧ other = o := by simpa [known] using opens
        rfl
    have early := (time_le_of_opening? opens).2
    obtain ⟨-, later, earlier, split, above⟩ := List.find?_eq_some_iff_append.mp opens
    refine List.find?_eq_some_iff_append.mpr ⟨by simpa using at_time, later, earlier, split, ?_⟩
    intro other mem
    have late : ¬ other.time ≤ start := by simpa using above other mem
    have differs : other.time ≠ time := fun same => late (same ▸ at_time ▸ early)
    simpa using differs

/-! ## Filling a history -/

theorem isPartOf_extend {h : History α} (part : h.IsPartOf (r.whole market)) :
    (h.extend (r.range market start stop)).IsPartOf (r.whole market) := by
  intro time price held
  rw [History.get?_extend, Option.or_eq_some_iff] at held
  rcases held with fetched | ⟨-, before⟩
  · exact (r.get?_whole market time).trans (lastPrice_of_range fetched)
  · exact part time price before

/-- Whether a history holds every observation of a recording that the price of an interval
depends on. -/
def Covers (r : SpotRecording α) (h : History α) (market : Market) (start stop : Instant) : Prop :=
  ∀ o ∈ r.range market start stop, o.time < stop → h.points.contains o.time

theorem covers_extend (h : History α) :
    r.Covers (h.extend (r.range market start stop)) market start stop :=
  fun o mem _ => History.contains_extend.mpr (.inl ⟨o, mem, rfl⟩)

/-- A history that covers an interval holds what was observed inside it, and what is as late as
anything that was observed up to its start. -/
theorem Covers.contains {h : History α} (covers : r.Covers h market start stop)
    {o : Observation α} (mem : o ∈ r.recorded market) (early : o.time < stop)
    (needed : start < o.time
      ∨ ∀ other ∈ r.recorded market, other.time ≤ start → other.time ≤ o.time) :
    h.points.contains o.time := by
  by_cases inside : start < o.time
  · exact covers o (mem_range.mpr (.inr ⟨mem, inside, Int.le_of_lt early⟩)) early
  · have latest := needed.resolve_left inside
    have before : o.time ≤ start := Instant.not_lt.mp inside
    cases opens : r.opening? market start with
    | none =>
      have none := List.find?_eq_none.mp opens o (List.mem_reverse.mpr (mem_sorted.mpr mem))
      simp [before] at none
    | some first =>
      have upTo := time_le_of_opening? opens
      have same : first.time = o.time := Instant.stamp_injective
        (Int.le_antisymm (latest first upTo.1 upTo.2) (le_opening opens mem before))
      rw [← same]
      exact covers first (mem_range.mpr (.inl opens)) (same ▸ early)

/-- What was observed in a part of a covered interval is held. -/
theorem Covers.during_eq {h : History α} (covers : r.Covers h market start stop)
    (part : h.IsPartOf (r.whole market)) {start' stop' : Instant} (low : start ≤ start')
    (high : stop' ≤ stop) : h.during start' stop' = (r.whole market).during start' stop' := by
  refine part.during_eq fun point mem => ?_
  obtain ⟨listed, above, below⟩ := History.mem_during.mp mem
  obtain ⟨o, recorded, time, -⟩ := exists_of_mem_whole listed
  rw [← time] at above below ⊢
  have late : start ≤ o.time := Int.le_trans low above
  exact covers.contains recorded (Int.lt_of_lt_of_le below high)
    (.inr fun other _ before => Int.le_trans before late)

/-- Something was observed before a later instant, too; the last such observation is held. -/
theorem Covers.exists_last {h : History α} (covers : r.Covers h market start stop)
    (opened : ∃ o ∈ r.recorded market, o.time < start)
    (free : ∀ o ∈ r.recorded market, o.time ≠ start) {start' : Instant} (low : start ≤ start')
    (high : start' ≤ stop) :
    ∃ last, ((r.whole market).before start').getLast? = some last
      ∧ h.points.contains last.1 := by
  have listed (o : Observation α) (mem : o ∈ r.recorded market) (early : o.time < start) :
      ∃ price, (o.time, price) ∈ (r.whole market).before start' := by
    obtain ⟨price, known⟩ := Option.isSome_iff_exists.mp (contains_whole mem)
    exact ⟨price, History.mem_before.mpr ⟨(OrderedMap.get?_eq_some_iff ..).mp known,
      Int.lt_of_lt_of_le early low⟩⟩
  obtain ⟨first, mem, early⟩ := opened
  obtain ⟨price, before⟩ := listed first mem early
  cases final : ((r.whole market).before start').getLast? with
  | none => simp [List.getLast?_eq_none_iff.mp final] at before
  | some last =>
    refine ⟨last, rfl, ?_⟩
    obtain ⟨there, earlier⟩ := History.mem_before.mp (List.mem_of_getLast? final)
    obtain ⟨o, recorded, time, -⟩ := exists_of_mem_whole there
    rw [← time] at earlier ⊢
    refine covers.contains recorded (Int.lt_of_lt_of_le earlier high) (.inr ?_)
    intro other mem upTo
    have strictly : other.time < start := Int.lt_iff_le_and_ne.mpr
      ⟨upTo, fun same => free other mem (Instant.stamp_injective same)⟩
    obtain ⟨price, before⟩ := listed other mem strictly
    exact time ▸ History.le_of_getLast?_before final before

/-- **Where nothing is lacking the price is that of the whole recording**, in every part of an
interval that a history covers, if something was observed before the interval and nothing just at
its start. -/
theorem integrate_of_covers [Amount α] {h : History α} (part : h.IsPartOf (r.whole market))
    (covers : r.Covers h market start stop)
    (opened : ∃ o ∈ r.recorded market, o.time < start)
    (free : ∀ o ∈ r.recorded market, o.time ≠ start) {start' stop' : Instant}
    (low : start ≤ start') (ordered : start' < stop') (high : stop' ≤ stop) :
    h.integrate start' stop' = (r.whole market).integrate start' stop' := by
  obtain ⟨last, opening, held⟩ := covers.exists_last opened free low
    (Int.le_trans (Int.le_of_lt ordered) high)
  have known : (r.whole market).priceBefore? start' = some last.2 := by
    rw [History.priceBefore?, opening, Option.map_some]
  exact History.integrate_congr ordered (part.priceBefore?_eq opening held) known
    (covers.during_eq part low high)

/-! ## Runs -/

section Runs

variable [Amount α] (r) (retry : RetryPolicy) (book : PriceBook Unit α)

/-- The history of a market after a question. -/
theorem history_ask (query : SpotQuery) (market : Market) :
    (book.ask r.source retry query).2.history market
      = if book.fetchesFor query ∧ market = query.market then
          (book.history market).extend (r.range market query.start query.stop)
        else book.history market := by
  rw [ask_recording]
  by_cases unsure : book.fetchesFor query = true
  · rw [if_pos unsure]
    refine (PriceBook.history_extend ..).trans ?_
    by_cases same : market = query.market <;> simp [same, unsure]
  · simp [unsure]

/-- A book that holds only what a recording gives holds nothing else after some questions. -/
theorem askAll_isPartOf (queries : List SpotQuery)
    (parts : ∀ market, (book.history market).IsPartOf (r.whole market)) (market : Market) :
    ((book.askAll r.source retry queries).history market).IsPartOf (r.whole market) := by
  induction queries generalizing book with
  | nil => exact parts market
  | cons query rest ih =>
    refine ih (book.ask r.source retry query).2 fun market => ?_
    rw [history_ask]
    split
    · exact isPartOf_extend (parts market)
    · exact parts market

/-- A book forgets nothing. -/
theorem contains_askAll (queries : List SpotQuery) (market : Market) (time : Instant)
    (held : (book.history market).points.contains time) :
    ((book.askAll r.source retry queries).history market).points.contains time := by
  induction queries generalizing book with
  | nil => exact held
  | cons query rest ih =>
    refine ih (book.ask r.source retry query).2 ?_
    rw [history_ask]
    split
    · exact History.contains_extend.mpr (.inr held)
    · exact held

/-- **What was fetched for a question stays covered**, whatever is asked afterwards. -/
theorem covers_of_fetched {query : SpotQuery} (fetched : book.fetchesFor query = true)
    (later : List SpotQuery) :
    r.Covers (((book.ask r.source retry query).2.askAll r.source retry later).history query.market)
      query.market query.start query.stop := by
  intro o mem early
  refine contains_askAll r retry _ later query.market o.time ?_
  rw [history_ask, if_pos ⟨fetched, rfl⟩]
  exact covers_extend (book.history query.market) o mem early

end Runs

end SpotRecording

end ClusterBilling
