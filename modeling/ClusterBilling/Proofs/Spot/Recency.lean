import ClusterBilling.Proofs.Spot.Transparency

/-!
# How long ago a price was observed

The price that holds at an instant is that of the latest observation at or before it
(`LatestAt`). Two checks look out for observations that were missed: `needsRefresh` at the ends of
an interval, and `gaps` at the pairs of neighbours, which it reports exactly if they are more than
25 hours apart (`mem_gaps`).

**Recent or reported** (`recent_or_reported`): where neither check alarms, the latest observation
is never more than 25 hours old within the interval; and where it is older before the history ends,
the neighbours on both sides are reported. Both follow from one fact: the latest observation at an
instant was no longer ago then than it is at any later instant (`nanosSince_le`), be that the end
of the interval or the next observation.

Leap seconds disturb this. They count in a difference only while they last, so that half a second
into one an observation is half a second older than it is when the second is over. The observations
and the end of the interval must lie outside of them; at an instant within one, what has passed of
it is to be allowed for.
-/

namespace ClusterBilling

namespace Instant

/-- Whether an instant lies outside of leap seconds. -/
def Ordinary (t : Instant) : Prop := t.nano < nanosPerSecond

instance (t : Instant) : Decidable t.Ordinary :=
  inferInstanceAs (Decidable (t.nano < nanosPerSecond))

/-- What has passed of the leap second that an instant lies in, in nanoseconds; else nothing. -/
def leapNanos (t : Instant) : Nat := t.nano - nanosPerSecond

theorem Ordinary.leapNanos_eq {t : Instant} (ordinary : t.Ordinary) : t.leapNanos = 0 :=
  Nat.sub_eq_zero_of_le (Nat.le_of_lt ordinary)

@[simp] theorem nanosSince_self (t : Instant) : t.nanosSince t = 0 := by
  simp [nanosSince, leapSeconds]

/-- **Later is longer ago**, but for what has passed of a leap second at the earlier instant. -/
theorem nanosSince_le {since t later : Instant} (first : since.Ordinary) (last : later.Ordinary)
    (before : t < later) : t.nanosSince since ≤ later.nanosSince since + t.leapNanos := by
  simp only [Ordinary, nanosPerSecond] at first last
  have within := t.nano_lt
  have noLeap : leapSeconds later since = 0 := by
    simp [leapSeconds, Nat.not_le.mpr first, Nat.not_le.mpr last]
  have leap : leapSeconds t since ≤ 0 := by
    simp only [leapSeconds, Nat.not_le.mpr first, decide_false, Bool.and_false, Bool.false_eq_true,
      if_false]
    split <;> decide
  simp only [lt_def, stamp] at before
  unfold nanosSince leapNanos nanosPerSecond
  omega

/-- The allowance is needed: half a second into the leap second of a day's end, more time has
passed since the day began than when the day is over. -/
example : ∃ t later : Instant, t < later ∧ later.Ordinary
    ∧ later.nanosSince .epoch < t.nanosSince .epoch :=
  ⟨⟨0, 86399, 1500000000, by decide, by decide, by decide, by decide⟩,
    ⟨1, 0, 0, by decide, by decide, by decide, by decide⟩, by decide, by decide, by decide⟩

/-- A full hour of one of the days from 1970-01-01 on. -/
def onDay (day : Fin 100) (hour : Nat) : Instant :=
  { atHour hour with
    day := (day : Nat)
    day_range := by omega }

end Instant

namespace History

variable {α : Type} {h : History α}

theorem keys_ascending (h : History α) : h.points.keys.Pairwise (· < ·) :=
  List.pairwise_map.mpr h.ascending

/-! ## Neighbours -/

/-- The latest observation of a history at or before an instant. -/
structure LatestAt (h : History α) (t time : Instant) : Prop where
  held : time ∈ h.points.keys
  early : time ≤ t
  latest : ∀ other ∈ h.points.keys, time < other → t < other

/-- Two observations of a history with none between them. -/
structure Neighbours (h : History α) (first second : Instant) : Prop where
  first_held : first ∈ h.points.keys
  second_held : second ∈ h.points.keys
  ordered : first < second
  apart : ∀ other ∈ h.points.keys, first < other → second ≤ other

/-- **In an ascending list shifted against itself** everything is paired with the next greater. -/
theorem mem_zip_drop_one {l : List Instant} (ascending : l.Pairwise (· < ·)) {a b : Instant} :
    (a, b) ∈ l.zip (l.drop 1)
      ↔ a ∈ l ∧ b ∈ l ∧ a < b ∧ ∀ other ∈ l, a < other → b ≤ other := by
  induction l with
  | nil => simp
  | cons first rest ih =>
    obtain ⟨above, ascending⟩ := List.pairwise_cons.mp ascending
    have inner := ih ascending
    have behind (other : Instant) (mem : other ∈ first :: rest) (after : first < other) :
        other ∈ rest :=
      (List.mem_cons.mp mem).resolve_left fun same => Instant.lt_irrefl _ (same ▸ after)
    cases rest with
    | nil =>
      simp only [List.drop_succ_cons, List.drop_nil, List.zip_nil_right, List.not_mem_nil,
        false_iff, List.mem_singleton]
      rintro ⟨rfl, rfl, below, -⟩
      exact Instant.lt_irrefl _ below
    | cons second others =>
      have least (other : Instant) (mem : other ∈ second :: others) : second ≤ other :=
        (ascending.imp Instant.le_of_lt).rel_head_of_rel_head_head mem (Instant.le_refl _)
      -- The first element is paired with the second one, the others among themselves.
      have pairs : (a, b) ∈ (first :: second :: others).zip ((first :: second :: others).drop 1)
          ↔ (a, b) = (first, second)
            ∨ (a, b) ∈ (second :: others).zip ((second :: others).drop 1) := List.mem_cons
      rw [pairs, inner]
      constructor
      · rintro (same | ⟨firstHeld, secondHeld, below, apart⟩)
        · cases same
          exact ⟨List.mem_cons_self, List.mem_cons_of_mem _ List.mem_cons_self,
            above _ List.mem_cons_self, fun other mem after => least other (behind other mem after)⟩
        · refine ⟨List.mem_cons_of_mem _ firstHeld, List.mem_cons_of_mem _ secondHeld, below,
            fun other mem after => apart other (behind other mem ?_) after⟩
          exact Instant.lt_trans (above a firstHeld) after
      · rintro ⟨firstHeld, secondHeld, below, apart⟩
        rcases List.mem_cons.mp firstHeld with rfl | later
        · have next := apart second (List.mem_cons_of_mem _ List.mem_cons_self)
            (above _ List.mem_cons_self)
          exact .inl (Prod.ext rfl
            (Instant.le_antisymm next (least b (behind b secondHeld below))))
        · exact .inr ⟨later, behind b secondHeld (Instant.lt_trans (above a later) below), below,
            fun other mem => apart other (List.mem_cons_of_mem _ mem)⟩

/-- **The gaps are the neighbours that are too far apart.** -/
theorem mem_gaps {first second : Instant} :
    (first, second) ∈ h.gaps
      ↔ h.Neighbours first second ∧ maxGapNanos < second.nanosSince first := by
  simp only [gaps, List.mem_filter, mem_zip_drop_one h.keys_ascending, decide_eq_true_eq]
  refine and_congr_left fun _ => ⟨?_, fun pair => ?_⟩
  · rintro ⟨held, held', ordered, apart⟩
    exact ⟨held, held', ordered, apart⟩
  · exact ⟨pair.first_held, pair.second_held, pair.ordered, pair.apart⟩

/-- Once something was observed there is a latest observation. -/
theorem exists_latestAt {t time : Instant} (held : time ∈ h.points.keys) (early : time ≤ t) :
    ∃ last, h.LatestAt t last := by
  obtain ⟨last, mem, greatest⟩ := ((h.points.keys.filter (· ≤ t)).toFinset).exists_max_image
    Instant.stamp ⟨time, by simp [held, early]⟩
  simp only [List.mem_toFinset, List.mem_filter, decide_eq_true_eq] at mem greatest
  refine ⟨last, mem.1, mem.2, fun other held after => Instant.not_le.mp fun upTo => ?_⟩
  exact Instant.not_le.mpr after (greatest other ⟨held, upTo⟩)

/-- The latest observation at an instant has its neighbour behind that instant, if anything was
observed there. -/
theorem LatestAt.exists_neighbour {t last later : Instant} (known : h.LatestAt t last)
    (held : later ∈ h.points.keys) (behind : t < later) :
    ∃ next, h.Neighbours last next ∧ t < next := by
  obtain ⟨next, mem, least⟩ := ((h.points.keys.filter (t < ·)).toFinset).exists_min_image
    Instant.stamp ⟨later, by simp [held, behind]⟩
  simp only [List.mem_toFinset, List.mem_filter, decide_eq_true_eq] at mem least
  refine ⟨next, ⟨known.held, mem.1, Int.lt_of_le_of_lt known.early mem.2, ?_⟩, mem.2⟩
  exact fun other held after => least other ⟨held, known.latest other held after⟩

/-! ## The ends of a history -/

theorem mem_of_earliest? {earliest : Instant} (known : h.earliest? = some earliest) :
    earliest ∈ h.points.keys := by
  obtain ⟨point, first, rfl⟩ := Option.map_eq_some_iff.mp known
  exact List.mem_map_of_mem (List.mem_of_head? first)

theorem mem_of_latest? {latest : Instant} (known : h.latest? = some latest) :
    latest ∈ h.points.keys := by
  obtain ⟨point, final, rfl⟩ := Option.map_eq_some_iff.mp known
  exact List.mem_map_of_mem (List.mem_of_getLast? final)

/-- Nothing was observed after the latest observation. -/
theorem le_latest? {latest time : Instant} (known : h.latest? = some latest)
    (held : time ∈ h.points.keys) : time ≤ latest := by
  have final : h.points.keys.getLast? = some latest := List.getLast?_map.trans known
  have ascending : h.points.keys.Pairwise (· ≤ ·) := h.keys_ascending.imp Instant.le_of_lt
  rw [← (List.getLast_eq_iff_getLast?_eq_some (List.ne_nil_of_mem held)).mpr final]
  exact ascending.rel_getLast_of_rel_getLast_getLast held (Instant.le_refl _)

/-- **Nothing is to be fetched** for an interval exactly if something was observed up to its start,
and something no more than 25 hours before its end. -/
theorem needsRefresh_eq_false_iff {start stop : Instant} :
    h.needsRefresh start stop = false ↔ ∃ earliest latest, h.earliest? = some earliest
      ∧ h.latest? = some latest ∧ earliest ≤ start ∧ stop.nanosSince latest ≤ maxGapNanos := by
  unfold needsRefresh
  cases h.earliest? with
  | none => simp
  | some earliest =>
    cases h.latest? with
    | none => simp
    | some latest =>
      simp only [Bool.or_eq_false_iff, decide_eq_false_iff_not, Instant.not_lt, Int.not_lt]
      constructor
      · rintro ⟨near, early⟩
        exact ⟨earliest, latest, rfl, rfl, early, near⟩
      · rintro ⟨_, _, ⟨⟩, ⟨⟩, early, near⟩
        exact ⟨near, early⟩

/-! ## Recent or reported -/

/-- **Where neither check alarms the latest observation is recent**, throughout the interval. -/
theorem exists_recent (ordinary : ∀ time ∈ h.points.keys, time.Ordinary) {start stop t : Instant}
    (closes : stop.Ordinary) (upToDate : h.needsRefresh start stop = false) (dense : h.gaps = [])
    (first : start ≤ t) (last : t < stop) :
    ∃ time, h.LatestAt t time ∧ t.nanosSince time ≤ maxGapNanos + t.leapNanos := by
  obtain ⟨earliest, latest, begins, ends, early, near⟩ := needsRefresh_eq_false_iff.mp upToDate
  obtain ⟨time, known⟩ := exists_latestAt (mem_of_earliest? begins) (Instant.le_trans early first)
  refine ⟨time, known, ?_⟩
  -- The next event is another observation, or else the end of the interval.
  obtain ⟨limit, limitOrdinary, behind, close⟩ : ∃ limit : Instant, limit.Ordinary ∧ t < limit
      ∧ limit.nanosSince time ≤ maxGapNanos := by
    by_cases final : time < latest
    · have held := mem_of_latest? ends
      obtain ⟨next, pair, behind⟩ := known.exists_neighbour held (known.latest latest held final)
      refine ⟨next, ordinary next pair.second_held, behind, Int.not_lt.mp fun far => ?_⟩
      have reported := mem_gaps.mpr ⟨pair, far⟩
      rw [dense] at reported
      cases reported
    · obtain rfl := Instant.le_antisymm (le_latest? ends known.held) (Instant.not_lt.mp final)
      exact ⟨stop, closes, last, near⟩
  have older := Instant.nanosSince_le (ordinary time known.held) limitOrdinary behind
  omega

/-- **An observation that is too old before the history ends stands at a reported gap.** -/
theorem LatestAt.exists_gap {t time latest : Instant} (known : h.LatestAt t time)
    (ordinary : ∀ time ∈ h.points.keys, time.Ordinary) (ends : h.latest? = some latest)
    (inside : t ≤ latest) (old : maxGapNanos + t.leapNanos < t.nanosSince time) :
    ∃ next, h.Neighbours time next ∧ t < next ∧ (time, next) ∈ h.gaps := by
  have held := mem_of_latest? ends
  have behind : t < latest := by
    refine Int.lt_iff_le_and_ne.mpr ⟨inside, fun same => ?_⟩
    -- The latest observation is no time old when it is made.
    obtain rfl : t = latest := Instant.stamp_injective same
    have upTo : t ≤ time := Instant.not_lt.mp fun after =>
      Instant.lt_irrefl t (known.latest t held after)
    rw [Instant.le_antisymm known.early upTo, Instant.nanosSince_self] at old
    simp only [maxGapNanos] at old
    omega
  obtain ⟨next, pair, after⟩ := known.exists_neighbour held behind
  have older := Instant.nanosSince_le (ordinary time known.held) (ordinary next pair.second_held)
    after
  exact ⟨next, pair, after, mem_gaps.mpr ⟨pair, by omega⟩⟩

/-- **Recent or reported.** Outside of leap seconds, where neither check alarms the latest
observation is at most 25 hours old at every instant of the interval; and where it is older, at any
instant before the history ends, it and the next observation are reported as a gap. -/
theorem recent_or_reported (ordinary : ∀ time ∈ h.points.keys, time.Ordinary) :
    (∀ start stop : Instant, stop.Ordinary → h.needsRefresh start stop = false → h.gaps = [] →
        ∀ t : Instant, t.Ordinary → start ≤ t → t < stop →
          ∃ time, h.LatestAt t time ∧ t.nanosSince time ≤ maxGapNanos)
      ∧ ∀ t time latest : Instant, t.Ordinary → h.LatestAt t time → h.latest? = some latest →
          t ≤ latest → maxGapNanos < t.nanosSince time →
          ∃ next, h.Neighbours time next ∧ t < next ∧ (time, next) ∈ h.gaps := by
  constructor
  · intro start stop closes upToDate dense t outside first last
    obtain ⟨time, known, recent⟩ := exists_recent ordinary closes upToDate dense first last
    rw [outside.leapNanos_eq] at recent
    exact ⟨time, known, by simpa using recent⟩
  · intro t time latest outside known ends inside old
    refine known.exists_gap ordinary ends inside ?_
    rw [outside.leapNanos_eq]
    simpa using old

section Sample

/-- Prices that were observed every 25 hours. -/
def steady : History Float :=
  .ofObservations [⟨.onDay 0 0, 0.3⟩, ⟨.onDay 1 1, 0.2⟩, ⟨.onDay 2 2, 0.4⟩]

/-- Prices with an interruption of 27 hours. -/
def interrupted : History Float :=
  .ofObservations [⟨.onDay 0 0, 0.3⟩, ⟨.onDay 1 3, 0.2⟩, ⟨.onDay 1 9, 0.4⟩]

/-- A whole interval with nothing missing, and an hour in which something is. -/
theorem recent_or_reported_sample :
    (∀ time ∈ steady.points.keys, time.Ordinary)
      ∧ (Instant.onDay 3 3).Ordinary
      ∧ steady.needsRefresh (.onDay 0 0) (.onDay 3 3) = false
      ∧ steady.gaps = []
      ∧ (∃ time, steady.LatestAt (.onDay 3 2) time
        ∧ (Instant.onDay 3 2).nanosSince time ≤ maxGapNanos)
      ∧ (∀ time ∈ interrupted.points.keys, time.Ordinary)
      ∧ interrupted.LatestAt (.onDay 1 2) (.onDay 0 0)
      ∧ interrupted.latest? = some (.onDay 1 9)
      ∧ maxGapNanos < (Instant.onDay 1 2).nanosSince (.onDay 0 0)
      ∧ ∃ next, interrupted.Neighbours (.onDay 0 0) next ∧ .onDay 1 2 < next
        ∧ (.onDay 0 0, next) ∈ interrupted.gaps := by
  have ordinary : ∀ time ∈ steady.points.keys, time.Ordinary := by decide
  have upToDate : steady.needsRefresh (.onDay 0 0) (.onDay 3 3) = false := by decide
  have dense : steady.gaps = [] := by decide
  have ordinary' : ∀ time ∈ interrupted.points.keys, time.Ordinary := by decide
  have known : interrupted.LatestAt (.onDay 1 2) (.onDay 0 0) := ⟨by decide, by decide, by decide⟩
  have ends : interrupted.latest? = some (.onDay 1 9) := by decide
  have old : maxGapNanos < (Instant.onDay 1 2).nanosSince (.onDay 0 0) := by decide
  exact ⟨ordinary, by decide, upToDate, dense,
    (recent_or_reported ordinary).1 (.onDay 0 0) (.onDay 3 3) (by decide) upToDate dense
      (.onDay 3 2) (by decide) (by decide) (by decide),
    ordinary', known, ends, old,
    (recent_or_reported ordinary').2 (.onDay 1 2) (.onDay 0 0) (.onDay 1 9) (by decide) known ends
      (by decide) old⟩

end Sample

end History

end ClusterBilling
