import ClusterBilling.Proofs.Spot.Exchanges
import ClusterBilling.Proofs.Spot.Transparency

/-!
# The pages of a recording

A range of a recording is the observation in force at its start and what was recorded inside it
(`inForce_opening?`, `recordedInside_inside`): neither says more than what was recorded, in which
order, and when. Whoever asks a recording for a page, and then for each next page by the token that
the one before named, walks through the pages of the range (`walk`).

**A walk enumerates its range** (`walk_enumerates`), whatever the size of the pages is: every
request is answered, the pages put together are the range, no observation is lost or given twice,
and there are as many pages as full ones are needed, at least one. The offsets that are read from
the tokens stay inside the range, so what is reckoned for the place behind a page goes no more than
one page beyond the range.
-/

namespace ClusterBilling

namespace SpotRecording

variable {α : Type}

/-! ## What a range consists of -/

/-- **The observation in force** at an instant, if there is one: of those recorded not after it the
latest, and of those of one instant the one recorded last. -/
def InForce (recorded : List (Observation α)) (start : Instant) : Option (Observation α) → Prop
  | none => ∀ o ∈ recorded, start < o.time
  | some o => o.time ≤ start ∧ ∃ before after, recorded = before ++ o :: after
      ∧ (∀ other ∈ before, other.time ≤ start → other.time ≤ o.time)
      ∧ ∀ other ∈ after, other.time ≤ start → other.time < o.time

/-- **What was recorded inside a range**, in order of time, and at each instant as it was
recorded. -/
structure RecordedInside (recorded : List (Observation α)) (start stop : Instant)
    (observations : List (Observation α)) : Prop where
  ascending : observations.Pairwise fun a b => a.time ≤ b.time
  atInstant : ∀ time, observations.filter (fun o => decide (o.time = time))
    = if start < time ∧ time ≤ stop then recorded.filter fun o => decide (o.time = time) else []

section Ranges

variable (r : SpotRecording α) (market : Market) (start stop : Instant)

/-- The observations behind the start of a range. -/
def inside (r : SpotRecording α) (market : Market) (start stop : Instant) :
    List (Observation α) :=
  (r.sorted market).filter fun o => decide (start < o.time) && decide (o.time ≤ stop)

theorem range_eq :
    r.range market start stop = (r.opening? market start).toList ++ r.inside market start stop :=
  rfl

/-- An observation that opens a range is the last one recorded for its instant. -/
theorem find?_recorded_of_opening? {o : Observation α} (opens : r.opening? market start = some o) :
    (r.recorded market).reverse.find? (fun other => decide (other.time = o.time)) = some o := by
  obtain ⟨-, later, earlier, split, above⟩ := List.find?_eq_some_iff_append.mp opens
  have sorted : (r.sorted market).reverse.find? (fun other => decide (other.time = o.time))
      = some o := by
    refine List.find?_eq_some_iff_append.mpr ⟨decide_eq_true rfl, later, earlier, split, ?_⟩
    intro other mem
    have late : ¬ other.time ≤ start := by simpa using above other mem
    have differs : other.time ≠ o.time := fun same => late (same ▸ (time_le_of_opening? opens).2)
    simpa using differs
  rwa [← List.head?_filter, List.filter_reverse, filter_sorted, ← List.filter_reverse,
    List.head?_filter] at sorted

theorem inForce_opening? : InForce (r.recorded market) start (r.opening? market start) := by
  cases opens : r.opening? market start with
  | none =>
    intro o mem
    have late := List.find?_eq_none.mp opens o (List.mem_reverse.mpr (mem_sorted.mpr mem))
    exact Instant.not_le.mp (by simpa using late)
  | some o =>
    obtain ⟨-, after, before, split, others⟩ :=
      List.find?_eq_some_iff_append.mp (r.find?_recorded_of_opening? market start opens)
    have recorded : r.recorded market = before.reverse ++ o :: after.reverse := by
      rw [← List.reverse_reverse (r.recorded market), split]
      simp
    have latest (other : Observation α) (mem : other ∈ r.recorded market)
        (early : other.time ≤ start) : other.time ≤ o.time := le_opening opens mem early
    refine ⟨(time_le_of_opening? opens).2, before.reverse, after.reverse, recorded, ?_, ?_⟩
    · intro other mem early
      exact latest other (recorded ▸ List.mem_append_left _ mem) early
    · intro other mem early
      have listed : other ∈ r.recorded market :=
        recorded ▸ List.mem_append_right _ (List.mem_cons_of_mem o mem)
      have differs : other.time ≠ o.time := by
        simpa using others other (List.mem_reverse.mp mem)
      exact Int.lt_iff_le_and_ne.mpr
        ⟨latest other listed early, fun same => differs (Instant.stamp_injective same)⟩

theorem recordedInside_inside :
    RecordedInside (r.recorded market) start stop (r.inside market start stop) where
  ascending := (r.sorted_ascending market).filter _
  atInstant time := by
    rw [inside, List.filter_filter, ← filter_sorted]
    split
    · next chosen =>
      refine List.filter_congr fun o _ => ?_
      by_cases same : o.time = time <;> simp [same, chosen]
    · next outside =>
      refine List.filter_eq_nil_iff.mpr fun o _ => ?_
      rw [Bool.and_eq_true, decide_eq_true_eq]
      rintro ⟨rfl, chosen⟩
      rw [Bool.and_eq_true, decide_eq_true_eq, decide_eq_true_eq] at chosen
      exact outside chosen

end Ranges

/-! ## Walks -/

section Walks

variable {r : SpotRecording α} {request : PageRequest}

/-- A page that names a next one leaves fewer pages. -/
theorem pagesLeft_lt {page : SpotPage α} {token : String} (answered : r.pageAt request = .ok page)
    (next : page.nextToken = some token) :
    r.pagesLeft { request with token := some token } < r.pagesLeft request := by
  have nonempty : token.isEmpty = false := by
    cases read : offset? request.token with
    | none => simp [pageAt, read] at answered
    | some offset =>
      cases (r.pageAt_eq read).symm.trans answered
      obtain ⟨-, named⟩ := Option.ite_none_right_eq_some.mp next
      cases named
      simp
  have named : page.next? = some token := by simp [SpotPage.next?, next, nonempty]
  exact r.source.page_lt request () page token () (congrArg (·, ()) answered) named

/-- **The exchanges of a walk** through the pages of a range, from a request on: every token that a
page names is passed on in the next request, and a page that names none is the last one. -/
def walk (r : SpotRecording α) (request : PageRequest) : List (Exchange α) :=
  match _answered : r.pageAt request with
  | .error fault => [⟨request, .error fault⟩]
  | .ok page =>
    match _next : page.nextToken with
    | none => [⟨request, .ok page⟩]
    | some token => ⟨request, .ok page⟩ :: walk r { request with token := some token }
termination_by r.pagesLeft request
decreasing_by exact pagesLeft_lt _answered _next

/-- The exchanges that give out some observations from an offset on, in pages of a size. -/
structure Enumerates (all : List (Observation α)) (size offset : Nat)
    (exchanges : List (Exchange α)) : Prop where
  answered : ∀ e ∈ exchanges, ∃ page, e.answer = .ok page
  observed : exchanges.flatMap Exchange.observations = all.drop offset
  count : exchanges.length = max 1 ((all.length - offset) ⌈/⌉ size)
  /-- A later offset is behind a page that is not the last one. -/
  offsets : ∀ e ∈ exchanges, ∃ before, offset? e.request.token = some before
    ∧ (before = offset ∨ size ≤ before ∧ before < all.length)

theorem step_pos (r : SpotRecording α) : 0 < r.step := Nat.le_max_right _ _

/-- What fits on one page needs one. -/
theorem pageCount_of_le {count size : Nat} (positive : 0 < size) (short : count ≤ size) :
    max 1 (count ⌈/⌉ size) = 1 := by
  refine max_eq_left (ceilDiv_le_iff_le_mul positive |>.mpr ?_)
  rwa [mul_one]

/-- What is more than one page needs one page more than what is left behind the first. -/
theorem pageCount_of_lt {count size : Nat} (positive : 0 < size) (long : size < count) :
    max 1 (count ⌈/⌉ size) = max 1 ((count - size) ⌈/⌉ size) + 1 := by
  obtain ⟨rest, rfl⟩ := Nat.exists_eq_add_of_lt long
  have whole : (size + rest + 1) ⌈/⌉ size = (rest + 1) ⌈/⌉ size + 1 := by
    rw [Nat.ceilDiv_eq_add_pred_div, Nat.ceilDiv_eq_add_pred_div,
      ← Nat.add_div_right _ positive]
    congr 1
    omega
  have some : 1 ≤ (rest + 1) ⌈/⌉ size := by
    rw [Nat.ceilDiv_eq_add_pred_div]
    exact (Nat.one_le_div_iff positive).mpr (by omega)
  rw [whole, Nat.add_assoc, Nat.add_sub_cancel_left]
  omega

/-- **A walk gives out what is left of its range.** -/
theorem enumerates_walk (r : SpotRecording α) (request : PageRequest) {offset : Nat}
    (read : offset? request.token = some offset) :
    Enumerates (r.rangeOf request) r.step offset (r.walk request) := by
  fun_induction walk r request generalizing offset with
  | case1 request fault failed => cases failed.symm.trans (r.pageAt_eq read)
  | case2 request page answered last =>
    cases answered.symm.trans (r.pageAt_eq read)
    have done : (r.rangeOf request).length ≤ offset + r.step :=
      Nat.le_of_not_lt fun more => by simp [more] at last
    have rest : ((r.rangeOf request).drop offset).take r.step = (r.rangeOf request).drop offset :=
      List.take_of_length_le (by rw [List.length_drop]; omega)
    constructor
    case answered => simp
    case observed => simpa [Exchange.observations] using rest
    case count => rw [pageCount_of_le r.step_pos (by omega), List.length_singleton]
    case offsets => simp [read]
  | case3 request page answered token next ih =>
    cases answered.symm.trans (r.pageAt_eq read)
    obtain ⟨more, named⟩ := Option.ite_none_right_eq_some.mp next
    obtain rfl := Option.some.inj named
    have others : Enumerates (r.rangeOf request) r.step (offset + r.step) _ :=
      ih (offset?_next more)
    have longer : r.step < (r.rangeOf request).length - offset := by omega
    constructor
    case answered => simpa using others.answered
    case observed =>
      rw [List.flatMap_cons, others.observed]
      exact (r.drop_eq_page_append (r.rangeOf request) offset).symm
    case count =>
      rw [List.length_cons, others.count, pageCount_of_lt r.step_pos longer, Nat.sub_sub]
    case offsets =>
      intro e mem
      rcases List.mem_cons.mp mem with rfl | later
      · exact ⟨offset, read, .inl rfl⟩
      · obtain ⟨before, known, behind⟩ := others.offsets e later
        refine ⟨before, known, .inr ?_⟩
        rcases behind with rfl | inside
        · exact ⟨Nat.le_add_left .., more⟩
        · exact inside

end Walks

/-- **A walk enumerates its range.** From the first page on every request is answered; the pages
together are the observation in force at the start, if there is one, and what was recorded inside
the range; and there are as many pages as full ones are needed, an empty range having one. A page
size is a word of 64 bits, and a list in memory takes up less than half of the addresses that there
are: so the place behind a page, which is reckoned before it is compared with the length of the
range, is a word as well. -/
theorem walk_enumerates (r : SpotRecording α) (market : Market) (start stop : Instant)
    {token : Option String} (first : token = none ∨ token = some "") :
    ∃ opening inside, InForce (r.recorded market) start opening
      ∧ RecordedInside (r.recorded market) start stop inside
      ∧ let range := opening.toList ++ inside
        let walk := r.walk ⟨market, start, stop, token⟩
        (∀ e ∈ walk, ∃ page, e.answer = .ok page)
        ∧ walk.flatMap Exchange.observations = range
        ∧ walk.length = max 1 (range.length ⌈/⌉ max 1 r.pageSize)
        ∧ (r.pageSize < 2 ^ 64 → (r.recorded market).length ≤ 2 ^ 63 →
          ∀ e ∈ walk, ∃ before, offset? e.request.token = some before
            ∧ before + max 1 r.pageSize < 2 ^ 64) := by
  have read : offset? token = some 0 := by rcases first with rfl | rfl <;> rfl
  have size : r.step = max 1 r.pageSize := Nat.max_comm ..
  have pages : Enumerates ((r.opening? market start).toList ++ r.inside market start stop)
      (max 1 r.pageSize) 0 (r.walk ⟨market, start, stop, token⟩) := by
    rw [← range_eq, ← size]
    exact r.enumerates_walk ⟨market, start, stop, token⟩ read
  refine ⟨r.opening? market start, r.inside market start stop, r.inForce_opening? market start,
    r.recordedInside_inside market start stop, pages.answered, ?_, ?_, ?_⟩
  · exact pages.observed
  · exact pages.count
  · intro word held e mem
    obtain ⟨before, known, bound⟩ := pages.offsets e mem
    refine ⟨before, known, ?_⟩
    rcases bound with rfl | ⟨behind, inside⟩
    · omega
    · have shorter : ((r.opening? market start).toList ++ r.inside market start stop).length
          ≤ (r.sorted market).length := r.length_range_le market start stop
      have recorded : (r.sorted market).length = (r.recorded market).length :=
        List.length_mergeSort ..
      omega

section Sample

/-- A recording whose prices are numbered as they were recorded: two series of one market with
several prices at one instant, and one of another market in between. -/
def numbered : SpotRecording Nat where
  pageSize := 2
  series := [
    ⟨"m5.large", "us-east-1a", [⟨.atHour 3, 0⟩, ⟨.atHour 1, 1⟩, ⟨.atHour 1, 2⟩]⟩,
    ⟨"r5.large", "us-east-1a", [⟨.atHour 2, 3⟩]⟩,
    ⟨"m5.large", "us-east-1a", [⟨.atHour 5, 4⟩, ⟨.atHour 3, 5⟩, ⟨.atHour 1, 6⟩]⟩]
  counted := by decide

theorem walk_enumerates_numbered :
    let market : Market := ⟨"m5.large", "us-east-1a"⟩
    ∃ opening inside, InForce (numbered.recorded market) (.atHour 1) opening
      ∧ RecordedInside (numbered.recorded market) (.atHour 1) (.atHour 5) inside
      ∧ let walk := numbered.walk ⟨market, .atHour 1, .atHour 5, some ""⟩
        (∀ e ∈ walk, ∃ page, e.answer = .ok page)
        ∧ walk.flatMap Exchange.observations = opening.toList ++ inside
        ∧ walk.length = max 1 ((opening.toList ++ inside).length ⌈/⌉ 2)
        ∧ ∀ e ∈ walk, ∃ before, offset? e.request.token = some before ∧ before + 2 < 2 ^ 64 := by
  obtain ⟨opening, inside, inForce, recorded, answered, observed, count, words⟩ :=
    numbered.walk_enumerates ⟨"m5.large", "us-east-1a"⟩ (.atHour 1) (.atHour 5)
      (.inr rfl : some "" = none ∨ some "" = some "")
  exact ⟨opening, inside, inForce, recorded, answered, observed, count,
    words (by decide) (by decide)⟩

end Sample

end SpotRecording

end ClusterBilling
