import ClusterBilling.Spot.Source
import ClusterBilling.Decimal.Reader

/-!
# Recorded spot prices

A recording holds series of observations, of which several may belong to one market, and answers
requests from them. The answer to a range is the observation in force when the range begins, if
there is one, and every observation inside the range, oldest first. It is cut into pages of a
fixed size; a token is the number of observations on the pages before.
-/

namespace ClusterBilling

/-- Observations of one market. -/
structure RecordedSeries (α : Type) where
  kind : InstanceKind
  zone : Zone
  observations : List (Observation α)

/-- The tokens that can be read are below this bound. -/
def SpotRecording.tokenBound : Nat := 18446744073709551616

/-- Recorded observations, given out in pages. -/
structure SpotRecording (α : Type) where
  pageSize : Nat
  series : List (RecordedSeries α)
  /-- What is held in memory can be counted by the numbers that are read from tokens. -/
  counted : natSum (series.map fun s => s.observations.length) < SpotRecording.tokenBound

namespace SpotRecording

variable {α : Type}

/-- The size of a page where a recording gives none. -/
def standardPageSize : Nat := 100

/-- The recording of the series, unless there is more in them than can be counted. -/
def ofSeries? (pageSize : Nat) (series : List (RecordedSeries α)) : Option (SpotRecording α) :=
  if counted : natSum (series.map fun s => s.observations.length) < tokenBound then
    some ⟨pageSize, series, counted⟩
  else none

/-- Nothing was recorded. -/
def empty : SpotRecording α := ⟨standardPageSize, [], Nat.zero_lt_succ _⟩

/-- All observations of a market, oldest first, those of one instant as recorded. -/
def sorted (r : SpotRecording α) (market : Market) : List (Observation α) :=
  let own := r.series.filter fun s => s.kind == market.kind && s.zone == market.zone
  (own.flatMap RecordedSeries.observations).mergeSort fun a b => decide (a.time ≤ b.time)

/-- **The answer to a range**: the last observation not after its start, then those after the
start and not after the stop. -/
def range (r : SpotRecording α) (market : Market) (start stop : Instant) :
    List (Observation α) :=
  let all := r.sorted market
  (all.reverse.find? fun o => decide (o.time ≤ start)).toList
    ++ all.filter fun o => decide (start < o.time) && decide (o.time ≤ stop)

/-- The number of observations on the pages before the one a token names. -/
def offset? : Option String → Option Nat
  | none => some 0
  | some token => if token.isEmpty then some 0 else Decimal.readNat? tokenBound token

/-- The observations of a page; an empty page holds one all the same. -/
def step (r : SpotRecording α) : Nat := max r.pageSize 1

/-- **One page** of a range, and the token of the next one where observations are left. -/
def pageAt (r : SpotRecording α) (request : PageRequest) : Except Fault (SpotPage α) :=
  match offset? request.token with
  | none => .error (.invalidArgument
      ("invalid continuation token: " ++ request.token.getD ""))
  | some offset =>
    let all := r.range request.market request.start request.stop
    let next := offset + r.step
    .ok ⟨(all.drop offset).take r.step, if next < all.length then some next.repr else none⟩

/-- A bound for the pages still to come. -/
def pagesLeft (r : SpotRecording α) (request : PageRequest) : Nat :=
  match offset? request.token with
  | none => 0
  | some offset => (r.range request.market request.start request.stop).length - offset + 1

/-- A token is read as the offset it was made of, if it can be read. -/
theorem offset?_repr (n : Nat) :
    offset? (some n.repr) = if n < tokenBound then some n else none := by
  have nonempty : n.repr.isEmpty = false := by simp
  simp only [offset?, nonempty, Bool.false_eq_true, if_false, Decimal.readNat?_repr]

/-- The recording as a source without a state of its own. -/
def source (r : SpotRecording α) : SpotSource Unit α where
  page request _ := (r.pageAt request, ())
  remaining request _ := r.pagesLeft request
  remaining_le _ _ _ := Nat.le_refl _
  page_lt := by
    intro request _ page token _ answered next
    simp only [Prod.mk.injEq, and_true] at answered
    unfold pageAt at answered
    cases known : offset? request.token with
    | none => simp [known] at answered
    | some offset =>
      simp only [known, Except.ok.injEq] at answered
      subst answered
      simp only [SpotPage.next?] at next
      by_cases more : offset + r.step < (r.range request.market request.start request.stop).length
      · have progress : 0 < r.step := by
          have := Nat.le_max_right r.pageSize 1
          unfold step
          omega
        rw [if_pos more] at next
        have nonempty : (offset + r.step).repr.isEmpty = false := by simp
        simp only [nonempty, Bool.false_eq_true, if_false, Option.some.injEq] at next
        subst next
        unfold pagesLeft
        simp only [offset?_repr, known]
        split <;> rename_i read
        · omega
        · split at read
          · cases read
            omega
          · cases read
      · simp [if_neg more] at next

end SpotRecording

end ClusterBilling
