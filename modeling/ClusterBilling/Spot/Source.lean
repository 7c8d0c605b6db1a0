import ClusterBilling.Fault
import ClusterBilling.Inventory.Record
import ClusterBilling.Spot.History

/-!
# Sources of spot prices

A source answers requests for a range of observations page by page. It is a step of an outer
state, so that its answers may change from call to call and fail at any of them. A page may name
a token for the next one; an absent or empty token ends the range.

**A source comes to an end.** `remaining` bounds the pages still to come: no call makes it grow,
whatever range is asked for, and it shrinks with every page that names a next one. This is what
makes fetching ranges, also several of them in turns, a total function; it says nothing of the
content of the pages.
-/

namespace ClusterBilling

/-- A kind of machine in a zone: what has one spot price at a time. -/
structure Market where
  kind : InstanceKind
  zone : Zone
deriving DecidableEq, Repr, Inhabited

namespace Market

/-- By kind, then by zone. -/
instance : Ord Market := ⟨compareLex (compareOn Market.kind) (compareOn Market.zone)⟩

instance : Std.TransOrd Market :=
  inferInstanceAs (Std.TransCmp (compareLex (compareOn Market.kind) (compareOn Market.zone)))

theorem compare_def (a b : Market) :
    compare a b = (compare a.kind b.kind).then (compare a.zone b.zone) := rfl

instance : Std.LawfulEqOrd Market where
  compare_self := by
    intro a
    rw [compare_def, Std.ReflOrd.compare_self, Std.ReflOrd.compare_self]
    rfl
  eq_of_compare := by
    intro a b same
    obtain ⟨byKind, byZone⟩ := Ordering.then_eq_eq.mp ((compare_def a b).symm.trans same)
    have kind := Std.LawfulEqOrd.eq_of_compare byKind
    have zone := Std.LawfulEqOrd.eq_of_compare byZone
    cases a
    cases b
    simp_all

end Market

/-- A request for the observations of a market in a range, from the page a token names. -/
structure PageRequest where
  market : Market
  start : Instant
  stop : Instant
  token : Option String
deriving DecidableEq

/-- A page of observations. -/
structure SpotPage (α : Type) where
  observations : List (Observation α)
  nextToken : Option String

/-- The token of the next page, if there is to be one. -/
def SpotPage.next? {α : Type} (page : SpotPage α) : Option String :=
  match page.nextToken with
  | some token => if token.isEmpty then none else some token
  | none => none

/-- A source of spot prices over an outer state. -/
structure SpotSource (σ α : Type) where
  /-- Answers a request. -/
  page : PageRequest → σ → Except Fault (SpotPage α) × σ
  /-- A bound for the pages still to come. -/
  remaining : PageRequest → σ → Nat
  remaining_le : ∀ asked s request, remaining request (page asked s).2 ≤ remaining request s
  page_lt : ∀ request s answer token s', page request s = (.ok answer, s') →
    answer.next? = some token →
    remaining { request with token := some token } s' < remaining request s

namespace SpotSource

variable {σ α : Type}

theorem remaining_le_of_page {source : SpotSource σ α} {asked : PageRequest} {s s' : σ}
    {answer : Except Fault (SpotPage α)} (answered : source.page asked s = (answer, s'))
    (request : PageRequest) : source.remaining request s' ≤ source.remaining request s := by
  have bound := source.remaining_le asked s request
  simpa only [answered] using bound

/-- The source that never has an observation. -/
def silent : SpotSource Unit α where
  page _ _ := (.ok ⟨[], none⟩, ())
  remaining _ _ := 0
  remaining_le _ _ _ := Nat.le_refl 0
  page_lt := by
    intro _ _ answer _ _ answered next
    cases answered
    simp [SpotPage.next?] at next

/-- A source that gives the answers of a list one after the other, whatever is asked, and behind
them an empty last page. -/
def scripted : SpotSource (List (Except Fault (SpotPage α))) α where
  page
    | _, [] => (.ok ⟨[], none⟩, [])
    | _, answer :: rest => (answer, rest)
  remaining _ script := script.length
  remaining_le := by
    intro _ script _
    cases script with
    | nil => exact Nat.le_refl 0
    | cons answer rest => exact Nat.le_succ _
  page_lt := by
    intro _ script answer _ _ answered next
    cases script with
    | nil =>
      cases answered
      simp [SpotPage.next?] at next
    | cons head rest =>
      cases answered
      exact Nat.lt_succ_self _

/-- A source that also notes every request in the state, the latest one last. -/
def noted (source : SpotSource σ α) : SpotSource (σ × List PageRequest) α where
  page request s :=
    let (answer, inner) := source.page request s.1
    (answer, inner, s.2 ++ [request])
  remaining request s := source.remaining request s.1
  remaining_le asked s request := source.remaining_le asked s.1 request
  page_lt := by
    intro request s page token s' answered next
    cases inner : source.page request s.1 with
    | mk answer after =>
      simp only [inner, Prod.mk.injEq] at answered
      obtain ⟨rfl, rfl⟩ := answered
      exact source.page_lt request s.1 page token after inner next

end SpotSource

end ClusterBilling
