import ClusterBilling.Arithmetic

/-!
# The civil calendar

Days are numbered from 1970-01-01, which is day 0. The civil calendar is the one with a leap year
every four years, save every hundred, but every four hundred, run on without end in both
directions; year 0 is the year before year 1. A day number is computed from a date by counting,
and a date from a day number by finding the year in which the count falls.
-/

namespace ClusterBilling.Calendar

/-- A date of the civil calendar. -/
structure Date where
  year : Int
  month : Nat
  day : Nat
deriving Repr, DecidableEq

def isLeap (year : Int) : Bool := year % 4 = 0 && (year % 100 != 0 || year % 400 = 0)

/-- The lengths of the months of a year. -/
def monthLengths (leap : Bool) : List Nat :=
  [31, if leap then 29 else 28, 31, 30, 31, 30, 31, 31, 30, 31, 30, 31]

/-- The days from the start of year 1 to the end of year `past`, negative for years before. -/
def daysThrough (past : Int) : Int := 365 * past + past / 4 - past / 100 + past / 400

/-- The days from the start of year 1 to day 0. -/
def epochOffset : Int := 719162

/-- Whether the calendar has the date. -/
def Date.exists (d : Date) : Bool :=
  1 ≤ d.month && d.month ≤ 12 && 1 ≤ d.day
    && d.day ≤ ((monthLengths (isLeap d.year))[d.month - 1]?).getD 0

/-- The number of a day. -/
def Date.toDay (d : Date) : Int :=
  daysThrough (d.year - 1) + natSum ((monthLengths (isLeap d.year)).take (d.month - 1))
    + d.day - 1 - epochOffset

/-- How many whole years passed from the start of year 1 until `days` days after it. The estimate
by the mean length of a year is at most one year off. -/
def yearsPassed (days : Int) : Int :=
  let guess := 400 * days / 146097
  if days < daysThrough guess then guess - 1
  else if daysThrough (guess + 1) ≤ days then guess + 1
  else guess

/-- The month, counted on from `month`, and the day of it, from the days gone in the year. -/
def splitMonths (month gone : Nat) : List Nat → Nat × Nat
  | [] => (month, gone + 1)
  | length :: rest =>
    if gone < length then (month, gone + 1) else splitMonths (month + 1) (gone - length) rest

/-- The date of a day. -/
def Date.ofDay (day : Int) : Date :=
  let days := day + epochOffset
  let past := yearsPassed days
  let (month, dayOfMonth) :=
    splitMonths 1 (days - daysThrough past).toNat (monthLengths (isLeap (past + 1)))
  ⟨past + 1, month, dayOfMonth⟩

end ClusterBilling.Calendar
