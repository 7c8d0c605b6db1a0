import ClusterBilling.Time.Instant
import ClusterBilling.Decimal.Binary

/-!
# Writing instants

An instant is written as date and time of day in universal time. The fraction of a second takes
the fewest of 0, 3, 6 and 9 digits that lose nothing, a leap second shows as second 60, and a year
outside 0 to 9999 carries its sign. Documents use the form with `T` and `Z`, messages the form
with a blank and `UTC`.
-/

namespace ClusterBilling.Instant

open Decimal (padDigits)

/-- A year in four digits; with a sign, and more digits if it needs them, outside 0 to 9999. -/
def yearText (year : Int) : List Char :=
  if 0 ≤ year && year ≤ 9999 then padDigits 4 year.toNat
  else (if year < 0 then '-' else '+') :: padDigits 4 year.natAbs

/-- The digits behind the seconds. -/
def fractionText (nanos : Nat) : List Char :=
  if nanos = 0 then []
  else if nanos % 1000000 = 0 then '.' :: padDigits 3 (nanos / 1000000)
  else if nanos % 1000 = 0 then '.' :: padDigits 6 (nanos / 1000)
  else '.' :: padDigits 9 nanos

def dateText (date : Calendar.Date) : List Char :=
  yearText date.year ++ '-' :: padDigits 2 date.month ++ '-' :: padDigits 2 date.day

def timeText (t : Instant) : List Char :=
  padDigits 2 (t.second / 3600) ++ ':' :: padDigits 2 (t.second / 60 % 60)
    ++ ':' :: padDigits 2 (t.second % 60 + t.nano / 1000000000)
    ++ fractionText (t.nano % 1000000000)

/-- The form of documents: `2024-03-01T08:00:00Z`. -/
def text (t : Instant) : String :=
  String.ofList (dateText (.ofDay t.day) ++ 'T' :: timeText t ++ ['Z'])

/-- The form of messages: `2024-03-01 08:00:00 UTC`. -/
def displayText (t : Instant) : String :=
  String.ofList (dateText (.ofDay t.day) ++ ' ' :: timeText t ++ " UTC".toList)

end ClusterBilling.Instant
