import ClusterBilling.Time.Instant
import ClusterBilling.Text.Blank
import ClusterBilling.Decimal.Reader

/-!
# Reading instants

Two readers. The lenient one is for documents: blanks may stand before every number and separator,
the year may be signed and long, the zone may be `Z`, `UTC` or an offset with or without a colon.
The strict one is for the command line: either the fixed form of internet timestamps or a bare
date, which means its midnight. Both name a local date and time of day, which must exist, and an
offset; the instant they denote must lie in range.
-/

namespace ClusterBilling.Instant

open Text (isBlank trimFront)
open Decimal (natOfDigits)

/-- What a reader found, and what follows it. -/
abbrev Scan (α : Type) := Option (α × List Char)

/-- A run of at least one digit, cut off after `most` digits. -/
def scanNumber (most : Nat) (cs : List Char) : Scan Nat :=
  let ds := (cs.take most).takeWhile Char.isDigit
  if ds.isEmpty then none else some (natOfDigits ds, cs.drop ds.length)

/-- A run of exactly `count` digits. -/
def scanExact (count : Nat) (cs : List Char) : Scan Nat :=
  let ds := (cs.take count).takeWhile Char.isDigit
  if ds.length = count then some (natOfDigits ds, cs.drop count) else none

/-- All the digits in front, at least one. -/
def scanDigits (cs : List Char) : Scan Nat :=
  let ds := cs.takeWhile Char.isDigit
  if ds.isEmpty then none else some (natOfDigits ds, cs.dropWhile Char.isDigit)

def scanChar (c : Char) : List Char → Option (List Char)
  | [] => none
  | d :: rest => if d = c then some rest else none

/-- A year: any number of digits behind a sign, at most four without. -/
def scanYear (cs : List Char) : Scan Int :=
  match cs with
  | '-' :: rest => (scanDigits rest).map fun (n, rest) => (-(n : Int), rest)
  | '+' :: rest => (scanDigits rest).map fun (n, rest) => ((n : Int), rest)
  | cs => (scanNumber 4 cs).map fun (n, rest) => ((n : Int), rest)

/-- The nanoseconds behind a point: at least one digit, those after the ninth without effect. -/
def scanFraction (cs : List Char) : Scan Nat :=
  match cs with
  | '.' :: rest =>
    let ds := (rest.take 9).takeWhile Char.isDigit
    if ds.isEmpty then none
    else some (natOfDigits ds * Nat.pow 10 (9 - ds.length), rest.dropWhile Char.isDigit)
  | cs => some (0, cs)

/-- The letter between date and time. -/
def scanSeparator : List Char → Option (List Char)
  | [] => none
  | c :: rest => if c = 'T' || c = 't' || c = ' ' then some rest else none

/-- **An offset from universal time in seconds**: `Z`, or a sign, two digits of hours, whatever
`between` accepts, and two digits of minutes below sixty. -/
def scanOffset (between : List Char → Option (List Char)) (cs : List Char) :
    Option (Int × List Char) := do
  match cs with
  | [] => none
  | c :: rest =>
    if c = 'Z' || c = 'z' then some (0, rest)
    else if c = '+' || c = '-' || c = '−' then
      let (hours, rest) ← scanExact 2 rest
      let rest ← between rest
      let (minutes, rest) ← scanExact 2 rest
      if minutes < 60 then
        let seconds : Int := hours * 3600 + minutes * 60
        some (if c = '+' then seconds else -seconds, rest)
      else none
    else none

/-- A time of day on a local calendar, with its offset. -/
structure LocalTime where
  date : Calendar.Date
  hour : Nat
  minute : Nat
  second : Nat
  nano : Nat
  /-- Seconds ahead of universal time. -/
  offset : Int

/-- The instant a local time denotes: the date must exist and lie in range itself, second 60 is
the leap second of the minute, and the offset is less than a day. -/
def LocalTime.toInstant? (t : LocalTime) : Option Instant :=
  let localDay := t.date.toDay
  if !t.date.exists || t.hour ≥ 24 || t.minute ≥ 60 || t.second > 60
      || t.offset ≤ -86400 || 86400 ≤ t.offset
      || localDay < -96465292 || 95026236 < localDay then none
  else
    let (second, nano) := if t.second = 60 then (59, t.nano + 1000000000) else (t.second, t.nano)
    let seconds : Int := t.hour * 3600 + t.minute * 60 + second - t.offset
    ofParts? (localDay + seconds / 86400) (seconds % 86400).toNat nano

/-- Blanks, then one character. -/
def scanSpaced (c : Char) (cs : List Char) : Option (List Char) := scanChar c (trimFront cs)

/-- Blanks, then one or two digits. -/
def scanPair (cs : List Char) : Scan Nat := scanNumber 2 (trimFront cs)

/-- The offset of the lenient reader: `UTC` in any case, or an offset whose hours and minutes may
be set apart by any colons and blanks. -/
def scanLenientOffset (cs : List Char) : Scan Int :=
  if (cs.take 3).map Char.toUpper == ['U', 'T', 'C'] then some (0, cs.drop 3)
  else scanOffset (fun rest => some (rest.dropWhile fun c => c = ':' || isBlank c)) cs

/-- **The lenient reader.** -/
def readLenient? (s : String) : Option Instant := do
  let (year, cs) ← scanYear (trimFront s.toList)
  let cs ← scanSpaced '-' cs
  let (month, cs) ← scanPair cs
  let cs ← scanSpaced '-' cs
  let (day, cs) ← scanPair cs
  let cs ← scanSeparator cs
  let (hour, cs) ← scanPair cs
  let cs ← scanSpaced ':' cs
  let (minute, cs) ← scanPair cs
  let cs ← scanSpaced ':' cs
  let (second, cs) ← scanPair cs
  let (nano, cs) ← scanFraction cs
  let (offset, cs) ← scanLenientOffset (trimFront cs)
  if (trimFront cs).isEmpty then
    LocalTime.toInstant? ⟨⟨year, month, day⟩, hour, minute, second, nano, offset⟩
  else none

/-- The fixed form of internet timestamps. -/
def readTimestamp? (s : String) : Option Instant := do
  let (year, cs) ← scanExact 4 s.toList
  let cs ← scanChar '-' cs
  let (month, cs) ← scanExact 2 cs
  let cs ← scanChar '-' cs
  let (day, cs) ← scanExact 2 cs
  let cs ← scanSeparator cs
  let (hour, cs) ← scanExact 2 cs
  let cs ← scanChar ':' cs
  let (minute, cs) ← scanExact 2 cs
  let cs ← scanChar ':' cs
  let (second, cs) ← scanExact 2 cs
  let (nano, cs) ← scanFraction cs
  let (offset, cs) ← scanOffset (scanChar ':') cs
  if cs.isEmpty then
    LocalTime.toInstant? ⟨⟨year, month, day⟩, hour, minute, second, nano, offset⟩
  else none

/-- The midnight that begins a date. -/
def readDate? (s : String) : Option Instant := do
  let (year, cs) ← scanYear (trimFront s.toList)
  let cs ← scanChar '-' cs
  let (month, cs) ← scanPair cs
  let cs ← scanChar '-' cs
  let (day, cs) ← scanPair cs
  if cs.isEmpty then LocalTime.toInstant? ⟨⟨year, month, day⟩, 0, 0, 0, 0, 0⟩ else none

/-- **The strict reader**: a timestamp, else a date. -/
def readStrict? (s : String) : Option Instant :=
  match readTimestamp? s with
  | some t => some t
  | none => readDate? s

end ClusterBilling.Instant
