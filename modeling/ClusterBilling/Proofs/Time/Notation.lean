import Mathlib
import ClusterBilling.Proofs.Time.Calendar
import ClusterBilling.Time.Notation
import ClusterBilling.Time.Reader

/-!
# What is written for an instant reads back

The reader of documents takes every instant back from what is written for it
(`readLenient?_text`): years beyond four digits and before year 0 with their sign, fractions of a
second in the digits they need, and a leap second as second 60 of its minute.

The reader goes from left to right, so there is one lemma for each part that is written, followed by
whatever comes next. A number that is written in at least so many digits is read up to the first
character that is no digit, or up to the digits it may have.
-/

namespace ClusterBilling

/-! ## Numbers in digits -/

namespace Decimal

theorem natOfDigits_padDigits (width n : Nat) : natOfDigits (padDigits width n) = n := by
  simp only [natOfDigits, padDigits, digits, Nat.ofDigitChars_append,
    Nat.ofDigitChars_replicate_zero, Nat.mul_zero, Nat.ofDigitChars_ten_toDigits]

theorem isDigit_of_mem_padDigits {width n : Nat} {c : Char} (mem : c ∈ padDigits width n) :
    c.isDigit = true := by
  rcases List.mem_append.mp mem with padding | digit
  · rw [List.eq_of_mem_replicate padding]
    decide
  · exact Nat.isDigit_of_mem_toDigits (by decide) (by decide) digit

theorem padDigits_ne_nil (width n : Nat) : padDigits width n ≠ [] := by
  intro none
  have some : 0 < (Nat.toDigits 10 n).length := Nat.length_toDigits_pos
  have empty : Nat.toDigits 10 n = [] := (List.append_eq_nil_iff.mp none).2
  rw [empty] at some
  exact absurd some (Nat.lt_irrefl 0)

/-- A number that fits is written in so many digits exactly. -/
theorem length_padDigits {width n : Nat} (wide : 0 < width) (fits : n < 10 ^ width) :
    (padDigits width n).length = width := by
  have short : (Nat.toDigits 10 n).length ≤ width :=
    (Nat.length_toDigits_le_iff (by decide) wide).mpr fits
  simp only [padDigits, digits, List.length_append, List.length_replicate]
  omega

/-- The first character of a number is a digit. -/
theorem exists_cons_padDigits (width n : Nat) :
    ∃ c rest, padDigits width n = c :: rest ∧ c.isDigit = true := by
  cases written : padDigits width n with
  | nil => exact absurd written (padDigits_ne_nil width n)
  | cons c rest =>
    refine ⟨c, rest, rfl, ?_⟩
    have mem : c ∈ padDigits width n := by
      rw [written]
      exact List.mem_cons_self
    exact isDigit_of_mem_padDigits mem

end Decimal

namespace Instant

open Decimal

/-! ## The parts of an instant -/

theorem not_isBlank_of_isDigit {c : Char} (digit : c.isDigit = true) : Text.isBlank c = false := by
  have low : 48 ≤ c.toNat := by simpa using (Char.isDigit_iff_toNat.mp digit).1
  have high : c.toNat ≤ 57 := by simpa using (Char.isDigit_iff_toNat.mp digit).2
  simp [Text.isBlank]
  omega

/-- There is no blank in front of a number. -/
theorem trimFront_padDigits (width n : Nat) (rest : List Char) :
    Text.trimFront (padDigits width n ++ rest) = padDigits width n ++ rest := by
  obtain ⟨c, ds, written, digit⟩ := exists_cons_padDigits width n
  rw [written]
  exact List.dropWhile_cons_of_neg (by rw [not_isBlank_of_isDigit digit]; exact Bool.false_ne_true)

theorem takeWhile_padDigits (width n : Nat) :
    (padDigits width n).takeWhile Char.isDigit = padDigits width n :=
  List.takeWhile_eq_self_iff.mpr fun _ mem => isDigit_of_mem_padDigits mem

/-- A number is read if it has no more digits than may be read. -/
theorem scanNumber_padDigits {width n : Nat} (wide : 0 < width) (fits : n < 10 ^ width)
    (rest : List Char) : scanNumber width (padDigits width n ++ rest) = some (n, rest) := by
  have length := length_padDigits wide fits
  have front : ((padDigits width n ++ rest).take width).takeWhile Char.isDigit
      = padDigits width n := by
    rw [List.take_left' length, takeWhile_padDigits]
  simp only [scanNumber, front, List.isEmpty_eq_false_iff.mpr (padDigits_ne_nil width n),
    Bool.false_eq_true, if_false, natOfDigits_padDigits, List.drop_left]

theorem scanPair_padDigits {n : Nat} (fits : n < 100) (rest : List Char) :
    scanPair (padDigits 2 n ++ rest) = some (n, rest) := by
  rw [scanPair, trimFront_padDigits]
  exact scanNumber_padDigits (by decide) fits rest

/-- A number of any length is read up to what is no digit. -/
theorem scanDigits_padDigits (width n : Nat) {c : Char} (ends : c.isDigit = false)
    (rest : List Char) :
    scanDigits (padDigits width n ++ c :: rest) = some (n, c :: rest) := by
  have all : ∀ d ∈ padDigits width n, d.isDigit := fun d mem => isDigit_of_mem_padDigits mem
  have stop : ¬ c.isDigit := by rw [ends]; exact Bool.false_ne_true
  have front : (padDigits width n ++ c :: rest).takeWhile Char.isDigit = padDigits width n := by
    rw [List.takeWhile_append_of_pos all, List.takeWhile_cons_of_neg stop, List.append_nil]
  have back : (padDigits width n ++ c :: rest).dropWhile Char.isDigit = c :: rest := by
    rw [List.dropWhile_append_of_pos all, List.dropWhile_cons_of_neg stop]
  simp only [scanDigits, front, back, List.isEmpty_eq_false_iff.mpr (padDigits_ne_nil width n),
    Bool.false_eq_true, if_false, natOfDigits_padDigits]

/-- A year is read, with its sign if it has one. -/
theorem scanYear_yearText (year : Int) (rest : List Char) :
    scanYear (yearText year ++ '-' :: rest) = some (year, '-' :: rest) := by
  unfold yearText
  split
  · next plain =>
    simp only [Bool.and_eq_true, decide_eq_true_eq] at plain
    have read : scanNumber 4 (padDigits 4 year.toNat ++ '-' :: rest)
        = some (year.toNat, '-' :: rest) := scanNumber_padDigits (by decide) (by omega) _
    have same : (year.toNat : Int) = year := Int.toNat_of_nonneg plain.1
    obtain ⟨c, ds, written, digit⟩ := exists_cons_padDigits 4 year.toNat
    rw [written, List.cons_append] at read ⊢
    unfold scanYear
    split
    · next sign => cases sign; exact absurd digit (by decide)
    · next sign => cases sign; exact absurd digit (by decide)
    · rw [read]
      exact congrArg (fun y => some (y, '-' :: rest)) same
  · next signed =>
    simp only [Bool.and_eq_true, decide_eq_true_eq] at signed
    have read := scanDigits_padDigits 4 year.natAbs (c := '-') (by decide) rest
    split
    · next negative =>
      have same : -(year.natAbs : Int) = year := by omega
      simp only [List.cons_append, scanYear, read, Option.map_some, same]
    · next positive =>
      have same : (year.natAbs : Int) = year := by omega
      simp only [List.cons_append, scanYear, read, Option.map_some, same]

/-- There is no blank in front of a year. -/
theorem trimFront_yearText (year : Int) (rest : List Char) :
    Text.trimFront (yearText year ++ rest) = yearText year ++ rest := by
  unfold yearText
  split
  · exact trimFront_padDigits 4 year.toNat rest
  · split <;> exact List.dropWhile_cons_of_neg (by decide)

theorem scanSpaced_cons {c : Char} (mark : Text.isBlank c = false) (rest : List Char) :
    scanSpaced c (c :: rest) = some rest := by
  have front : Text.trimFront (c :: rest) = c :: rest :=
    List.dropWhile_cons_of_neg (by rw [mark]; exact Bool.false_ne_true)
  rw [scanSpaced, front, scanChar, if_pos rfl]

/-- Digits behind a point are the nanoseconds they stand for. -/
theorem scanFraction_padDigits {width n : Nat} (wide : 0 < width) (narrow : width ≤ 9)
    (fits : n < 10 ^ width) :
    scanFraction ('.' :: padDigits width n ++ ['Z']) = some (n * 10 ^ (9 - width), ['Z']) := by
  have length := length_padDigits wide fits
  have all : ∀ d ∈ padDigits width n, d.isDigit := fun d mem => isDigit_of_mem_padDigits mem
  have front : ((padDigits width n ++ ['Z']).take 9).takeWhile Char.isDigit
      = padDigits width n := by
    rw [List.take_append, List.take_of_length_le (by omega), List.takeWhile_append_of_pos all]
    cases 9 - (padDigits width n).length <;> simp
  have back : (padDigits width n ++ ['Z']).dropWhile Char.isDigit = ['Z'] := by
    rw [List.dropWhile_append_of_pos all]
    rfl
  simp only [List.cons_append, scanFraction, front, back,
    List.isEmpty_eq_false_iff.mpr (padDigits_ne_nil width n), Bool.false_eq_true, if_false,
    natOfDigits_padDigits, length]
  rfl

/-- A fraction of a second is read, whatever digits it is written in. -/
theorem scanFraction_fractionText {nanos : Nat} (fits : nanos < 1000000000) :
    scanFraction (fractionText nanos ++ ['Z']) = some (nanos, ['Z']) := by
  unfold fractionText
  split
  · next none => rw [none]; rfl
  · split
    · next millis =>
      rw [scanFraction_padDigits (by decide) (by decide) (by omega)]
      congr 2
      omega
    · split
      · next micros =>
        rw [scanFraction_padDigits (by decide) (by decide) (by omega)]
        congr 2
        omega
      · rw [scanFraction_padDigits (by decide) (by decide) (by omega)]
        congr 2
        omega

theorem scanLenientOffset_universal : scanLenientOffset ['Z'] = some (0, []) := by decide

/-! ## The instant -/

/-- The parts of an instant in universal time. -/
def localTime (t : Instant) : LocalTime where
  date := .ofDay t.day
  hour := t.second / 3600
  minute := t.second / 60 % 60
  second := t.second % 60 + t.nano / 1000000000
  nano := t.nano % 1000000000
  offset := 0

/-- **The parts of an instant denote it**, a leap second as second 60. -/
theorem toInstant?_localTime (t : Instant) : t.localTime.toInstant? = some t := by
  have day := t.day_range
  have second := t.second_lt
  have nano := t.nano_lt
  have leap := t.leap_last
  have real : t.localTime.date.exists = true := Calendar.exists_ofDay t.day
  have dayPart : t.localTime.date.toDay = t.day := Calendar.toDay_ofDay t.day
  have hourPart : t.localTime.hour = t.second / 3600 := rfl
  have minutePart : t.localTime.minute = t.second / 60 % 60 := rfl
  have secondPart : t.localTime.second = t.second % 60 + t.nano / 1000000000 := rfl
  have nanoPart : t.localTime.nano = t.nano % 1000000000 := rfl
  have offsetPart : t.localTime.offset = 0 := rfl
  generalize t.localTime = l at real dayPart hourPart minutePart secondPart nanoPart offsetPart ⊢
  have inside : ¬ ((!l.date.exists || l.hour ≥ 24 || l.minute ≥ 60 || l.second > 60
      || l.offset ≤ -86400 || 86400 ≤ l.offset
      || l.date.toDay < -96465292 || 95026236 < l.date.toDay) = true) := by
    simp only [real, Bool.not_true, Bool.false_or, Bool.or_eq_true, decide_eq_true_eq]
    omega
  have parts : (if l.second = 60 then (59, l.nano + 1000000000) else (l.second, l.nano))
      = (t.second % 60, t.nano) := by
    by_cases within : 1000000000 ≤ t.nano
    · rw [if_pos (by omega), Prod.mk.injEq]
      omega
    · rw [if_neg (by omega), Prod.mk.injEq]
      omega
  have gone : (l.hour * 3600 + l.minute * 60 + (t.second % 60 : Nat) - l.offset : Int)
      = t.second := by omega
  have sameDay : l.date.toDay + (t.second : Int) / 86400 = t.day := by omega
  have sameSecond : ((t.second : Int) % 86400).toNat = t.second := by omega
  unfold LocalTime.toInstant?
  dsimp only
  rw [if_neg inside, parts]
  dsimp only
  rw [gone, sameDay, sameSecond, ofParts?, dif_pos ⟨day, second, nano, leap⟩]

/-- **What is written for an instant reads back.** -/
theorem readLenient?_text (t : Instant) : readLenient? t.text = some t := by
  obtain ⟨length, there, -, -, last, -⟩ := Calendar.ofDay_spec t.day
  have second := t.second_lt
  have nano := t.nano_lt
  have month : (Calendar.Date.ofDay t.day).month < 100 := by
    have bound : (Calendar.Date.ofDay t.day).month - 1 < 12 :=
      (List.getElem?_eq_some_iff.mp there).1
    omega
  have day : (Calendar.Date.ofDay t.day).day < 100 := by
    have bound (leap : Bool) : ∀ l ∈ Calendar.monthLengths leap, l ≤ 31 := by
      cases leap <;> decide
    have short := bound _ length (List.mem_of_getElem? there)
    omega
  have written : t.text.toList = yearText (Calendar.Date.ofDay t.day).year ++ '-' ::
      (padDigits 2 (Calendar.Date.ofDay t.day).month ++ '-' ::
        (padDigits 2 (Calendar.Date.ofDay t.day).day ++ 'T' ::
          (padDigits 2 (t.second / 3600) ++ ':' :: (padDigits 2 (t.second / 60 % 60) ++ ':' ::
            (padDigits 2 (t.second % 60 + t.nano / 1000000000)
              ++ (fractionText (t.nano % 1000000000) ++ ['Z'])))))) := by
    simp only [text, dateText, timeText, String.toList_ofList, List.append_assoc,
      List.cons_append]
  have hour : t.second / 3600 < 100 := by omega
  have minute : t.second / 60 % 60 < 100 := by omega
  have secondPart : t.second % 60 + t.nano / 1000000000 < 100 := by omega
  have fraction : t.nano % 1000000000 < 1000000000 := Nat.mod_lt _ (by decide)
  have dash := scanSpaced_cons (c := '-') (by decide)
  have colon := scanSpaced_cons (c := ':') (by decide)
  have separator (rest : List Char) : scanSeparator ('T' :: rest) = some rest := rfl
  -- Each part is read off the front, up to the part behind it.
  unfold readLenient?
  rw [written, trimFront_yearText]
  refine Option.bind_eq_some_iff.mpr ⟨_, scanYear_yearText _ _, ?_⟩
  refine Option.bind_eq_some_iff.mpr ⟨_, dash _, ?_⟩
  refine Option.bind_eq_some_iff.mpr ⟨_, scanPair_padDigits month _, ?_⟩
  refine Option.bind_eq_some_iff.mpr ⟨_, dash _, ?_⟩
  refine Option.bind_eq_some_iff.mpr ⟨_, scanPair_padDigits day _, ?_⟩
  refine Option.bind_eq_some_iff.mpr ⟨_, separator _, ?_⟩
  refine Option.bind_eq_some_iff.mpr ⟨_, scanPair_padDigits hour _, ?_⟩
  refine Option.bind_eq_some_iff.mpr ⟨_, colon _, ?_⟩
  refine Option.bind_eq_some_iff.mpr ⟨_, scanPair_padDigits minute _, ?_⟩
  refine Option.bind_eq_some_iff.mpr ⟨_, colon _, ?_⟩
  refine Option.bind_eq_some_iff.mpr ⟨_, scanPair_padDigits secondPart _, ?_⟩
  refine Option.bind_eq_some_iff.mpr ⟨_, scanFraction_fractionText fraction, ?_⟩
  refine Option.bind_eq_some_iff.mpr ⟨_, scanLenientOffset_universal, ?_⟩
  exact toInstant?_localTime t

end Instant

end ClusterBilling
