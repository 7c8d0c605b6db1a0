import ClusterBilling.Decimal.Reader
import ClusterBilling.Proofs.Decimal.Overflow

/-!
# Numbers that are read

A decimal becomes a finite number exactly if it is below the limit of overflow
(`Scientific.isFinite_toFloat`). A text that reads as a number therefore reads as a finite one
exactly if it writes such a decimal (`isFinite_readFloat?`): the words for infinity and
not-a-number are numbers as well, and so are decimals too large for any finite one.
-/

namespace ClusterBilling

namespace Binary

open Float.Model Float.Model.UnpackedFloat

/-! ## Decimals -/

/-- A decimal of at least one unit above all places is not below the limit. -/
theorem overflowLimit_le_of_large {m : Nat} {e : Int} (some : m ≠ 0) (large : 400 ≤ e) :
    overflowLimit ≤ m * 10 ^ e := by
  have one : (1 : ℚ) ≤ m := by exact_mod_cast Nat.pos_of_ne_zero some
  calc overflowLimit ≤ 10 ^ 400 := overflowLimit_le_ten_pow
    _ = 10 ^ (400 : Int) := (zpow_ofNat 10 400).symm
    _ ≤ 10 ^ e := zpow_le_zpow_right₀ (by norm_num) large
    _ ≤ m * 10 ^ e := le_mul_of_one_le_left (by positivity) one

/-- A decimal with more places behind its point than its digits have bits is below one. -/
theorem lt_overflowLimit_of_small {m : Nat} {e : Int} (small : e < -m.log2) :
    (m * 10 ^ e : ℚ) < overflowLimit := by
  refine lt_of_le_of_lt ?_ one_lt_overflowLimit
  obtain ⟨places, rfl⟩ : ∃ places : Nat, e = -places := ⟨e.natAbs, by omega⟩
  have bits : m < 2 ^ places :=
    Nat.lt_of_lt_of_le Nat.lt_log2_self (Nat.pow_le_pow_right (by decide) (by omega))
  have digits : m ≤ 10 ^ places := bits.le.trans (Nat.pow_le_pow_left (by decide) _)
  rw [zpow_neg, zpow_natCast, ← div_eq_mul_inv, div_le_one (by positivity)]
  exact_mod_cast digits

/-- **A decimal becomes a finite number exactly if it is below the limit.** -/
theorem isFinite_ofScientific (m : Nat) (e : Int) :
    (Float.Model.ofScientific m e).unpack.isFinite = true ↔ (m * 10 ^ e : ℚ) < overflowLimit := by
  rw [Float.Model.ofScientific, UnpackedFloat.ofScientific]
  split
  · next none =>
    subst none
    exact iff_of_true rfl (by simpa using overflowLimit_pos)
  · next some =>
    have cut : (2 ^ Format.binary64.exponentBits : Int) = 2048 := rfl
    rw [cut]
    split
    · next large =>
      exact iff_of_false (by decide) (not_lt.mpr (overflowLimit_le_of_large some (by omega)))
    · split
      · next small => exact iff_of_true rfl (lt_overflowLimit_of_small (by omega))
      · split
        · next whole =>
          have value : ((m <<< Format.binary64.mantissaBits : Nat) : ℚ)
              * 2 ^ (-Format.binary64.mantissaBits : Int) * ((10 ^ e.toNat : Nat) * 2 ^ (0 : Int))
              = m * 10 ^ e := by
            obtain ⟨power, rfl⟩ : ∃ power : Nat, e = power := ⟨e.toNat, by omega⟩
            rw [Nat.shiftLeft_eq, zpow_neg, zpow_natCast, zpow_natCast, Int.toNat_natCast]
            push_cast
            field_simp
          rw [isFinite_pack_mul _ _ _ _ _ _ _ _ (by decide), value]
        · next point =>
          have value : (m : ℚ) * 2 ^ (0 : Int) / ((10 ^ (-e).toNat : Nat) * 2 ^ (0 : Int))
              = m * 10 ^ e := by
            obtain ⟨places, rfl⟩ : ∃ places : Nat, e = -places := ⟨e.natAbs, by omega⟩
            rw [zpow_neg, zpow_natCast, neg_neg, Int.toNat_natCast]
            push_cast
            field_simp
          rw [isFinite_pack_div _ _ _ _ _ _ _ _ (by decide), value]

/-! ### The short way

A decimal of few digits is one product or quotient of two numbers that are stored exactly.
-/

/-- The exponent of the last bit of a number that is not zero. -/
def lastPlace? : UnpackedFloat → Option Int
  | .finite _ _ exponent _ => some exponent
  | _ => none

theorem lastPlace?_powersOfTen (place : Fin 23) :
    ∃ e ∈ lastPlace? (Float.exactlyRepresentablePowersOfTen[place]).toModel.unpack,
      -52 ≤ e ∧ e ≤ 21 := by
  have all : ∀ place : Fin 23,
      (lastPlace? (Float.exactlyRepresentablePowersOfTen[place]).toModel.unpack).any
        (fun e => -52 ≤ e ∧ e ≤ 21) = true := by
    decide +kernel
  have found := all place
  generalize lastPlace? (Float.exactlyRepresentablePowersOfTen[place]).toModel.unpack = last at *
  cases last with
  | none => cases found
  | some e => exact ⟨e, rfl, of_decide_eq_true found⟩

theorem lastPlace?_pack_finite (sign : Sign) (m : Nat) (e : Int) (positive : 0 < m)
    (fits : e ≤ 971) :
    ∀ last ∈ lastPlace? (Float.Model.pack (.finite sign m e positive)).unpack,
      last ≤ max (-1074) e := by
  intro last mem
  cases parts : (Float.Model.pack (.finite sign m e positive)).unpack with
  | finite sign' m' e' positive' =>
    rw [parts] at mem
    obtain rfl : e' = last := Option.some.inj mem
    have place := (bounds_of_unpack parts).2.1
    change e' = (max 1 (unpackExponent (UnpackedFloat.pack .binary64
      (.finite sign m e positive))).toNat : Nat) - 1075 at place
    rw [unpackExponent_pack, if_neg (by omega)] at place
    split at place
    · have cut : (BitVec.ofNat 11 (e + 1075).toNat).toNat ≤ (e + 1075).toNat :=
        (BitVec.toNat_ofNat ..).trans_le (Nat.mod_le ..)
      omega
    · simp at place
      omega
  | zero | infinity | notANumber =>
    rw [parts] at mem
    cases mem

theorem lastPlace?_pack_settle (sign : Sign) (rounded : Nat) (target : Int) (fits : target ≤ 970) :
    ∀ last ∈ lastPlace? (Float.Model.pack (settle sign rounded target)).unpack,
      last ≤ max (-1074) (target + 1) := by
  intro last mem
  unfold settle at mem
  split at mem
  · split at mem
    · have := lastPlace?_pack_finite _ _ _ _ (by omega) last mem
      omega
    · exact lastPlace?_pack_finite _ _ _ _ (by omega) last mem
  · cases sign <;> cases mem

/-- A whole number of at most 53 bits is rounded at a place that is not above the first one. -/
theorem round_of_lt {m : Nat} (some : m ≠ 0) (small : m < 2 ^ 53) :
    ∃ rounded target, UnpackedFloat.round .binary64 .positive m 0 = settle .positive rounded target
      ∧ target ≤ 0 := by
  have bits : m.log2 < 53 := (Nat.log2_lt some).mpr small
  obtain ⟨width, same⟩ : ∃ width : Nat, m.log2 + width = 52 := ⟨52 - m.log2, by omega⟩
  have widthEq : (0 - max ((m.log2 : Int) + 0 - 52) (-1074)).toNat = width := by omega
  have long : (m <<< width).log2 < 53 := by
    rw [Nat.shiftLeft_eq]
    refine (Nat.log2_lt (Nat.mul_ne_zero some (Nat.ne_of_gt (Nat.two_pow_pos width)))).mpr ?_
    refine Nat.lt_of_lt_of_eq (Nat.mul_lt_mul_of_pos_right Nat.lt_log2_self
      (Nat.two_pow_pos width)) ?_
    rw [← Nat.pow_add]
    congr 1
    omega
  have target := add_places (m <<< width) (0 - width)
  rw [UnpackedFloat.round, targetExponent_eq, decreaseExponent, widthEq]
  dsimp only
  rw [roundWithAccuracy_eq]
  exact ⟨_, _, rfl, by omega⟩

/-- A whole number of at most 53 bits is finite, and its last bit is not above the second place. -/
theorem lastPlace?_toFloat {m : Nat} (small : m < 2 ^ 53) :
    m.toUInt64.toFloat.toModel.unpack.isFinite = true
      ∧ ∀ e ∈ lastPlace? m.toUInt64.toFloat.toModel.unpack, e ≤ 1 := by
  rcases Nat.eq_zero_or_pos m with rfl | positive
  · exact ⟨rfl, fun e mem => by cases mem⟩
  obtain ⟨rounded, target, settled, low⟩ := round_of_lt (Nat.ne_of_gt positive) small
  have unpacked : m.toUInt64.toFloat.toModel.unpack
      = (Float.Model.pack (settle .positive rounded target)).unpack := by
    have whole : m.toUInt64.toNat = m := Nat.mod_eq_of_lt (Nat.lt_trans small (by decide))
    have above : compare (m : Int) 0 = .gt := by
      rw [Int.compare_eq_gt]
      omega
    show (Float.Model.pack (UnpackedFloat.ofUInt64 .binary64 m.toUInt64)).unpack = _
    rw [UnpackedFloat.ofUInt64, UnpackedFloat.ofNat, UnpackedFloat.ofInt, UnpackedFloat.normalize,
      whole, above, ← settled]
    rfl
  rw [unpacked]
  refine ⟨(isFinite_pack_settle ..).mpr (.inr (.inl (by omega))), fun e mem => ?_⟩
  have := lastPlace?_pack_settle _ _ _ (by omega) e mem
  omega

theorem finite_of_lastPlace? {x : UnpackedFloat} {e : Int} (last : e ∈ lastPlace? x) :
    ∃ sign m positive, x = .finite sign m e positive := by
  cases x with
  | finite sign m e' positive =>
    obtain rfl : e' = e := Option.some.inj last
    exact ⟨sign, m, positive, rfl⟩
  | zero | infinity | notANumber => cases last

section Bounds

variable {m₁ m₂ : Nat} {e₁ e₂ : Int}

/-- The magnitude of a number of 53 bits is bounded with its last place. -/
theorem magnitude_lt (high : Int) (small : m₁ < 2 ^ 53) (bound : e₁ ≤ high) :
    (m₁ * 2 ^ e₁ : ℚ) < 2 ^ 53 * 2 ^ high :=
  mul_lt_mul (by exact_mod_cast small) (zpow_le_zpow_right₀ (by norm_num) bound) (by positivity)
    (by positivity)

theorem mul_lt_overflowLimit (small₁ : m₁ < 2 ^ 53) (high₁ : e₁ ≤ 1) (small₂ : m₂ < 2 ^ 53)
    (high₂ : e₂ ≤ 21) : (m₁ * 2 ^ e₁ * (m₂ * 2 ^ e₂) : ℚ) < overflowLimit :=
  calc (m₁ * 2 ^ e₁ * (m₂ * 2 ^ e₂) : ℚ)
      < 2 ^ 53 * 2 ^ (1 : Int) * (2 ^ 53 * 2 ^ (21 : Int)) :=
        mul_lt_mul'' (magnitude_lt 1 small₁ high₁) (magnitude_lt 21 small₂ high₂) (by positivity)
          (by positivity)
    _ ≤ 2 ^ 256 := by norm_num
    _ ≤ overflowLimit := two_pow_le_overflowLimit

theorem div_lt_overflowLimit (small₁ : m₁ < 2 ^ 53) (high₁ : e₁ ≤ 1) (pos₂ : 0 < m₂)
    (low₂ : -52 ≤ e₂) : (m₁ * 2 ^ e₁ / (m₂ * 2 ^ e₂) : ℚ) < overflowLimit := by
  have one : (1 : ℚ) ≤ m₂ := by exact_mod_cast pos₂
  have divisor : (2 : ℚ) ^ (-52 : Int) ≤ m₂ * 2 ^ e₂ :=
    (zpow_le_zpow_right₀ (by norm_num) low₂).trans (le_mul_of_one_le_left (by positivity) one)
  calc (m₁ * 2 ^ e₁ / (m₂ * 2 ^ e₂) : ℚ)
      ≤ m₁ * 2 ^ e₁ / 2 ^ (-52 : Int) :=
        div_le_div_of_nonneg_left (by positivity) (by positivity) divisor
    _ < 2 ^ 53 * 2 ^ (1 : Int) / 2 ^ (-52 : Int) :=
        div_lt_div_of_pos_right (magnitude_lt 1 small₁ high₁) (by positivity)
    _ ≤ 2 ^ 256 := by norm_num
    _ ≤ overflowLimit := two_pow_le_overflowLimit

end Bounds

/-- The short way never overflows. -/
theorem isFinite_short {m : Nat} (small : m < 2 ^ 53) (place : Fin 23) :
    (m.toUInt64.toFloat * Float.exactlyRepresentablePowersOfTen[place]).isFinite = true
      ∧ (m.toUInt64.toFloat / Float.exactlyRepresentablePowersOfTen[place]).isFinite = true := by
  show (Float.Model.pack (.mul .binary64 m.toUInt64.toFloat.toModel.unpack
        (Float.exactlyRepresentablePowersOfTen[place]).toModel.unpack)).unpack.isFinite = true
    ∧ (Float.Model.pack (.div .binary64 m.toUInt64.toFloat.toModel.unpack
        (Float.exactlyRepresentablePowersOfTen[place]).toModel.unpack)).unpack.isFinite = true
  obtain ⟨e₂, last, low, high⟩ := lastPlace?_powersOfTen place
  obtain ⟨sign₂, m₂, pos₂, power⟩ := finite_of_lastPlace? last
  obtain ⟨finite, near⟩ := lastPlace?_toFloat small
  rw [power]
  cases whole : m.toUInt64.toFloat.toModel.unpack with
  | infinity | notANumber =>
    rw [whole] at finite
    cases finite
  | zero sign₁ => exact ⟨isFinite_pack_zero (sign₁ * sign₂), isFinite_pack_zero (sign₁ / sign₂)⟩
  | finite sign₁ m₁ e₁ pos₁ =>
    have small₁ : m₁ < 2 ^ 53 := (bounds_of_unpack whole).1
    have small₂ : m₂ < 2 ^ 53 := (bounds_of_unpack power).1
    have high₁ : e₁ ≤ 1 := near e₁ (by rw [whole]; rfl)
    rw [isFinite_pack_mul _ _ _ _ _ _ _ _ (by omega),
      isFinite_pack_div _ _ _ _ _ _ _ _ (by omega)]
    exact ⟨mul_lt_overflowLimit small₁ high₁ small₂ high, div_lt_overflowLimit small₁ high₁ pos₂ low⟩

/-- **A number of digits and a power of ten is finite exactly if it is below the limit.** -/
theorem isFinite_decimal (m : Nat) (negative : Bool) (places : Nat) :
    (Float.ofScientific m negative places).isFinite = true
      ↔ (m * 10 ^ (if negative then -places else places : Int) : ℚ) < overflowLimit := by
  rw [Float.ofScientific]
  split
  · next short =>
    obtain ⟨small, few⟩ := short
    have finite := isFinite_short small ⟨places, Nat.lt_succ_of_le few⟩
    refine iff_of_true (by cases negative; exacts [finite.1, finite.2]) ?_
    have power : (10 : ℚ) ^ (if negative then -places else places : Int) ≤ 10 ^ (22 : Int) :=
      zpow_le_zpow_right₀ (by norm_num) (by split <;> omega)
    have digits : (m : ℚ) < 2 ^ 53 := by exact_mod_cast small
    calc (m * 10 ^ (if negative then -places else places : Int) : ℚ)
        < 2 ^ 53 * 10 ^ (22 : Int) := mul_lt_mul digits power (by positivity) (by positivity)
      _ ≤ 2 ^ 256 := by norm_num
      _ ≤ overflowLimit := two_pow_le_overflowLimit
  · next long =>
    have same : (if negative then Int.negOfNat places else Int.ofNat places)
        = (if negative then -places else places : Int) := by
      cases negative with
      | true => exact Int.negOfNat_eq
      | false => rfl
    rw [← isFinite_ofScientific, ← same]
    rfl

/-- A number and its opposite are finite together. -/
theorem isFinite_neg (x : Float) : (-x).isFinite = x.isFinite := by
  show (Float.Model.pack x.toModel.unpack.neg).unpack.isFinite = x.toModel.unpack.isFinite
  cases parts : x.toModel.unpack with
  | notANumber => rfl
  | infinity sign => cases sign <;> rfl
  | zero sign => exact isFinite_pack_zero (-sign)
  | finite sign m e positive =>
    have place : e ≤ 971 := by
      obtain ⟨-, same, below⟩ := bounds_of_unpack parts
      omega
    exact (isFinite_pack_finite ..).mpr place

end Binary

open Binary

namespace Decimal

/-- The number that a decimal stands for. -/
def Scientific.value (d : Scientific) : ℚ := d.digits * 10 ^ d.exponent

/-- How many digits a number above zero has bounds it from both sides. -/
theorem bounds_of_digits {n : Nat} (some : n ≠ 0) :
    10 ^ ((Decimal.digits n).length - 1) ≤ n ∧ n < 10 ^ (Decimal.digits n).length := by
  have positive : 0 < (Decimal.digits n).length := Nat.length_toDigits_pos
  constructor
  · by_contra short
    rcases Nat.eq_zero_or_pos ((Decimal.digits n).length - 1) with one | more
    · rw [one] at short
      omega
    · have fewer : (Decimal.digits n).length ≤ (Decimal.digits n).length - 1 :=
        (Nat.length_toDigits_le_iff (by decide) more).mpr (Nat.lt_of_not_le short)
      omega
  · exact (Nat.length_toDigits_le_iff (by decide) positive).mp (Nat.le_refl _)

section Magnitude

variable {d : Scientific} (some : d.digits ≠ 0)
include some

/-- Every decimal of more than four hundred digits before its point is beyond the limit. -/
theorem Scientific.overflowLimit_le_value
    (large : 400 < d.exponent + (Decimal.digits d.digits).length) : overflowLimit ≤ d.value := by
  have positive : 0 < (Decimal.digits d.digits).length := Nat.length_toDigits_pos
  have least := (bounds_of_digits some).1
  generalize (Decimal.digits d.digits).length = length at *
  have least : (10 : ℚ) ^ (length - 1 : Int) ≤ d.digits := by
    rw [← Int.natCast_pred_of_pos positive, zpow_natCast]
    exact_mod_cast least
  calc overflowLimit ≤ 10 ^ 400 := overflowLimit_le_ten_pow
    _ = 10 ^ (400 : Int) := (zpow_ofNat 10 400).symm
    _ ≤ 10 ^ (length - 1 + d.exponent) := zpow_le_zpow_right₀ (by norm_num) (by omega)
    _ = 10 ^ (length - 1 : Int) * 10 ^ d.exponent := zpow_add₀ (by norm_num) ..
    _ ≤ d.digits * 10 ^ d.exponent := mul_le_mul_of_nonneg_right least (by positivity)

/-- A decimal without a digit before its point is below one. -/
theorem Scientific.value_lt_overflowLimit
    (small : d.exponent + (Decimal.digits d.digits).length ≤ 0) : d.value < overflowLimit := by
  have most := (bounds_of_digits some).2
  generalize (Decimal.digits d.digits).length = length at *
  have most : (d.digits : ℚ) < 10 ^ (length : Int) := by
    rw [zpow_natCast]
    exact_mod_cast most
  calc d.digits * (10 : ℚ) ^ d.exponent
      ≤ 10 ^ (length : Int) * 10 ^ d.exponent := mul_le_mul_of_nonneg_right most.le (by positivity)
    _ = 10 ^ (length + d.exponent) := (zpow_add₀ (by norm_num) ..).symm
    _ ≤ 10 ^ (0 : Int) := zpow_le_zpow_right₀ (by norm_num) (by omega)
    _ < overflowLimit := by simpa using one_lt_overflowLimit

end Magnitude

/-- **A decimal becomes a finite number exactly if it is below the limit.** -/
theorem Scientific.isFinite_toFloat (d : Scientific) :
    d.toFloat.isFinite = true ↔ d.value < overflowLimit := by
  unfold Scientific.toFloat
  dsimp only
  split
  · next none =>
    rw [Scientific.value, none]
    exact iff_of_true rfl (by simpa using overflowLimit_pos)
  · next some =>
    split
    · next large =>
      exact iff_of_false (by decide +kernel) (not_lt.mpr (overflowLimit_le_value some large))
    · split
      · next small => exact iff_of_true rfl (value_lt_overflowLimit some (by omega))
      · split
        · next whole =>
          rw [isFinite_decimal, Scientific.value]
          simp [Int.toNat_of_nonneg whole]
        · next point =>
          have same : -(d.exponent.natAbs : Int) = d.exponent := by omega
          rw [isFinite_decimal, Scientific.value]
          simp only [if_true, same]

/-! ## Texts -/

/-- The text writes a decimal below the limit, with or without a sign. -/
def WritesFinite (s : String) : Prop :=
  ∃ d, readScientific (takeSign s.toList).2 = some d ∧ d.value < overflowLimit

theorem not_isDigit_of_isAlpha {c : Char} (letter : c.isAlpha = true) : c.isDigit = false := by
  simp [Char.isAlpha, Char.isUpper, Char.isLower, Char.isDigit, UInt32.le_iff_toNat_le] at *
  omega

/-- A decimal begins with a digit or a point. -/
theorem readScientific_cons_of_isAlpha {c : Char} (rest : List Char) (letter : c.isAlpha = true) :
    readScientific (c :: rest) = none := by
  have digits : (c :: rest).takeWhile Char.isDigit = [] :=
    List.takeWhile_cons_of_neg (by simp [not_isDigit_of_isAlpha letter])
  have behind : (c :: rest).dropWhile Char.isDigit = c :: rest :=
    List.dropWhile_cons_of_neg (by simp [not_isDigit_of_isAlpha letter])
  unfold readScientific
  rw [digits, behind]
  split
  next fraction others parts =>
    split at parts
    · next point =>
      obtain rfl : c = '.' := (List.cons.inj point).1
      cases letter
    · obtain ⟨rfl, rfl⟩ := Prod.mk.inj parts
      rfl

/-- The words that are numbers are no decimals. -/
theorem readScientific_eq_none_of_word {cs : List Char} {word : String}
    (same : String.ofList (cs.map Char.toLower) = word)
    (letter : ∃ first rest, word.toList = first :: rest ∧ first.isAlpha = true) :
    readScientific cs = none := by
  obtain ⟨first, rest, letters, letter⟩ := letter
  rw [← same, String.toList_ofList] at letters
  obtain ⟨c, others, rfl, rfl, -⟩ := List.map_eq_cons_iff.mp letters
  rw [Char.isAlpha_toLower_eq_isAlpha] at letter
  exact readScientific_cons_of_isAlpha others letter

/-- **Which texts are finite numbers**: of the texts that are numbers at all, those that write a
decimal below the limit. -/
theorem isFinite_readFloat? {s : String} {x : Float} (read : readFloat? s = some x) :
    x.isFinite = true ↔ WritesFinite s := by
  unfold readFloat? at read
  unfold WritesFinite
  generalize takeSign s.toList = signed at read ⊢
  obtain ⟨negative, cs⟩ := signed
  obtain ⟨magnitude, known, rfl⟩ := Option.map_eq_some_iff.mp read
  have signless : (if negative then -magnitude else magnitude).isFinite = magnitude.isFinite := by
    cases negative with
    | true => exact isFinite_neg magnitude
    | false => rfl
  rw [signless]
  dsimp only at known ⊢
  split at known
  · next infinite =>
    obtain rfl := Option.some.inj known
    have none : readScientific cs = none := by
      simp only [Bool.or_eq_true, decide_eq_true_eq] at infinite
      rcases infinite with word | word
      · exact readScientific_eq_none_of_word word ⟨'i', ['n', 'f'], by decide, by decide⟩
      · exact readScientific_eq_none_of_word word
          ⟨'i', ['n', 'f', 'i', 'n', 'i', 't', 'y'], by decide, by decide⟩
    rw [none]
    exact iff_of_false (by decide +kernel) (by simp)
  · split at known
    · next word =>
      obtain rfl := Option.some.inj known
      rw [readScientific_eq_none_of_word word ⟨'n', ['a', 'n'], by decide, by decide⟩]
      exact iff_of_false (by decide +kernel) (by simp)
    · obtain ⟨d, decimal, rfl⟩ := Option.map_eq_some_iff.mp known
      rw [d.isFinite_toFloat, decimal]
      simp

end Decimal

end ClusterBilling
