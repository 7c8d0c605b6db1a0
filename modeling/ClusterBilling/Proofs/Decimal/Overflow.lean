import ClusterBilling.Proofs.Binary

/-!
# Overflow

The greatest finite number of binary floating point is `(2 ^ 53 - 1) * 2 ^ 971`. Rounding goes to
the nearest number, and a tie to the even mantissa, so that a magnitude becomes infinite from half a
unit above that number on: from `(2 ^ 54 - 1) * 2 ^ 970`, the `overflowLimit`. Products and quotients
are finite exactly if their exact values are below it (`isFinite_pack_mul`, `isFinite_pack_div`).

What is not finite stays so: a finite sum or product is one of finite numbers (`isFinite_of_add`,
`isFinite_of_mul`).
-/

namespace ClusterBilling

namespace Binary

open Float.Model Float.Model.UnpackedFloat

/-! ## Shifting a mantissa -/

theorem mantissa_shiftRight (em : ExtendedMantissa) (places : Nat) :
    (em >>> places).mantissa = em.mantissa / 2 ^ places := by
  induction places with
  | zero => simp [HShiftRight.hShiftRight, Nat.repeat]
  | succ places ih =>
    show (em >>> places).mantissa / 2 = _
    rw [ih, Nat.div_div_eq_div_mul, Nat.pow_succ]

/-- The bit behind a mantissa that was shifted is the last one that was shifted out. -/
theorem roundBit_shiftRight (em : ExtendedMantissa) (places : Nat) :
    (em >>> (places + 1)).roundBit = (em.mantissa / 2 ^ places % 2 != 0) := by
  show ((em >>> places).mantissa % 2 != 0) = _
  rw [mantissa_shiftRight]

theorem mantissa_ofMantissaAndAccuracy (mantissa : Nat) (accuracy : Accuracy) :
    (ExtendedMantissa.ofMantissaAndAccuracy mantissa accuracy).mantissa = mantissa := by
  cases accuracy with
  | exact => rfl
  | inexact order => cases order <;> rfl

/-- Rounding goes up only where the bit behind the mantissa is set. -/
theorem roundedMantissa_of_not_roundBit {em : ExtendedMantissa} (down : em.roundBit = false) :
    em.roundedMantissa = em.mantissa := by
  obtain ⟨mantissa, roundBit, stickyBit⟩ := em
  obtain rfl : roundBit = false := down
  cases stickyBit <;> rfl

/-- An odd mantissa goes up where the bit behind it is set, also at a tie. -/
theorem roundedMantissa_of_roundBit {em : ExtendedMantissa} (up : em.roundBit = true) :
    em.roundedMantissa ≤ em.mantissa + 1
      ∧ (em.mantissa % 2 = 1 → em.roundedMantissa = em.mantissa + 1) := by
  obtain ⟨mantissa, roundBit, stickyBit⟩ := em
  obtain rfl : roundBit = true := up
  cases stickyBit with
  | true => exact ⟨Nat.le_refl _, fun _ => rfl⟩
  | false =>
    have tie : (ExtendedMantissa.mk mantissa true false).roundedMantissa
        = mantissa + mantissa % 2 := rfl
    rw [tie]
    dsimp only
    omega

theorem roundedMantissa_le (em : ExtendedMantissa) :
    em.mantissa ≤ em.roundedMantissa ∧ em.roundedMantissa ≤ em.mantissa + 1 := by
  obtain ⟨mantissa, roundBit, stickyBit⟩ := em
  cases roundBit <;> cases stickyBit <;>
    simp only [ExtendedMantissa.roundedMantissa, ExtendedMantissa.accuracy,
      Accuracy.roundToNearestEven] <;> omega

theorem lt_two_pow {m bits : Nat} (few : m.log2 < bits) : m < 2 ^ bits :=
  Nat.lt_of_lt_of_le Nat.lt_log2_self (Nat.pow_le_pow_right (by decide) few)

/-- The exponent at which a mantissa has 53 bits, or the least one there is. -/
theorem targetExponent_eq (mantissa : Nat) (exponent : Int) :
    Format.binary64.targetExponent (totalExponent mantissa exponent)
      = max (mantissa.log2 + exponent - 52) (-1074) := by
  show max ((mantissa.log2 : Int) + 1 + exponent - 53) (-1074) = _
  congr 1
  omega

/-- The places that a mantissa is shifted by before it is rounded. -/
def places (mantissa : Nat) (exponent : Int) : Nat :=
  (max (mantissa.log2 + exponent - 52) (-1074) - exponent).toNat

/-- A mantissa before it is rounded, at the exponent it is rounded at. -/
def shifted (mantissa : Nat) (exponent : Int) (accuracy : Accuracy) : ExtendedMantissa :=
  ExtendedMantissa.ofMantissaAndAccuracy mantissa accuracy >>> places mantissa exponent

variable (mantissa : Nat) (exponent : Int) (accuracy : Accuracy)

/-- A mantissa is never shifted the other way. -/
theorem add_places : exponent + (places mantissa exponent : Int)
    = max exponent (max (mantissa.log2 + exponent - 52) (-1074)) := by
  unfold places
  omega

theorem shiftToTargetExponent_eq :
    shiftToTargetExponent .binary64 mantissa exponent accuracy
      = (shifted mantissa exponent accuracy, exponent + places mantissa exponent) := by
  unfold shiftToTargetExponent shiftToExponent
  rw [targetExponent_eq]
  rfl

theorem mantissa_shifted :
    (shifted mantissa exponent accuracy).mantissa = mantissa / 2 ^ places mantissa exponent := by
  rw [shifted, mantissa_shiftRight, mantissa_ofMantissaAndAccuracy]

/-- Rounding leaves 53 bits, or a power of two behind the greatest number of 53 bits. -/
theorem roundedMantissa_shifted_le :
    (shifted mantissa exponent accuracy).roundedMantissa ≤ 2 ^ 53 := by
  have small : mantissa / 2 ^ places mantissa exponent < 2 ^ 53 := by
    have target := add_places mantissa exponent
    refine Nat.div_lt_of_lt_mul ?_
    rw [← Nat.pow_add]
    exact lt_two_pow (by omega)
  have up := (roundedMantissa_le (shifted mantissa exponent accuracy)).2
  rw [mantissa_shifted] at up
  omega

/-- A mantissa of at most 53 bits stays as it is, and 2⁵³ is shifted by one place. -/
theorem places_of_le (small : mantissa ≤ 2 ^ 53) (high : -1074 ≤ exponent) :
    places mantissa exponent = if mantissa < 2 ^ 53 then 0 else 1 := by
  split
  · next short =>
    have bits : mantissa.log2 ≤ 52 := by
      rcases Nat.eq_zero_or_pos mantissa with rfl | positive
      · simp
      · exact Nat.le_of_lt_succ ((Nat.log2_lt (Nat.ne_of_gt positive)).mpr short)
    have target := add_places mantissa exponent
    omega
  · next long =>
    obtain rfl : mantissa = 2 ^ 53 := by omega
    rw [places, Nat.log2_two_pow]
    omega

/-- What is left of a rounded mantissa: as it is, or the power of two behind 53 bits with one bit
less at the next exponent. -/
def settle (sign : Sign) (rounded : Nat) (target : Int) : UnpackedFloat :=
  if positive : 0 < rounded then
    if rounded < 2 ^ 53 then .finite sign rounded target positive
    else .finite sign (2 ^ 52) (target + 1) (by decide)
  else .zero sign

/-- **Rounding** to the exponent aimed at, or one above it. -/
theorem roundWithAccuracy_eq (sign : Sign) :
    roundWithAccuracy .binary64 sign mantissa exponent accuracy
      = settle sign (shifted mantissa exponent accuracy).roundedMantissa
          (exponent + places mantissa exponent) := by
  have carry (rounded : Nat) (target : Int) (bound : rounded ≤ 2 ^ 53) (high : -1074 ≤ target) :
      (if empty : (shiftToTargetExponent .binary64 rounded target .exact).1.mantissa = 0
        then UnpackedFloat.zero sign
        else .finite sign (shiftToTargetExponent .binary64 rounded target .exact).1.mantissa
          (shiftToTargetExponent .binary64 rounded target .exact).2 (Nat.pos_of_ne_zero empty))
      = settle sign rounded target := by
    simp only [shiftToTargetExponent_eq, mantissa_shifted, places_of_le rounded target bound high,
      settle]
    by_cases short : rounded < 2 ^ 53
    · simp only [short, if_true]
      split <;> split <;> first | omega | simp
    · obtain rfl : rounded = 2 ^ 53 := by omega
      simp
  rw [roundWithAccuracy, shiftToTargetExponent_eq]
  have target := add_places mantissa exponent
  exact carry _ _ (roundedMantissa_shifted_le ..) (by omega)

/-! ## Overflow -/

theorem isFinite_unpack (bits : BitVec Format.binary64.numBits) :
    (UnpackedFloat.unpack .binary64 bits).isFinite = true ↔ unpackExponent bits ≠ -1#11 := by
  unfold UnpackedFloat.unpack
  dsimp only
  split
  · next top => split <;> simp [UnpackedFloat.isFinite, top]
  · next top =>
    refine iff_of_true ?_ top
    split
    · split <;> rfl
    · rfl

/-- The exponent that a number is stored at: all bits set where it is above the greatest one there
is, and none where the mantissa has no leading bit. -/
theorem unpackExponent_pack (sign : Sign) (m : Nat) (e : Int) (positive : 0 < m) :
    unpackExponent (UnpackedFloat.pack .binary64 (.finite sign m e positive))
      = if 971 < e then -1#11 else if m.log2 = 52 then .ofNat 11 (e + 1075).toNat else 0#11 := by
  have biased : (e + (Format.binary64.exponentBias : Nat)
      + Format.binary64.mantissaBitsWithoutImplicit : Int) = e + 1075 := by
    show e + (1023 : Nat) + (52 : Nat) = _
    omega
  have full : 2 ^ Format.binary64.exponentBits ≤ (e + 1075).toNat + 1 ↔ 971 < e := by
    show 2 ^ 11 ≤ _ ↔ _
    omega
  have leading : m.log2 + 1 = Format.binary64.mantissaBits ↔ m.log2 = 52 := by
    show _ = 53 ↔ _
    omega
  rw [UnpackedFloat.pack]
  dsimp only
  rw [biased]
  simp only [full, leading]
  split
  · exact unpackExponent_packComponents
  · split <;> exact unpackExponent_packComponents

theorem isFinite_pack_finite (sign : Sign) (m : Nat) (e : Int) (positive : 0 < m) :
    (Float.Model.pack (.finite sign m e positive)).unpack.isFinite = true ↔ e ≤ 971 := by
  show (UnpackedFloat.unpack .binary64 (UnpackedFloat.pack .binary64 _)).isFinite = true ↔ _
  rw [isFinite_unpack, unpackExponent_pack]
  split
  · next above => exact iff_of_false (fun other => other rfl) (by omega)
  · next fits =>
    refine iff_of_true ?_ (by omega)
    split
    · intro top
      have top := congrArg BitVec.toNat top
      simp at top
      omega
    · decide

theorem isFinite_pack_zero (sign : Sign) :
    (Float.Model.pack (.zero sign)).unpack.isFinite = true := by
  cases sign <;> rfl

theorem isFinite_pack_settle (sign : Sign) (rounded : Nat) (target : Int) :
    (Float.Model.pack (settle sign rounded target)).unpack.isFinite = true
      ↔ rounded = 0 ∨ target ≤ 970 ∨ (target = 971 ∧ rounded < 2 ^ 53) := by
  unfold settle
  split
  · split <;> rw [isFinite_pack_finite] <;> omega
  · exact iff_of_true (isFinite_pack_zero sign) (by omega)

/-- A mantissa of 54 bits, the last of which is rounded away, carries only where all are set. -/
theorem roundedMantissa_shifted_lt_iff (up : Nat) (width : places mantissa exponent = up + 1)
    (bits : mantissa / 2 ^ up < 2 ^ 54) :
    (shifted mantissa exponent accuracy).roundedMantissa < 2 ^ 53
      ↔ mantissa / 2 ^ up < 2 ^ 54 - 1 := by
  have half : (shifted mantissa exponent accuracy).mantissa = mantissa / 2 ^ up / 2 := by
    rw [mantissa_shifted, width, Nat.pow_succ, Nat.div_div_eq_div_mul]
  have last : (shifted mantissa exponent accuracy).roundBit = (mantissa / 2 ^ up % 2 != 0) := by
    rw [shifted, width, roundBit_shiftRight, mantissa_ofMantissaAndAccuracy]
  generalize shifted mantissa exponent accuracy = em at half last
  generalize mantissa / 2 ^ up = bitsOf at half last bits
  cases bit : em.roundBit with
  | false =>
    rw [roundedMantissa_of_not_roundBit bit, half]
    rw [bit] at last
    simp at last
    omega
  | true =>
    have rounded := roundedMantissa_of_roundBit bit
    rw [bit] at last
    simp at last
    omega

/-- **Rounding overflows** from half a unit above the greatest finite number on. What lies behind
the mantissa does not matter: the tie goes up, and one bit less goes down. -/
theorem isFinite_pack_roundWithAccuracy (sign : Sign) (up : Nat) (same : exponent = 970 - up) :
    (Float.Model.pack (roundWithAccuracy .binary64 sign mantissa exponent accuracy)).unpack.isFinite
        = true
      ↔ mantissa < (2 ^ 54 - 1) * 2 ^ up := by
  rw [roundWithAccuracy_eq, isFinite_pack_settle]
  have whole : 2 ^ (54 + up) = 2 ^ 54 * 2 ^ up := Nat.pow_add ..
  have step : 2 ^ (53 + up) = 2 ^ 53 * 2 ^ up := Nat.pow_add ..
  have unit : 0 < 2 ^ up := Nat.two_pow_pos up
  have target := add_places mantissa exponent
  rcases Nat.lt_trichotomy mantissa.log2 (53 + up) with below | exact | above
  · -- a number with fewer bits than the greatest one has them to spare
    have small : mantissa < 2 ^ (53 + up) := lt_two_pow below
    exact iff_of_true (.inr (.inl (by omega))) (by omega)
  · -- with as many bits, it is finite unless they are carried
    have long : mantissa < 2 ^ (54 + up) := lt_two_pow (by omega)
    have carried := roundedMantissa_shifted_lt_iff mantissa exponent accuracy up (by omega)
      ((Nat.div_lt_iff_lt_mul unit).mpr (whole ▸ long))
    rw [← Nat.div_lt_iff_lt_mul unit, ← carried]
    omega
  · have some : mantissa ≠ 0 := fun none => by simp [none] at above
    have large : 2 ^ (54 + up) ≤ mantissa := (Nat.le_log2 some).mp (by omega)
    have positive : 0 < mantissa / 2 ^ places mantissa exponent :=
      Nat.div_pos ((Nat.le_log2 some).mp (by omega)) (Nat.two_pow_pos _)
    have near := (roundedMantissa_le (shifted mantissa exponent accuracy)).1
    rw [mantissa_shifted] at near
    exact iff_of_false (by omega) (by omega)

/-! ## Values -/

/-- Half a unit above the greatest finite number, from where on numbers are infinite. -/
def overflowLimit : ℚ := (2 ^ 54 - 1) * 2 ^ 970

theorem overflowLimit_pos : 0 < overflowLimit := by
  unfold overflowLimit
  positivity

theorem one_lt_overflowLimit : 1 < overflowLimit := by
  unfold overflowLimit
  exact one_lt_mul_of_lt_of_le (by norm_num) (one_le_pow₀ (by norm_num))

theorem two_pow_le_overflowLimit : 2 ^ 256 ≤ overflowLimit := by
  have few : (2 : ℚ) ^ 256 ≤ 2 ^ 970 := pow_le_pow_right₀ (by norm_num) (by norm_num)
  exact few.trans (le_mul_of_one_le_left (by positivity) (by norm_num))

theorem overflowLimit_le_ten_pow : overflowLimit ≤ 10 ^ 400 := by
  have whole : 2 ^ 1024 ≤ 10 ^ 400 := by decide +kernel
  have few : ((2 ^ 1024 : Nat) : ℚ) ≤ (10 ^ 400 : Nat) := Nat.cast_le.mpr whole
  rw [Nat.cast_pow, Nat.cast_pow] at few
  calc overflowLimit ≤ 2 ^ 54 * 2 ^ 970 := mul_le_mul_of_nonneg_right (by norm_num) (by positivity)
    _ = 2 ^ 1024 := (pow_add 2 54 970).symm
    _ ≤ 10 ^ 400 := few

/-- **A rounded number is finite exactly if the number is below the limit**, wherever it lies
between the mantissa and the next one. -/
theorem isFinite_pack_roundWithAccuracy_iff_lt (sign : Sign) (value : ℚ) (low : exponent ≤ 970)
    (least : mantissa * 2 ^ exponent ≤ value) (most : value < (mantissa + 1) * 2 ^ exponent) :
    (Float.Model.pack (roundWithAccuracy .binary64 sign mantissa exponent accuracy)).unpack.isFinite
        = true
      ↔ value < overflowLimit := by
  obtain ⟨up, same⟩ : ∃ up : Nat, exponent = 970 - up := ⟨(970 - exponent).toNat, by omega⟩
  have unit : (0 : ℚ) < 2 ^ exponent := by positivity
  have scaled : overflowLimit = ((2 ^ 54 - 1) * 2 ^ up : Nat) * (2 : ℚ) ^ exponent := by
    have whole : (2 : ℚ) ^ up * 2 ^ exponent = 2 ^ 970 := by
      rw [same, ← zpow_natCast, ← zpow_add₀ (by norm_num), ← zpow_natCast]
      congr 1
      omega
    push_cast
    rw [mul_assoc, whole, overflowLimit]
    norm_num
  rw [isFinite_pack_roundWithAccuracy mantissa exponent accuracy sign up same, scaled]
  generalize (2 ^ 54 - 1) * 2 ^ up = top
  constructor
  · intro below
    refine most.trans_le (mul_le_mul_of_nonneg_right ?_ unit.le)
    exact_mod_cast below
  · intro below
    have less := least.trans_lt below
    exact_mod_cast lt_of_mul_lt_mul_right less unit.le

/-- What a finite number is taken apart into: at most 53 bits, from the place its exponent says. -/
theorem bounds_of_unpack {bits : BitVec Format.binary64.numBits} {sign : Sign} {m : Nat} {e : Int}
    {positive : 0 < m} (parts : UnpackedFloat.unpack .binary64 bits = .finite sign m e positive) :
    m < 2 ^ 53 ∧ e = max 1 (unpackExponent bits).toNat - 1075
      ∧ (unpackExponent bits).toNat < 2047 := by
  have stored := (unpackMantissa bits).isLt
  have top : unpackExponent bits ≠ -1#11 := (isFinite_unpack bits).mp (by rw [parts]; rfl)
  have below : (unpackExponent bits).toNat < 2047 := by
    have bound := (unpackExponent bits).isLt
    have different : (unpackExponent bits).toNat ≠ (-1#11).toNat :=
      fun same => top (BitVec.eq_of_toNat_eq same)
    simp at bound different
    omega
  have bias : (Format.binary64.exponentBias + Format.binary64.mantissaBitsWithoutImplicit : Int)
      = 1075 := rfl
  unfold UnpackedFloat.unpack at parts
  dsimp only at parts
  rw [if_neg top, bias] at parts
  split at parts
  · next bottom =>
    split at parts
    · cases parts
    · obtain ⟨-, rfl, rfl⟩ := UnpackedFloat.finite.inj parts
      rw [bottom]
      exact ⟨Nat.lt_trans stored (by decide), rfl, by decide⟩
  · next bottom =>
    obtain ⟨-, rfl, rfl⟩ := UnpackedFloat.finite.inj parts
    have positive : (unpackExponent bits).toNat ≠ 0 := fun zero =>
      bottom (BitVec.eq_of_toNat_eq zero)
    refine ⟨(1#1 ++ unpackMantissa bits).isLt, ?_, below⟩
    omega

/-! ## Products and quotients -/

section Operations

variable (s₁ s₂ : Sign) (m₁ m₂ : Nat) (e₁ e₂ : Int) (pos₁ : 0 < m₁) (pos₂ : 0 < m₂)

theorem isFinite_pack_mul (low : e₁ + e₂ ≤ 970) :
    (Float.Model.pack (.mul .binary64 (.finite s₁ m₁ e₁ pos₁)
        (.finite s₂ m₂ e₂ pos₂))).unpack.isFinite = true
      ↔ (m₁ * 2 ^ e₁ * (m₂ * 2 ^ e₂) : ℚ) < overflowLimit := by
  have value : (m₁ * 2 ^ e₁ * (m₂ * 2 ^ e₂) : ℚ) = (m₁ * m₂ : Nat) * 2 ^ (e₁ + e₂) := by
    rw [zpow_add₀ (by norm_num)]
    push_cast
    ring
  rw [UnpackedFloat.mul]
  refine isFinite_pack_roundWithAccuracy_iff_lt _ _ _ _ _ low value.ge ?_
  rw [value]
  exact mul_lt_mul_of_pos_right (lt_add_one _) (by positivity)

theorem isFinite_pack_div (low : e₁ - e₂ ≤ 970) :
    (Float.Model.pack (.div .binary64 (.finite s₁ m₁ e₁ pos₁)
        (.finite s₂ m₂ e₂ pos₂))).unpack.isFinite = true
      ↔ (m₁ * 2 ^ e₁ / (m₂ * 2 ^ e₂) : ℚ) < overflowLimit := by
  rw [UnpackedFloat.div, divCore]
  dsimp only
  generalize aimed : min (e₁ - e₂) _ = target
  have low : target ≤ e₁ - e₂ := aimed ▸ Int.min_le_left ..
  obtain ⟨width, same⟩ : ∃ width : Nat, e₁ - e₂ = width + target :=
    ⟨(e₁ - e₂ - target).toNat, by omega⟩
  have widthEq : (e₁ - e₂ - target).toNat = width := by omega
  rw [widthEq, Nat.shiftLeft_eq]
  have value : (m₁ * 2 ^ e₁ / (m₂ * 2 ^ e₂) : ℚ)
      = (m₁ * 2 ^ width : Nat) / (m₂ : ℚ) * 2 ^ target := by
    have ratio : (2 : ℚ) ^ e₁ / 2 ^ e₂ = 2 ^ width * 2 ^ target := by
      rw [← zpow_sub₀ (by norm_num), same, zpow_add₀ (by norm_num), zpow_natCast]
    rw [mul_div_mul_comm, ratio]
    push_cast
    ring
  have unit : (0 : ℚ) < 2 ^ target := by positivity
  have divisor : (0 : ℚ) < m₂ := by exact_mod_cast pos₂
  refine isFinite_pack_roundWithAccuracy_iff_lt _ _ _ _ _ (by omega) ?_ ?_ <;> rw [value]
  · refine mul_le_mul_of_nonneg_right ?_ unit.le
    exact Nat.cast_div_le
  · refine mul_lt_mul_of_pos_right ?_ unit
    rw [div_lt_iff₀ divisor]
    exact_mod_cast Nat.lt_mul_of_div_lt (Nat.lt_succ_self _) pos₂

end Operations

/-! ## Numbers that are not finite -/

theorem isFinite_pack_eq_false {x : UnpackedFloat} (infinite : x.isFinite = false) :
    (Float.Model.pack x).unpack.isFinite = false := by
  cases x with
  | infinity sign => cases sign <;> rfl
  | notANumber => rfl
  | zero | finite => cases infinite

theorem isFinite_add_eq_false {x y : UnpackedFloat}
    (infinite : x.isFinite = false ∨ y.isFinite = false) :
    (UnpackedFloat.add .binary64 x y).isFinite = false := by
  cases x with
  | notANumber => rfl
  | infinity sign =>
    cases y with
    | infinity sign' => cases sign <;> cases sign' <;> rfl
    | notANumber | zero | finite => rfl
  | zero | finite =>
    cases y with
    | infinity | notANumber => rfl
    | zero | finite => rcases infinite with infinite | infinite <;> cases infinite

theorem isFinite_mul_eq_false {x y : UnpackedFloat}
    (infinite : x.isFinite = false ∨ y.isFinite = false) :
    (UnpackedFloat.mul .binary64 x y).isFinite = false := by
  cases x with
  | notANumber => rfl
  | infinity => cases y <;> rfl
  | zero | finite =>
    cases y with
    | infinity | notANumber => rfl
    | zero | finite => rcases infinite with infinite | infinite <;> cases infinite

/-- An operation that takes nothing back is finite only of finite numbers. -/
theorem isFinite_of_isFinite_pack {x y z : UnpackedFloat}
    (absorbs : x.isFinite = false ∨ y.isFinite = false → z.isFinite = false)
    (finite : (Float.Model.pack z).unpack.isFinite = true) :
    x.isFinite = true ∧ y.isFinite = true := by
  rw [← Bool.and_eq_true, ← Bool.not_eq_false, Bool.and_eq_false_iff]
  intro infinite
  rw [isFinite_pack_eq_false (absorbs infinite)] at finite
  cases finite

/-- **A finite sum is one of finite numbers.** -/
theorem isFinite_of_add {x y : Float} (finite : (x + y).isFinite = true) :
    x.isFinite = true ∧ y.isFinite = true :=
  isFinite_of_isFinite_pack isFinite_add_eq_false finite

/-- **A finite product is one of finite numbers.** -/
theorem isFinite_of_mul {x y : Float} (finite : (x * y).isFinite = true) :
    x.isFinite = true ∧ y.isFinite = true :=
  isFinite_of_isFinite_pack isFinite_mul_eq_false finite

end Binary

end ClusterBilling
