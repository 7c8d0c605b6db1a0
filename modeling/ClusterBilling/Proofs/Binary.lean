import Mathlib
import ClusterBilling.Arithmetic

/-!
# Zeros in binary floating point

Binary floating point meets few laws of arithmetic, but nothing counts as nothing in it, up to the
sign of a zero. A finite price over no time costs a zero, of one sign or the other, which leaves a
sum of nothing as it is (`zero_add_zero_mul_div`). And a sum of one number is that number, except
that a negative zero becomes a positive one (`zero_add_eq`), so a number and the sum of it alone
are the same up to the sign of a zero (`SameNumber`).
-/

namespace ClusterBilling

namespace Binary

open Float.Model Float.Model.UnpackedFloat

/-! ## Numbers and their bits -/

/-- A pattern of bits is put together again from its parts. -/
theorem packComponents_parts (bits : BitVec Format.binary64.numBits) :
    packComponents .binary64 (.ofBitVec (unpackSign bits)) (unpackExponent bits)
      (unpackMantissa bits) = bits := by
  have sign (s : BitVec 1) : (Sign.ofBitVec s).toBitVec = s := by
    revert s
    decide
  rw [packComponents, sign]
  ext place bound
  have there : bits.getLsbD place = bits[place] := BitVec.getLsbD_eq_getElem bound
  simp only [unpackSign, unpackExponent, unpackMantissa, BitVec.getElem_append]
  split
  · simpa using there
  · split
    · next low _ =>
      simpa [show 52 + (place - 52) = place by simp at low; omega] using there
    · next low high =>
      obtain rfl : place = 63 := by simp at bound low high; omega
      simpa using there

/-- A mantissa without a leading bit is stored as it is, at the least exponent. -/
theorem pack_small (sign : Sign) (mantissa : BitVec 52) (positive : 0 < mantissa.toNat) :
    UnpackedFloat.pack .binary64 (.finite sign mantissa.toNat (-1074) positive)
      = packComponents .binary64 sign 0#11 mantissa := by
  have short : ¬ mantissa.toNat.log2 + 1 = Format.binary64.mantissaBits := fun long => by
    have bound := mantissa.isLt
    have exact : mantissa.toNat.log2 + 1 = 53 := long
    have top := (Nat.le_log2 (k := 52) (Nat.ne_of_gt positive)).mp (by omega)
    omega
  have stored : BitVec.ofNat 52 mantissa.toNat = mantissa := by simp
  rw [UnpackedFloat.pack]
  dsimp only
  rw [if_neg (by decide), if_neg short, stored]

/-- A mantissa with a leading bit is stored without it. -/
theorem pack_large (sign : Sign) (exponent : BitVec 11) (mantissa : BitVec 52)
    (finite : exponent ≠ -1#11) (positive : 0 < (1#1 ++ mantissa).toNat) :
    UnpackedFloat.pack .binary64
        (.finite sign (1#1 ++ mantissa).toNat (exponent.toNat - 1075) positive)
      = packComponents .binary64 sign exponent mantissa := by
  have whole : (1#1 ++ mantissa).toNat = 2 ^ 52 + mantissa.toNat := by
    rw [BitVec.toNat_append, ← Nat.shiftLeft_add_eq_or_of_lt mantissa.isLt]
    rfl
  have bound := mantissa.isLt
  have long : (1#1 ++ mantissa).toNat.log2 + 1 = Format.binary64.mantissaBits := by
    have low := (Nat.le_log2 (k := 52) (Nat.ne_of_gt positive)).mpr (by omega)
    have high := (Nat.log2_lt (k := 53) (Nat.ne_of_gt positive)).mpr (by omega)
    show _ = 53
    omega
  have room : ¬ 2 ^ Format.binary64.exponentBits ≤ exponent.toNat + 1 := fun full => by
    have bound := exponent.isLt
    have top : exponent.toNat = (-1#11).toNat := by
      show exponent.toNat = 2047
      simp at full
      omega
    exact finite (BitVec.eq_of_toNat_eq top)
  have biased : ((exponent.toNat : Int) - 1075 + Format.binary64.exponentBias
      + Format.binary64.mantissaBitsWithoutImplicit).toNat = exponent.toNat := by
    show ((exponent.toNat : Int) - 1075 + (1023 : Nat) + (52 : Nat)).toNat = exponent.toNat
    omega
  have stored : BitVec.ofNat 52 (1#1 ++ mantissa).toNat = mantissa := by
    apply BitVec.eq_of_toNat_eq
    rw [BitVec.toNat_ofNat, whole]
    omega
  rw [UnpackedFloat.pack]
  dsimp only
  rw [biased, if_neg room, if_pos long, stored, BitVec.ofNat_toNat, BitVec.setWidth_eq]

/-- **Taking a number apart and packing it again gives the number.** -/
theorem pack_unpack (x : Float.Model) : Float.Model.pack x.unpack = x := by
  obtain ⟨⟨bits⟩, valid⟩ := x
  suffices same : UnpackedFloat.pack .binary64 (UnpackedFloat.unpack .binary64 bits) = bits by
    simp only [Float.Model.pack, Float.Model.unpack, same]
  have parts := packComponents_parts bits
  unfold UnpackedFloat.unpack
  dsimp only
  split
  · next top =>
    split
    · next none =>
      rw [top, none] at parts
      exact parts
    · next some => exact (valid.eq_packedNaN top some).symm
  · next top =>
    split
    · next bottom =>
      split
      · next none =>
        rw [bottom, none] at parts
        exact parts
      · next some =>
        rw [bottom] at parts
        exact (congrArg _ (by rw [bottom]; rfl)).trans ((pack_small ..).trans parts)
    · next bottom => exact (pack_large _ _ _ top _).trans parts

/-! ## Zeros -/

theorem add_eq (x y : Float) :
    x + y = ⟨.pack (.add .binary64 x.toModel.unpack y.toModel.unpack)⟩ := rfl

theorem mul_eq (x y : Float) :
    x * y = ⟨.pack (.mul .binary64 x.toModel.unpack y.toModel.unpack)⟩ := rfl

theorem unpack_zero : (0.0 : Float).toModel.unpack = .zero .positive := by rfl

theorem zero_mul_of_isFinite {x : Float} (finite : x.isFinite) :
    0.0 * x = 0.0 ∨ 0.0 * x = -0.0 := by
  have finite : x.toModel.unpack.isFinite := finite
  rw [mul_eq, unpack_zero]
  cases parts : x.toModel.unpack with
  | notANumber | infinity => simp [parts, UnpackedFloat.isFinite] at finite
  | zero sign | finite sign =>
    cases sign with
    | positive => exact .inl (by rfl)
    | negative => exact .inr (by rfl)

/-- No time at a finite price adds nothing to a sum of nothing. -/
theorem zero_add_zero_mul_div {x : Float} (finite : x.isFinite) :
    0.0 + 0.0 * x / 3600.0 = 0.0 := by
  rcases zero_mul_of_isFinite finite with zero | zero <;> rw [zero] <;> rfl

/-- The sum of one number is the number, and a positive zero for the negative one. -/
theorem zero_add_eq (x : Float) : 0.0 + x = x ∨ (0.0 + x = 0.0 ∧ x = -0.0) := by
  have whole : (⟨.pack x.toModel.unpack⟩ : Float) = x := congrArg Float.ofModel (pack_unpack _)
  rw [add_eq, unpack_zero]
  cases parts : x.toModel.unpack with
  | notANumber | infinity | finite =>
    rw [parts] at whole
    exact .inl whole
  | zero sign =>
    rw [parts] at whole
    cases sign with
    | positive => exact .inl whole
    | negative => exact .inr ⟨by rfl, whole.symm⟩

def IsZero (x : Float) : Prop := x = 0.0 ∨ x = -0.0

/-- Whether two numbers are the same up to the sign of a zero. -/
def SameNumber (x y : Float) : Prop := x = y ∨ IsZero x ∧ IsZero y

instance (x : Float) : Decidable (IsZero x) := inferInstanceAs (Decidable (_ ∨ _))

instance (x y : Float) : Decidable (SameNumber x y) := inferInstanceAs (Decidable (_ ∨ _))

theorem SameNumber.symm {x y : Float} (same : SameNumber x y) : SameNumber y x :=
  same.imp Eq.symm And.symm

theorem SameNumber.trans {x y z : Float} (first : SameNumber x y) (second : SameNumber y z) :
    SameNumber x z := by
  rcases first with rfl | ⟨zeroX, zeroY⟩
  · exact second
  · rcases second with rfl | ⟨-, zeroZ⟩
    · exact .inr ⟨zeroX, zeroY⟩
    · exact .inr ⟨zeroX, zeroZ⟩

theorem sameNumber_zero_add (x : Float) : SameNumber x (0.0 + x) := by
  rcases zero_add_eq x with same | ⟨sum, number⟩
  · exact .inl same.symm
  · exact .inr ⟨.inr number, .inl sum⟩

end Binary

end ClusterBilling
