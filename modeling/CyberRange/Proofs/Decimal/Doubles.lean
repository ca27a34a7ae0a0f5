import Mathlib

namespace CyberRange.Double

/-! Doubles as numbers.

A positive finite double has a whole number of at most 53 binary digits and a power of two
for its parts.  Only one choice of them is canonical, so doubles compare as the numbers that
they stand for, and a result with such parts is not rounded.
-/

open Float.Model Float.Model.UnpackedFloat

/-- All digits are used, unless the exponent is the least there is. -/
structure Canonical (mantissa : Nat) (exponent : Int) : Prop where
  pos : 0 < mantissa
  below : mantissa < 2 ^ 53
  least : -1074 ≤ exponent
  full : 2 ^ 52 ≤ mantissa ∨ exponent = -1074

section Parts

variable {sign : Sign} {mantissa : Nat} {exponent : Int} {pos : 0 < mantissa}

theorem toNat_leading (fraction : BitVec 52) :
    (1#1 ++ fraction).toNat = 2 ^ 52 + fraction.toNat := by
  rw [BitVec.toNat_append, ← Nat.shiftLeft_add_eq_or_of_lt fraction.isLt]
  rfl

theorem canonical_of_unpack {number : Float.Model}
    (unpacked : number.unpack = .finite sign mantissa exponent pos) :
    Canonical mantissa exponent ∧ exponent ≤ 971 := by
  have bits : (Format.binary64.mantissaBitsWithoutImplicit : Int) = 52 := rfl
  have bias : (Format.binary64.exponentBias : Int) = 1023 := rfl
  obtain ⟨fraction, fraction_eq⟩ : ∃ fraction : BitVec 52,
      @unpackMantissa .binary64 number.toBits.toBitVec = fraction := ⟨_, rfl⟩
  obtain ⟨power, power_eq⟩ : ∃ power : BitVec 11,
      @unpackExponent .binary64 number.toBits.toBitVec = power := ⟨_, rfl⟩
  simp only [Float.Model.unpack, UnpackedFloat.unpack, bias, bits, fraction_eq, power_eq]
    at unpacked
  have inside := fraction.isLt
  -- the highest exponent belongs to no number, and the least one to those with fewer digits
  split at unpacked
  · split at unpacked <;> simp at unpacked
  · rename_i bounded
    split at unpacked
    · rename_i least
      split at unpacked
      · simp at unpacked
      · simp only [least, UnpackedFloat.finite.injEq] at unpacked
        obtain ⟨-, rfl, rfl⟩ := unpacked
        exact ⟨⟨pos, by omega, by decide, .inr rfl⟩, by decide⟩
    · rename_i normal
      have high : power.toNat < 2047 := by
        have most := power.isLt
        have differs : power.toNat ≠ 2047 := fun top => bounded (BitVec.eq_of_toNat_eq top)
        omega
      have low : power.toNat ≠ 0 := fun zero => normal (BitVec.eq_of_toNat_eq zero)
      simp only [UnpackedFloat.finite.injEq, toNat_leading] at unpacked
      obtain ⟨-, rfl, rfl⟩ := unpacked
      exact ⟨⟨pos, by omega, by omega, .inl (by omega)⟩, by omega⟩

/-- Canonical parts within the range of doubles are those of a double. -/
theorem unpack_pack (canonical : Canonical mantissa exponent) (inRange : exponent ≤ 971) :
    (Float.Model.pack (.finite sign mantissa exponent pos)).unpack =
      .finite sign mantissa exponent pos := by
  obtain ⟨-, below, least, full⟩ := canonical
  have bias : (Format.binary64.exponentBias : Int) = 1023 := rfl
  have bits : (Format.binary64.mantissaBitsWithoutImplicit : Int) = 52 := rfl
  have all : Format.binary64.mantissaBits = 53 := rfl
  have narrow : ¬ 2 ^ Format.binary64.exponentBits ≤ (exponent + 1023 + 52).toNat + 1 := by
    have most : (2 : Nat) ^ Format.binary64.exponentBits = 2048 := rfl
    omega
  simp only [Float.Model.unpack, Float.Model.pack, UnpackedFloat.pack, bias, bits, all,
    if_neg narrow]
  -- a number of all digits is packed without its first one, which its exponent tells
  by_cases normal : 2 ^ 52 ≤ mantissa
  · have log : mantissa.log2 = 52 := (Nat.log2_eq_iff (by omega)).mpr ⟨normal, below⟩
    have power : (BitVec.ofNat 11 (exponent + 1023 + 52).toNat).toNat =
        (exponent + 1075).toNat := by
      rw [BitVec.toNat_ofNat]
      omega
    have whole : (1#1 ++ BitVec.ofNat 52 mantissa).toNat = mantissa := by
      rw [toNat_leading, BitVec.toNat_ofNat]
      omega
    have bounded : BitVec.ofNat 11 (exponent + 1023 + 52).toNat ≠ -1#11 := by
      intro top
      rw [top] at power
      have highest : (-1#11).toNat = 2047 := rfl
      omega
    have nonzero : BitVec.ofNat 11 (exponent + 1023 + 52).toNat ≠ 0#11 := by
      intro zero
      rw [zero] at power
      have lowest : (0#11).toNat = 0 := rfl
      omega
    simp only [log, if_true, UnpackedFloat.unpack, unpackExponent_packComponents,
      unpackMantissa_packComponents, unpackSign_packComponents, Sign.ofBitVec_toBitVec, bias, bits,
      if_neg bounded, if_neg nonzero, whole, power]
    congr 1
    omega
  · have log : ¬ mantissa.log2 + 1 = 53 := by
      have short := (Nat.log2_lt pos.ne').mpr (Nat.not_le.mp normal)
      omega
    have whole : (BitVec.ofNat 52 mantissa).toNat = mantissa := by
      rw [BitVec.toNat_ofNat]
      omega
    have filled : BitVec.ofNat 52 mantissa ≠ 0#52 := by
      intro zero
      rw [zero] at whole
      exact pos.ne whole
    have bounded : ¬ (0#11 = -1#11) := by decide
    simp only [if_neg log, UnpackedFloat.unpack, unpackExponent_packComponents,
      unpackMantissa_packComponents, unpackSign_packComponents, Sign.ofBitVec_toBitVec, bias, bits,
      if_neg bounded, dif_neg filled, whole, if_true, full.resolve_left normal]
    rfl

/-- Parts beyond the range come to an infinite double. -/
theorem unpack_pack_beyond (beyond : 971 < exponent) :
    (Float.Model.pack (.finite sign mantissa exponent pos)).unpack = .infinity sign := by
  have bias : (Format.binary64.exponentBias : Int) = 1023 := rfl
  have bits : (Format.binary64.mantissaBitsWithoutImplicit : Int) = 52 := rfl
  have wide : 2 ^ Format.binary64.exponentBits ≤ (exponent + 1023 + 52).toNat + 1 := by
    have most : (2 : Nat) ^ Format.binary64.exponentBits = 2048 := rfl
    omega
  simp only [Float.Model.unpack, Float.Model.pack, UnpackedFloat.pack, bias, bits, if_pos wide]
  cases sign <;> rfl

end Parts

section Rounding

variable {sign : Sign} {mantissa : Nat} {exponent : Int}

theorem targetExponent_eq (mantissa : Nat) (exponent : Int) :
    Format.binary64.targetExponent (totalExponent mantissa exponent) =
      max (mantissa.log2 + exponent - 52) (-1074) := by
  have bits : (Format.binary64.mantissaBits : Int) = 53 := rfl
  have least : Format.binary64.minExponent = -1074 := rfl
  rw [Format.targetExponent, totalExponent, bits, least]
  omega

theorem shiftRight_mul_two_pow (mantissa places : Nat) :
    ExtendedMantissa.mk (mantissa * 2 ^ places) false false >>> places =
      .mk mantissa false false := by
  change Nat.repeat _ _ _ = _
  induction places generalizing mantissa with
  | zero => simp [Nat.repeat]
  | succ places induction =>
      have next := induction (mantissa * 2)
      rw [Nat.mul_assoc, ← Nat.pow_succ'] at next
      rw [Nat.repeat, next]
      simp [ExtendedMantissa.shiftRightOne]

theorem log2_mul_two_pow (filled : mantissa ≠ 0) (places : Nat) :
    (mantissa * 2 ^ places).log2 = mantissa.log2 + places := by
  induction places with
  | zero => simp
  | succ places induction =>
      have more : mantissa * 2 ^ places ≠ 0 := Nat.mul_ne_zero filled (Nat.two_pow_pos places).ne'
      rw [Nat.pow_succ', Nat.mul_left_comm, Nat.log2_two_mul more, induction, Nat.add_assoc]

/-- What is doubled up stands for the number doubled up. -/
theorem mul_two_pow_eq {digits places doublings : Nat} {power : Int}
    (moved : mantissa * 2 ^ 52 = digits * 2 ^ places)
    (point : exponent + (doublings - 52) = power - places) :
    (mantissa : ℚ) * 2 ^ exponent * 2 ^ doublings = digits * 2 ^ power := by
  have factor : (mantissa : ℚ) * 2 ^ 52 = digits * 2 ^ places := by exact_mod_cast moved
  have shifted : exponent + doublings = power + 52 - places := by omega
  calc (mantissa : ℚ) * 2 ^ exponent * 2 ^ doublings = mantissa * 2 ^ (exponent + doublings) := by
        rw [mul_assoc, ← zpow_natCast, ← zpow_add₀ two_ne_zero]
    _ = mantissa * 2 ^ 52 * (2 ^ power / 2 ^ places) := by
        rw [shifted, zpow_sub₀ two_ne_zero, zpow_add₀ two_ne_zero, zpow_natCast]
        ring
    _ = digits * 2 ^ power := by
        rw [factor]
        field_simp

variable (canonical : Canonical mantissa exponent)
include canonical

theorem Canonical.log2_le : mantissa.log2 ≤ 52 := by
  have short := (Nat.log2_lt canonical.pos.ne').mpr canonical.below
  omega

theorem Canonical.le_log2 (within : -1074 < exponent) : 52 ≤ mantissa.log2 :=
  (Nat.le_log2 canonical.pos.ne').mpr (canonical.full.resolve_right (by omega))

/-- Zeros behind the digits of canonical parts are moved out again. -/
theorem Canonical.shift (places : Nat) :
    shiftToTargetExponent .binary64 (mantissa * 2 ^ places) (exponent - places) .exact =
      (.mk mantissa false false, exponent) := by
  have target : max (((mantissa * 2 ^ places).log2 : Int) + (exponent - places) - 52) (-1074) =
      exponent := by
    have least := canonical.least
    have short := canonical.log2_le
    have long := canonical.le_log2
    rw [log2_mul_two_pow canonical.pos.ne']
    omega
  have count : (exponent - (exponent - (places : Int))).toNat = places := by omega
  rw [shiftToTargetExponent, targetExponent_eq, target, shiftToExponent]
  simp only [count, ExtendedMantissa.ofMantissaAndAccuracy, shiftRight_mul_two_pow,
    Int.sub_add_cancel]

theorem Canonical.roundWithAccuracy (places : Nat) :
    roundWithAccuracy .binary64 sign (mantissa * 2 ^ places) (exponent - places) .exact =
      .finite sign mantissa exponent canonical.pos := by
  have settled := canonical.shift 0
  rw [Nat.pow_zero, Nat.mul_one, Int.natCast_zero, Int.sub_zero] at settled
  have whole : (ExtendedMantissa.mk mantissa false false).roundedMantissa = mantissa := rfl
  simp only [UnpackedFloat.roundWithAccuracy, canonical.shift places, whole, settled]
  rw [dif_neg canonical.pos.ne']

/-- Parts doubled up are canonical again: digits are filled before the exponent grows. -/
theorem Canonical.doubled (doublings : Nat) :
    ∃ digits power places, Canonical digits power ∧ mantissa * 2 ^ 52 = digits * 2 ^ places ∧
      exponent + (doublings - 52) = power - (places : Nat) := by
  have short := canonical.log2_le
  have long := canonical.le_log2
  have least := canonical.least
  obtain ⟨filled, filled_eq⟩ : ∃ filled, filled = min doublings (52 - mantissa.log2) := ⟨_, rfl⟩
  have some : 0 < mantissa * 2 ^ filled := Nat.mul_pos canonical.pos (Nat.two_pow_pos filled)
  have log := log2_mul_two_pow canonical.pos.ne' filled
  refine ⟨mantissa * 2 ^ filled, exponent + doublings - filled, 52 - filled,
    ⟨some, ?_, by omega, ?_⟩, ?_, by omega⟩
  · refine (Nat.log2_lt some.ne').mp ?_
    omega
  · by_cases unnormal : exponent + doublings - filled = -1074
    · exact .inr unnormal
    · refine .inl ((Nat.le_log2 some.ne').mp ?_)
      omega
  · have sum : filled + (52 - filled) = 52 := by omega
    rw [Nat.mul_assoc, ← Nat.pow_add, sum]

/-- Beyond the range of doubles there are large numbers only. -/
theorem Canonical.le_of_beyond (beyond : 971 < exponent) :
    (2 : ℚ) ^ (1024 : ℤ) ≤ mantissa * 2 ^ exponent := by
  have normal : 2 ^ 52 ≤ mantissa := canonical.full.resolve_right (by omega)
  calc (2 : ℚ) ^ (1024 : ℤ) = 2 ^ (52 : ℤ) * 2 ^ (972 : ℤ) := zpow_add₀ two_ne_zero 52 972
    _ ≤ (mantissa : ℚ) * 2 ^ exponent := by
      gcongr
      · exact_mod_cast normal
      · norm_num
      · omega

end Rounding

/-- The number that a finite double stands for. -/
def value (number : Float) : ℚ :=
  match number.toModel.unpack with
  | .finite sign mantissa exponent _ => sign.apply mantissa * 2 ^ exponent
  | _ => 0

/-- A positive finite double with the given parts. -/
structure Positive (number : Float) (mantissa : Nat) (exponent : Int) : Prop extends
    Canonical mantissa exponent where
  inRange : exponent ≤ 971
  unpack : number.toModel.unpack = .finite .positive mantissa exponent toCanonical.pos

section Order

variable {number one two : Float} {mantissa first second : Nat} {exponent lower upper : Int}

theorem Positive.value_eq (positive : Positive number mantissa exponent) :
    value number = mantissa * 2 ^ exponent := by
  simp [value, positive.unpack, Sign.apply]

theorem Positive.isFinite (positive : Positive number mantissa exponent) :
    number.isFinite = true := by
  rw [Float.isFinite, Float.Model.isFinite, positive.unpack]
  rfl

theorem lt_iff_lt_unpack :
    one < two ↔ one.toModel.unpack.lt two.toModel.unpack = true :=
  decide_eq_true_iff

theorem exists_positive (finite : number.isFinite = true) (positive : 0 < number) :
    ∃ mantissa exponent, Positive number mantissa exponent := by
  have zero : (0 : Float).toModel.unpack = .zero .positive := rfl
  rw [lt_iff_lt_unpack, zero] at positive
  rw [Float.isFinite, Float.Model.isFinite] at finite
  cases unpacked : number.toModel.unpack with
  | notANumber => simp [unpacked, UnpackedFloat.isFinite] at finite
  | infinity sign => simp [unpacked, UnpackedFloat.isFinite] at finite
  | zero sign => simp [unpacked, UnpackedFloat.lt, UnpackedFloat.compare] at positive
  | finite sign mantissa exponent pos =>
      obtain ⟨canonical, inRange⟩ := canonical_of_unpack unpacked
      cases sign with
      | negative => simp [unpacked, UnpackedFloat.lt, UnpackedFloat.compare] at positive
      | positive => exact ⟨mantissa, exponent, canonical, inRange, unpacked⟩

/-- Canonical parts compare by their exponents first. -/
theorem Canonical.lt_of_lt (small : Canonical first lower) (large : Canonical second upper)
    (below : lower < upper) : (first : ℚ) * 2 ^ lower < second * 2 ^ upper := by
  have normal : 2 ^ 52 ≤ second := large.full.resolve_right (by have := small.least; omega)
  calc (first : ℚ) * 2 ^ lower < 2 ^ 53 * 2 ^ lower := by
        have short := small.below
        gcongr
        exact_mod_cast short
    _ = 2 ^ 52 * 2 ^ (lower + 1) := by
        rw [zpow_add₀ two_ne_zero]
        ring
    _ ≤ 2 ^ 52 * 2 ^ upper := by
        gcongr
        · norm_num
        · omega
    _ ≤ second * 2 ^ upper := by
        gcongr
        exact_mod_cast normal

theorem Positive.lt_iff (small : Positive one first lower) (large : Positive two second upper) :
    one < two ↔ value one < value two := by
  have order : one < two ↔ lower < upper ∨ lower = upper ∧ first < second := by
    rw [lt_iff_lt_unpack, small.unpack, large.unpack]
    simp [UnpackedFloat.lt, UnpackedFloat.compare, Ordering.then_eq_lt, Int.compare_eq_lt,
      Nat.compare_eq_lt]
  rw [order, small.value_eq, large.value_eq]
  rcases Int.lt_trichotomy lower upper with below | rfl | above
  · exact iff_of_true (.inl below) (small.toCanonical.lt_of_lt large.toCanonical below)
  · have scale : (0 : ℚ) < 2 ^ lower := by positivity
    simp [mul_lt_mul_iff_left₀ scale]
  · refine iff_of_false (by omega) (lt_asymm ?_)
    exact large.toCanonical.lt_of_lt small.toCanonical above

theorem Positive.lt_infinity (small : Positive one first lower)
    (infinite : two.toModel.unpack = .infinity .positive) : one < two := by
  rw [lt_iff_lt_unpack, small.unpack, infinite]
  rfl

end Order

end CyberRange.Double
