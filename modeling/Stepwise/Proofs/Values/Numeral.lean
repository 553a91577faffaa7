import Mathlib.Algebra.Order.Field.Power
import Mathlib.Data.Rat.Cast.Order
import Mathlib.Tactic.FieldSimp
import Mathlib.Tactic.Linarith
import Stepwise.Value.Same

/-!
# What numbers stand for

Every number stands for a rational number or an infinity, except a NaN, which stands for nothing.  Two
numbers are the same, whatever their types, exactly if they stand for the same.

For two floating point numbers this rests on the fact that a finite one has only one mantissa and
exponent: the mantissa is below `2 ^ 53`, and it is at least `2 ^ 52` unless the exponent is least.
-/

namespace Stepwise

open Float.Model Float.Model.UnpackedFloat

/-- What a number stands for. -/
inductive Numeral where
  | finite (value : ℚ)
  | infinite (negative : Bool)

namespace Number

/-! ## Fields of a floating point number -/

theorem unpackMantissa_toNat (bits : BitVec Format.binary64.numBits) :
    (unpackMantissa bits).toNat = bits.toNat % 2 ^ 52 := by
  change (bits.extractLsb 51 0).toNat = _
  rw [BitVec.extractLsb_toNat, Nat.shiftRight_zero]

theorem unpackExponent_toNat (bits : BitVec Format.binary64.numBits) :
    (unpackExponent bits).toNat = bits.toNat / 2 ^ 52 % 2 ^ 11 := by
  change (bits.extractLsb 62 52).toNat = _
  rw [BitVec.extractLsb_toNat, Nat.shiftRight_eq_div_pow]

theorem unpackSign_toNat (bits : BitVec Format.binary64.numBits) :
    (unpackSign bits).toNat = bits.toNat / 2 ^ 63 := by
  have small : bits.toNat < 2 ^ 64 := bits.isLt
  change (bits.extractLsb 63 63).toNat = _
  rw [BitVec.extractLsb_toNat, Nat.shiftRight_eq_div_pow]
  exact Nat.mod_eq_of_lt (by omega)

/-- The exact value of an unpacked number. -/
def exactOf : UnpackedFloat → Exact
  | .infinity sign => .infinite (sign == .negative)
  | .notANumber => .nan
  | .zero sign => .finite (sign == .negative) 0 (-1074)
  | .finite sign mantissa exponent _ => .finite (sign == .negative) mantissa exponent

theorem ofBitVec_eq_negative (bits : BitVec Format.binary64.numBits) :
    (Sign.ofBitVec (unpackSign bits) == .negative) = (bits.toNat / 2 ^ 63 == 1) := by
  have sign := unpackSign_toNat bits
  have small : (unpackSign bits).toNat < 2 := (unpackSign bits).isLt
  delta Sign.ofBitVec
  split
  · next zero =>
      rw [zero] at sign
      rw [← sign]
      rfl
  · next nonzero =>
      have one : (unpackSign bits).toNat = 1 := by
        have : (unpackSign bits).toNat ≠ 0 := fun zero => nonzero (BitVec.eq_of_toNat_eq zero)
        omega
      rw [← sign, one]
      rfl

theorem exactOf_unpack (bits : BitVec Format.binary64.numBits) :
    exactOf (unpack Format.binary64 bits) =
      if bits.toNat / 2 ^ 52 % 2 ^ 11 = 2047 then
        if bits.toNat % 2 ^ 52 = 0 then .infinite (bits.toNat / 2 ^ 63 == 1) else .nan
      else if bits.toNat / 2 ^ 52 % 2 ^ 11 = 0 then
        .finite (bits.toNat / 2 ^ 63 == 1) (bits.toNat % 2 ^ 52) (-1074)
      else
        .finite (bits.toNat / 2 ^ 63 == 1) (bits.toNat % 2 ^ 52 + 2 ^ 52)
          (((bits.toNat / 2 ^ 52 % 2 ^ 11 : Nat) : Int) - 1075) := by
  have exponentEq := unpackExponent_toNat bits
  have mantissaEq := unpackMantissa_toNat bits
  have signEq := ofBitVec_eq_negative bits
  have ones : unpackExponent bits = -1#_ ↔ bits.toNat / 2 ^ 52 % 2 ^ 11 = 2047 := by
    rw [← exponentEq, BitVec.toNat_eq]
    rfl
  have zeros : unpackExponent bits = 0#_ ↔ bits.toNat / 2 ^ 52 % 2 ^ 11 = 0 := by
    rw [← exponentEq, BitVec.toNat_eq]
    rfl
  have none : unpackMantissa bits = 0#_ ↔ bits.toNat % 2 ^ 52 = 0 := by
    rw [← mantissaEq, BitVec.toNat_eq]
    rfl
  have implicit : (1#1 ++ unpackMantissa bits).toNat = bits.toNat % 2 ^ 52 + 2 ^ 52 := by
    have small : (unpackMantissa bits).toNat < 2 ^ 52 := (unpackMantissa bits).isLt
    have joined := Nat.two_pow_add_eq_or_of_lt small 1
    rw [BitVec.toNat_append, ← mantissaEq, Nat.shiftLeft_eq, Nat.mul_comm]
    exact joined.symm.trans (Nat.add_comm _ _)
  simp only [← ones, ← zeros, ← none, ← signEq]
  delta UnpackedFloat.unpack
  dsimp only
  by_cases exponentFull : unpackExponent bits = -1#11
  · rw [if_pos exponentFull, if_pos exponentFull]
    by_cases mantissaZero : unpackMantissa bits = 0#52
    · rw [if_pos mantissaZero, if_pos mantissaZero]
      rfl
    · rw [if_neg mantissaZero, if_neg mantissaZero]
      rfl
  · rw [if_neg exponentFull, if_neg exponentFull]
    by_cases exponentZero : unpackExponent bits = 0#11
    · rw [if_pos exponentZero, if_pos exponentZero, exponentZero, ← mantissaEq]
      by_cases mantissaZero : unpackMantissa bits = 0#52
      · rw [dif_pos mantissaZero, mantissaZero]
        rfl
      · rw [dif_neg mantissaZero]
        rfl
    · rw [if_neg exponentZero, if_neg exponentZero, ← implicit, ← exponentEq]
      rfl

theorem exact_eq_exactOf (x : Float) : exact x = exactOf x.toModel.unpack := by
  simp only [exact, beq_iff_eq]
  exact (exactOf_unpack x.toModel.toBits.toBitVec).symm

/-! ## Exact values -/

/-- The mantissa and the exponent of a finite floating point number. -/
structure Canonical (mantissa : Nat) (exponent : Int) : Prop where
  below : mantissa < 2 ^ 53
  least : -1074 ≤ exponent
  normal : 2 ^ 52 ≤ mantissa ∨ exponent = -1074

theorem canonical_of_exact {x : Float} {negative : Bool} {mantissa : Nat} {exponent : Int}
    (finite : exact x = .finite negative mantissa exponent) : Canonical mantissa exponent := by
  have fraction : x.toBits.toNat % Nat.pow 2 52 < 2 ^ 52 := Nat.mod_lt _ (by decide)
  simp only [exact] at finite
  split at finite
  · split at finite <;> cases finite
  · split at finite
    · cases finite
      exact ⟨by omega, by omega, .inr rfl⟩
    · next biased =>
        have positive : x.toBits.toNat / Nat.pow 2 52 % Nat.pow 2 11 ≠ 0 := by simpa using biased
        have power : Nat.pow 2 52 = 2 ^ 52 := rfl
        cases finite
        exact ⟨by omega, by omega, .inl (by omega)⟩

section Unique

variable {mantissa mantissa' : Nat} {exponent exponent' : Int}
  (canonical : Canonical mantissa exponent) (canonical' : Canonical mantissa' exponent')
  (same : (mantissa : ℚ) * 2 ^ exponent = mantissa' * 2 ^ exponent')
include canonical canonical' same

/-- A number with a greater exponent would have a mantissa that is too large. -/
theorem Canonical.exponent_le (nonzero : 0 < mantissa) : exponent' ≤ exponent := by
  by_contra greater
  obtain ⟨distance, apart⟩ : ∃ distance : Nat, exponent' = exponent + (distance + 1 : Nat) :=
    ⟨(exponent' - exponent - 1).toNat, by omega⟩
  have scaled : mantissa = mantissa' * 2 ^ (distance + 1) := by
    rw [apart, zpow_add₀ two_ne_zero, zpow_natCast, mul_left_comm,
      mul_comm _ (mantissa' * (2 : ℚ) ^ (distance + 1))] at same
    exact_mod_cast mul_right_cancel₀ (zpow_ne_zero exponent two_ne_zero) same
  have large : 2 ^ 52 ≤ mantissa' := by
    have least := canonical.least
    exact canonical'.normal.resolve_right (by omega)
  have doubled : 2 ≤ 2 ^ (distance + 1) := by
    rw [pow_succ]
    have := Nat.one_le_two_pow (n := distance)
    omega
  have below := canonical.below
  have := Nat.mul_le_mul large doubled
  omega

/-- The mantissa and the exponent are determined by the value, unless it is zero. -/
theorem Canonical.unique (nonzero : 0 < mantissa) :
    mantissa = mantissa' ∧ exponent = exponent' := by
  have nonzero' : 0 < mantissa' := by
    rcases Nat.eq_zero_or_pos mantissa' with zero | positive
    · rw [zero, Nat.cast_zero, zero_mul] at same
      have : (0 : ℚ) < mantissa * 2 ^ exponent := by positivity
      linarith
    · exact positive
  have equal : exponent = exponent' :=
    le_antisymm (canonical'.exponent_le canonical same.symm nonzero')
      (canonical.exponent_le canonical' same nonzero)
  subst equal
  exact ⟨by exact_mod_cast mul_right_cancel₀ (zpow_ne_zero exponent two_ne_zero) same, rfl⟩

end Unique

/-- What a floating point number stands for. -/
def Exact.numeral? : Exact → Option Numeral
  | .finite negative mantissa exponent =>
    some (.finite ((if negative then -1 else 1) * mantissa * 2 ^ exponent))
  | .infinite negative => some (.infinite negative)
  | .nan => none

theorem zpow_mul_divisor (exponent : Int) :
    (2 : ℚ) ^ exponent * ((twoPower exponent).2 : ℚ) = ((twoPower exponent).1 : ℚ) := by
  have factor : ((twoPower exponent).1 : ℚ) = 2 ^ (exponent.toNat : Int) := by
    rw [zpow_natCast]
    exact Nat.cast_pow 2 _
  have divisor : ((twoPower exponent).2 : ℚ) = 2 ^ ((-exponent).toNat : Int) := by
    rw [zpow_natCast]
    exact Nat.cast_pow 2 _
  rw [factor, divisor, ← zpow_add₀ two_ne_zero]
  congr 1
  omega

theorem compareInt_eq_iff (n : Int) (x : Float) :
    compareInt n x = some .eq ↔ (exact x).numeral? = some (.finite n) := by
  rw [compareInt]
  cases exact x with
  | nan => simp [Exact.numeral?]
  | infinite negative => cases negative <;> simp [Exact.numeral?]
  | finite negative mantissa exponent =>
      have scale := zpow_mul_divisor exponent
      have nonzero : ((twoPower exponent).2 : ℚ) ≠ 0 :=
        Nat.cast_ne_zero.mpr (Nat.pos_iff_ne_zero.mp (Nat.pow_pos (by decide)))
      have scaled : (if negative then -1 else 1) * (mantissa : ℚ) * 2 ^ exponent *
          (twoPower exponent).2 = ((if negative then -((mantissa * (twoPower exponent).1 : Nat) : Int)
            else ((mantissa * (twoPower exponent).1 : Nat) : Int) : Int) : ℚ) := by
        rw [mul_assoc, scale]
        cases negative <;> push_cast <;> simp
      simp only [Exact.numeral?, Option.some.injEq, compare_eq_iff_eq, Numeral.finite.injEq]
      rw [← mul_left_inj' nonzero, scaled, eq_comm]
      exact_mod_cast Iff.rfl

/-- Finite numbers other than zero are equal if they stand for the same: the sign of the number is that
of its value, and the value determines the mantissa and the exponent. -/
theorem compare_finite_eq_iff {sign sign' : Sign} {mantissa mantissa' : Nat}
    {exponent exponent' : Int} (nonzero : 0 < mantissa) (nonzero' : 0 < mantissa')
    (canonical : Canonical mantissa exponent) (canonical' : Canonical mantissa' exponent') :
    (UnpackedFloat.finite sign mantissa exponent nonzero).compare
        (.finite sign' mantissa' exponent' nonzero') = some .eq ↔
      (if (sign == .negative) = true then -1 else 1) * (mantissa : ℚ) * 2 ^ exponent =
        (if (sign' == .negative) = true then -1 else 1) * (mantissa' : ℚ) * 2 ^ exponent' := by
  have positive : (0 : ℚ) < mantissa * 2 ^ exponent := by positivity
  have positive' : (0 : ℚ) < mantissa' * 2 ^ exponent' := by positivity
  have alike : (compare exponent exponent').then (compare mantissa mantissa') = .eq ↔
      (mantissa : ℚ) * 2 ^ exponent = mantissa' * 2 ^ exponent' := by
    rw [Ordering.then_eq_eq, compare_eq_iff_eq, compare_eq_iff_eq]
    refine ⟨fun ⟨same, equal⟩ => by rw [same, equal], fun same => ?_⟩
    exact (canonical.unique canonical' same nonzero).symm
  cases sign <;> cases sign'
  · change some (Ordering.swap _) = some .eq ↔ -1 * _ * _ = -1 * _ * _
    rw [Option.some.injEq, Ordering.swap_eq_eq, alike, mul_assoc, mul_assoc]
    exact (mul_right_inj' (by norm_num)).symm
  · change some Ordering.lt = some .eq ↔ -1 * _ * _ = 1 * _ * _
    refine ⟨(fun equal => by cases equal), fun same => ?_⟩
    rw [mul_assoc, mul_assoc] at same
    linarith
  · change some Ordering.gt = some .eq ↔ 1 * _ * _ = -1 * _ * _
    refine ⟨(fun equal => by cases equal), fun same => ?_⟩
    rw [mul_assoc, mul_assoc] at same
    linarith
  · change some _ = some Ordering.eq ↔ 1 * _ * _ = 1 * _ * _
    rw [Option.some.injEq, alike, one_mul, one_mul]

theorem numeral?_zero (sign : Sign) : (exactOf (.zero sign)).numeral? = some (.finite 0) := by
  have vanishes : (if (sign == .negative) = true then -1 else 1) * ((0 : Nat) : ℚ) *
      2 ^ (-1074 : Int) = 0 := by
    rw [Nat.cast_zero, mul_zero, zero_mul]
  exact congrArg (some ∘ Numeral.finite) vanishes

theorem numeral?_finite_ne_zero {sign : Sign} {mantissa : Nat} {exponent : Int}
    (nonzero : 0 < mantissa) :
    (exactOf (.finite sign mantissa exponent nonzero)).numeral? ≠ some (.finite 0) := by
  have positive : (0 : ℚ) < mantissa * 2 ^ exponent := by positivity
  intro same
  have value := Numeral.finite.inj (Option.some.inj same)
  rw [mul_assoc] at value
  cases sign with
  | negative =>
      change -1 * _ = 0 at value
      linarith
  | positive =>
      change 1 * _ = 0 at value
      linarith

theorem apart_iff {order : Option Ordering} {first second : Option Numeral}
    (apart : order ≠ some .eq) (differ : first = second → first = none) :
    order = some .eq ↔ ∃ numeral, first = some numeral ∧ second = some numeral := by
  refine ⟨fun equal => absurd equal apart, fun ⟨numeral, one, other⟩ => ?_⟩
  rw [differ (one.trans other.symm)] at one
  cases one

/-- Unpacked numbers are equal if they stand for the same.  The order of each pair of kinds is read off
the definition; only for two finite numbers there is something to compare. -/
theorem compare_eq_iff {left right : UnpackedFloat}
    (canonical : ∀ negative mantissa exponent,
      exactOf left = .finite negative mantissa exponent → Canonical mantissa exponent)
    (canonical' : ∀ negative mantissa exponent,
      exactOf right = .finite negative mantissa exponent → Canonical mantissa exponent) :
    left.compare right = some .eq ↔
      ∃ numeral, (exactOf left).numeral? = some numeral ∧
        (exactOf right).numeral? = some numeral := by
  cases left with
  | notANumber =>
      exact apart_iff (by cases right <;> intro equal <;> cases equal) fun _ => rfl
  | infinity sign =>
      cases right with
      | notANumber =>
          exact apart_iff (by cases sign <;> intro equal <;> cases equal) fun same => by cases same
      | infinity sign' =>
          cases sign <;> cases sign'
          · exact ⟨fun _ => ⟨_, rfl, rfl⟩, fun _ => rfl⟩
          · exact apart_iff (by decide) fun same => by cases same
          · exact apart_iff (by decide) fun same => by cases same
          · exact ⟨fun _ => ⟨_, rfl, rfl⟩, fun _ => rfl⟩
      | zero sign' =>
          exact apart_iff (by cases sign <;> intro equal <;> cases equal) fun same => by cases same
      | finite sign' mantissa' exponent' nonzero' =>
          exact apart_iff (by cases sign <;> intro equal <;> cases equal) fun same => by cases same
  | zero sign =>
      cases right with
      | notANumber => exact apart_iff (by intro equal; cases equal) fun same => by cases same
      | infinity sign' =>
          exact apart_iff (by cases sign' <;> intro equal <;> cases equal) fun same => by cases same
      | zero sign' => exact ⟨fun _ => ⟨_, numeral?_zero sign, numeral?_zero sign'⟩, fun _ => rfl⟩
      | finite sign' mantissa' exponent' nonzero' =>
          refine apart_iff (by cases sign' <;> intro equal <;> cases equal) fun same => ?_
          rw [numeral?_zero] at same
          exact absurd same.symm (numeral?_finite_ne_zero nonzero')
  | finite sign mantissa exponent nonzero =>
      cases right with
      | notANumber => exact apart_iff (by intro equal; cases equal) fun same => by cases same
      | infinity sign' =>
          exact apart_iff (by cases sign' <;> intro equal <;> cases equal) fun same => by cases same
      | zero sign' =>
          refine apart_iff (by cases sign <;> intro equal <;> cases equal) fun same => ?_
          rw [numeral?_zero] at same
          exact absurd same (numeral?_finite_ne_zero nonzero)
      | finite sign' mantissa' exponent' nonzero' =>
          rw [compare_finite_eq_iff nonzero nonzero' (canonical _ _ _ rfl) (canonical' _ _ _ rfl)]
          refine ⟨fun same => ⟨_, congrArg (some ∘ Numeral.finite) same, rfl⟩, ?_⟩
          exact fun ⟨_, one, other⟩ => Numeral.finite.inj (Option.some.inj (one.trans other.symm))

theorem float_beq_iff (x y : Float) :
    (x == y) = true ↔
      ∃ numeral, (exact x).numeral? = some numeral ∧ (exact y).numeral? = some numeral := by
  have unpacked : (x == y) = (x.toModel.unpack.compare y.toModel.unpack == some .eq) := rfl
  rw [unpacked, beq_iff_eq, exact_eq_exactOf x, exact_eq_exactOf y]
  refine compare_eq_iff (fun _ _ _ finite => ?_) fun _ _ _ finite => ?_
  · exact canonical_of_exact ((exact_eq_exactOf x).trans finite)
  · exact canonical_of_exact ((exact_eq_exactOf y).trans finite)

end Number

namespace Value

/-- What a value stands for as a number. -/
def numeral? : Value → Option Numeral
  | .bool value => some (.finite (if value then 1 else 0))
  | .int value => some (.finite value)
  | .float value => (Number.exact value).numeral?
  | _ => none

/-- Whether a value is a number, be it a NaN. -/
def isNumber : Value → Bool
  | .bool _ | .int _ | .float _ => true
  | _ => false

theorem sameInt_iff (n : Int) (value : Value) :
    sameInt n value = true ↔ value.numeral? = some (.finite n) := by
  cases value with
  | bool value =>
      have cast : (if value = true then 1 else 0 : ℚ) = ((if value = true then 1 else 0 : Int) : ℚ) := by
        cases value <;> simp
      rw [sameInt, beq_iff_eq, numeral?, Option.some.injEq, Numeral.finite.injEq, cast, Int.cast_inj]
      exact eq_comm
  | int value =>
      rw [sameInt, beq_iff_eq, numeral?, Option.some.injEq, Numeral.finite.injEq, Int.cast_inj]
      exact eq_comm
  | float value => rw [sameInt, beq_iff_eq, Number.compareInt_eq_iff, numeral?]
  | _ => simp [sameInt, numeral?]

theorem sameFloat_iff (x : Float) (value : Value) :
    sameFloat x value = true ↔
      ∃ numeral, (Number.exact x).numeral? = some numeral ∧ value.numeral? = some numeral := by
  cases value with
  | bool value =>
      rw [sameFloat, beq_iff_eq, Number.compareInt_eq_iff]
      cases value <;> simp [numeral?]
  | int value =>
      rw [sameFloat, beq_iff_eq, Number.compareInt_eq_iff]
      simp [numeral?]
  | float value => rw [sameFloat, Number.float_beq_iff, numeral?]
  | _ => simp [sameFloat, numeral?]

/-- Numbers are the same exactly if they stand for the same. -/
theorem same_number_iff {left : Value} (number : left.isNumber = true) (right : Value) :
    left.same right = true ↔
      ∃ numeral, left.numeral? = some numeral ∧ right.numeral? = some numeral := by
  cases left with
  | bool value => cases value <;> rw [same, sameInt_iff] <;> simp [numeral?]
  | int value =>
      rw [same, sameInt_iff]
      simp [numeral?]
  | float value =>
      rw [same, sameFloat_iff]
      rfl
  | _ => cases number

end Value

end Stepwise
