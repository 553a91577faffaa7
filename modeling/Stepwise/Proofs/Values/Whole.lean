import Stepwise.Proofs.Values.Numeral
import Stepwise.Value.Shown

/-!
# Whole numbers

A floating point number is whole exactly if it is the same as an integer, and then it is the integer that
is left without the fraction.  That integer always has a text, since no finite number comes near to the
integers with too many digits.
-/

namespace Stepwise.Number

theorem twoPower_pos (exponent : Int) : 0 < (twoPower exponent).2 :=
  Nat.pow_pos (by decide)

/-- A power of two is a divisor or a factor, and never both. -/
theorem dvd_mul_twoPower (mantissa : Nat) (exponent : Int) :
    (twoPower exponent).2 ∣ mantissa * (twoPower exponent).1 ↔
      mantissa % (twoPower exponent).2 = 0 := by
  rw [← Nat.dvd_iff_mod_eq_zero]
  rcases Int.le_total 0 exponent with nonneg | nonpos
  · have none : (twoPower exponent).2 = 1 := by
      rw [twoPower, Int.toNat_of_nonpos (Int.neg_nonpos_of_nonneg nonneg)]
    simp [none]
  · have none : (twoPower exponent).1 = 1 := by
      rw [twoPower, Int.toNat_of_nonpos nonpos]
    rw [none, Nat.mul_one]

theorem mul_eq_iff {n : Int} {magnitude divisor : Nat} (positive : 0 < divisor) :
    n * divisor = magnitude ↔ divisor ∣ magnitude ∧ ((magnitude / divisor : Nat) : Int) = n := by
  constructor
  · intro same
    have divides : (divisor : Int) ∣ magnitude := ⟨n, by rw [← same, Int.mul_comm]⟩
    refine ⟨Int.natCast_dvd_natCast.mp divides, ?_⟩
    rw [Int.natCast_ediv, ← same, Int.mul_ediv_cancel n (by omega)]
  · rintro ⟨divides, rfl⟩
    rw [← Int.natCast_mul, Nat.div_mul_cancel divides]

/-- A number is whole and is an integer without its fraction exactly if the two are the same. -/
theorem whole_iff {x : Float} {n : Int} :
    (isWhole x = true ∧ truncate? x = some n) ↔ compareInt n x = some .eq := by
  rw [isWhole, truncate?, compareInt]
  cases exact x with
  | nan => simp
  | infinite negative => cases negative <;> simp
  | finite negative mantissa exponent =>
      have positive := twoPower_pos exponent
      simp only [beq_iff_eq, Option.some.injEq, compare_eq_iff_eq]
      rw [← dvd_mul_twoPower]
      generalize mantissa * (twoPower exponent).1 = magnitude
      cases negative with
      | false => exact (mul_eq_iff positive).symm
      | true =>
          have opposite : -n * (twoPower exponent).2 = magnitude ↔ _ := mul_eq_iff positive
          rw [if_pos rfl, if_pos rfl, Int.neg_eq_comm, eq_comm, ← opposite, Int.neg_mul,
            Int.neg_eq_comm, eq_comm]

/-! ## The size of finite numbers -/

theorem exponent_le_of_exact {x : Float} {negative : Bool} {mantissa : Nat} {exponent : Int}
    (finite : exact x = .finite negative mantissa exponent) : exponent.toNat ≤ 972 := by
  have biased : x.toBits.toNat / Nat.pow 2 52 % Nat.pow 2 11 < Nat.pow 2 11 := Nat.mod_lt _ (by decide)
  have power : Nat.pow 2 11 = 2048 := rfl
  simp only [exact] at finite
  split at finite
  · split at finite <;> cases finite
  · split at finite
    · cases finite
      omega
    · cases finite
      omega

theorem factor_le {exponent : Int} {limit : Nat} (below : exponent.toNat ≤ limit) :
    (twoPower exponent).1 ≤ Nat.pow 2 limit :=
  Nat.pow_le_pow_right (by decide) below

theorem mul_div_lt {mantissa factor small large limit : Nat} (mantissa_le : mantissa ≤ small)
    (factor_le : factor ≤ large) (below : small * large < limit) (divisor : Nat) :
    mantissa * factor / divisor < limit :=
  calc mantissa * factor / divisor
    _ ≤ mantissa * factor := Nat.div_le_self _ _
    _ ≤ small * large := Nat.mul_le_mul mantissa_le factor_le
    _ < limit := below

/-- What is left of a number without its fraction has a text. -/
theorem fewDigits_truncate {x : Float} {n : Int} (truncates : truncate? x = some n) :
    Value.fewDigits n = true := by
  rw [truncate?] at truncates
  cases finite : exact x with
  | nan => rw [finite] at truncates; cases truncates
  | infinite negative => rw [finite] at truncates; cases truncates
  | finite negative mantissa exponent =>
      rw [finite] at truncates
      have magnitude : n.natAbs = mantissa * (twoPower exponent).1 / (twoPower exponent).2 := by
        obtain rfl := Option.some.inj truncates
        cases negative with
        | false => rfl
        | true => exact Int.natAbs_neg _
      have small : mantissa ≤ Nat.pow 2 53 := Nat.le_of_lt (canonical_of_exact finite).below
      -- The type is left out: as a literal, the power would be computed.
      have factor := factor_le (exponent_le_of_exact finite)
      rw [Value.fewDigits, decide_eq_true_iff, magnitude]
      exact mul_div_lt small factor (by decide +kernel) _

end Stepwise.Number
