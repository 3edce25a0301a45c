import Mathlib.Algebra.Order.Field.Power
import Mathlib.Data.Rat.Cast.Order
import Mathlib.Tactic.Linarith
import Mathlib.Tactic.Ring
import TradingDesk.Number.Exact

/-! Rounding to whole units. The rounded magnitude is at most half a unit away from the exact one, and nothing is
left of it exactly when it was not more than half a unit. -/

namespace TradingDesk
namespace Exact

section

variable (num : Nat) {den : Nat} (some : 0 < den)

include some

/-- Twice the rounded quotient is at most one away from twice the quotient. -/
theorem roundHalfEven_near :
    2 * num ≤ (2 * roundHalfEven num den + 1) * den ∧ 2 * roundHalfEven num den * den ≤ 2 * num + den := by
  have split := Nat.div_add_mod num den
  have less := Nat.mod_lt num some
  unfold roundHalfEven
  generalize num / den = q at *
  generalize num % den = r at *
  have half := Nat.mod_two_eq_zero_or_one q
  dsimp only
  split_ifs with below above
  · constructor <;> nlinarith
  · constructor <;> nlinarith
  · rcases half with even | odd
    · rw [even]
      constructor <;> nlinarith
    · rw [odd]
      constructor <;> nlinarith

theorem roundHalfEven_pos_iff : 0 < roundHalfEven num den ↔ den < 2 * num := by
  have split := Nat.div_add_mod num den
  have less := Nat.mod_lt num some
  unfold roundHalfEven
  rcases Nat.eq_zero_or_pos (num / den) with none | whole
  · rw [none, Nat.mul_zero, Nat.zero_add] at split
    rw [none, split]
    dsimp only
    split_ifs <;> omega
  · have large : den ≤ den * (num / den) := Nat.le_mul_of_pos_right den whole
    dsimp only
    split_ifs <;> omega

/-- What lies half a unit below an even number is rounded up to it. -/
theorem roundHalfEven_lt_iff {k : Nat} (even : k % 2 = 0) :
    roundHalfEven num den < k ↔ 2 * num + den < 2 * (den * k) := by
  have split := Nat.div_add_mod num den
  have less := Nat.mod_lt num some
  unfold roundHalfEven
  generalize num / den = q at *
  generalize num % den = r at *
  -- How many units the quotient is below `k`.
  have none (reached : k ≤ q) : den * k ≤ den * q := Nat.mul_le_mul_left den reached
  have one (same : k = q + 1) : den * k = den * q + den := by rw [same, Nat.mul_succ]
  have two (below : q + 2 ≤ k) : den * q + 2 * den ≤ den * k := by
    calc den * q + 2 * den = den * (q + 2) := by ring
      _ ≤ den * k := Nat.mul_le_mul_left den below
  have place : k ≤ q ∨ k = q + 1 ∨ q + 2 ≤ k := by omega
  have half := Nat.mod_two_eq_zero_or_one q
  dsimp only
  rcases place with reached | same | below
  · have := none reached
    split_ifs <;> omega
  · have := one same
    split_ifs <;> omega
  · have := two below
    split_ifs <;> omega

end

theorem quotient_pos (scale m : Nat) (e : Int) : 0 < (quotient scale m e).2 :=
  Nat.pow_pos Nat.two_pos

theorem quotient_worth (scale m : Nat) (e : Int) :
    (((quotient scale m e).1 : ℚ)) = scale * (m * 2 ^ e) * (quotient scale m e).2 := by
  have powers : (2 : ℚ) ^ e.toNat = 2 ^ e * 2 ^ (-e).toNat := by
    rw [← zpow_natCast, ← zpow_natCast, ← zpow_add₀ two_ne_zero]
    congr 1
    omega
  change ((m * scale * 2 ^ e.toNat : Nat) : ℚ) = scale * (m * 2 ^ e) * ((2 ^ (-e).toNat : Nat) : ℚ)
  push_cast
  rw [powers]
  ring

theorem units_near (scale m : Nat) (e : Int) :
    |(units scale m e : ℚ) - scale * (m * 2 ^ e)| ≤ 1 / 2 := by
  have some : (0 : ℚ) < (quotient scale m e).2 := by exact_mod_cast quotient_pos scale m e
  obtain ⟨above, below⟩ := roundHalfEven_near (quotient scale m e).1 (quotient_pos scale m e)
  have upper : (2 * ((quotient scale m e).1 : ℚ)) ≤ (2 * units scale m e + 1) * (quotient scale m e).2 := by
    exact_mod_cast above
  have under : (2 * (units scale m e : ℚ)) * (quotient scale m e).2 ≤
      2 * (quotient scale m e).1 + (quotient scale m e).2 := by
    exact_mod_cast below
  rw [quotient_worth] at upper under
  generalize (scale * (m * 2 ^ e) : ℚ) = x at *
  rw [abs_le]
  constructor <;> nlinarith

theorem units_pos_iff (scale m : Nat) (e : Int) : 0 < units scale m e ↔ (1 : ℚ) / 2 < scale * (m * 2 ^ e) := by
  have some : (0 : ℚ) < (quotient scale m e).2 := by exact_mod_cast quotient_pos scale m e
  have rounds : 0 < units scale m e ↔ (quotient scale m e).2 < 2 * (quotient scale m e).1 :=
    roundHalfEven_pos_iff _ (quotient_pos scale m e)
  have cast : (quotient scale m e).2 < 2 * (quotient scale m e).1 ↔
      ((quotient scale m e).2 : ℚ) < 2 * (quotient scale m e).1 := by exact_mod_cast Iff.rfl
  rw [rounds, cast, quotient_worth]
  generalize (scale * (m * 2 ^ e) : ℚ) = x at *
  constructor <;> intro less <;> nlinarith

theorem units_lt_iff {k : Nat} (even : k % 2 = 0) (scale m : Nat) (e : Int) :
    units scale m e < k ↔ (scale * (m * 2 ^ e) : ℚ) < k - 1 / 2 := by
  have some : (0 : ℚ) < (quotient scale m e).2 := by exact_mod_cast quotient_pos scale m e
  have rounds : units scale m e < k ↔
      2 * (quotient scale m e).1 + (quotient scale m e).2 < 2 * ((quotient scale m e).2 * k) :=
    roundHalfEven_lt_iff _ (quotient_pos scale m e) even
  have cast : 2 * (quotient scale m e).1 + (quotient scale m e).2 < 2 * ((quotient scale m e).2 * k) ↔
      (2 * (quotient scale m e).1 + (quotient scale m e).2 : ℚ) < 2 * ((quotient scale m e).2 * k) := by
    exact_mod_cast Iff.rfl
  rw [rounds, cast, quotient_worth]
  generalize (scale * (m * 2 ^ e) : ℚ) = x at *
  constructor <;> intro less <;> nlinarith

theorem units_le (scale m k : Nat) (e : Int) (bounded : (m * 2 ^ e : ℚ) ≤ k) : units scale m e ≤ k * scale := by
  have near := (abs_le.mp (units_near scale m e)).2
  have scaled : (scale * (m * 2 ^ e) : ℚ) ≤ k * scale := by
    rw [mul_comm (k : ℚ)]
    exact mul_le_mul_of_nonneg_left bounded (Nat.cast_nonneg scale)
  have less : (units scale m e : ℚ) < (k * scale + 1 : Nat) := by
    push_cast
    linarith
  exact Nat.lt_succ_iff.mp (by exact_mod_cast less)

end Exact
end TradingDesk
