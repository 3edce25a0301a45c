import Mathlib
import TradingDesk.Number.Exact

/-! What a double is worth. Two doubles are compared by their exponents first and then by their significands, which is
how the numbers that they are worth compare. -/

namespace TradingDesk
namespace Exact
open Float.Model Float.Model.UnpackedFloat

def worth? : Exact → Option ℚ
  | .finite negative m e => some ((if negative then -1 else 1) * m * 2 ^ e)
  | _ => none

/-- A significand has 53 binary digits, unless the exponent is the lowest one. -/
structure Canonical (m : Nat) (e : Int) : Prop where
  some : 0 < m
  short : m < 2 ^ 53
  low : -1074 ≤ e
  full : 2 ^ 52 ≤ m ∨ e = -1074

theorem toNat_implicit (mantissa : BitVec 52) : (1#1 ++ mantissa).toNat = 2 ^ 52 + mantissa.toNat := by
  rw [BitVec.toNat_append, ← Nat.shiftLeft_add_eq_or_of_lt mantissa.isLt]
  rfl

theorem canonical_unpack (x : Float.Model) (s : Sign) (m : Nat) (e : Int) (some : 0 < m)
    (unpacked : x.unpack = .finite s m e some) : Canonical m e := by
  have short := (@unpackMantissa Format.binary64 x.toBits.toBitVec).isLt
  have shown := toNat_implicit (@unpackMantissa Format.binary64 x.toBits.toBitVec)
  unfold Float.Model.unpack UnpackedFloat.unpack at unpacked
  dsimp only at unpacked
  split_ifs at unpacked with highest empty lowest zero
  · obtain ⟨-, rfl, rfl⟩ := UnpackedFloat.finite.inj unpacked
    refine ⟨some, ?_, ?_, .inr ?_⟩
    · exact short.trans (by decide)
    · rw [lowest]
      decide
    · rw [lowest]
      decide
  · obtain ⟨-, rfl, rfl⟩ := UnpackedFloat.finite.inj unpacked
    have raised : (@unpackExponent Format.binary64 x.toBits.toBitVec).toNat ≠ 0 :=
      fun none => lowest (BitVec.eq_of_toNat_eq none)
    refine ⟨some, ?_, ?_, .inl ?_⟩
    · rw [shown]
      change _ < 2 ^ 52 at short
      omega
    · change -1074 ≤ ((@unpackExponent Format.binary64 x.toBits.toBitVec).toNat : Int) - 1075
      omega
    · rw [shown]
      exact Nat.le_add_right _ _

/-! Bounds of a number and of its exponent. -/

theorem exponent_lt {m : Nat} {e k : Int} (full : 2 ^ 52 ≤ m) (less : (m * 2 ^ e : ℚ) < 2 ^ (k + 52)) : e < k := by
  by_contra reached
  have large : (2 ^ 52 : ℚ) ≤ m := by exact_mod_cast full
  have more : (2 ^ (k + 52) : ℚ) ≤ m * 2 ^ e := by
    calc (2 ^ (k + 52) : ℚ) = 2 ^ 52 * 2 ^ k := by
          rw [zpow_add₀ two_ne_zero, mul_comm]
          rfl
      _ ≤ m * 2 ^ e := mul_le_mul large (zpow_le_zpow_right₀ one_le_two (not_lt.mp reached)) (zpow_pos two_pos k).le
          (Nat.cast_nonneg m)
  exact absurd less (not_lt.mpr more)

theorem lt_exponent {m : Nat} {e k : Int} (short : m < 2 ^ 53) (more : (2 ^ (k + 53) : ℚ) ≤ m * 2 ^ e) : k < e := by
  by_contra reached
  have small : (m : ℚ) < 2 ^ 53 := by exact_mod_cast short
  have less : (m * 2 ^ e : ℚ) < 2 ^ (k + 53) := by
    calc (m * 2 ^ e : ℚ) < 2 ^ 53 * 2 ^ e := mul_lt_mul_of_pos_right small (zpow_pos two_pos e)
      _ ≤ 2 ^ 53 * 2 ^ k :=
        mul_le_mul_of_nonneg_left (zpow_le_zpow_right₀ one_le_two (not_lt.mp reached)) (by positivity)
      _ = 2 ^ (k + 53) := by
        rw [zpow_add₀ two_ne_zero, mul_comm]
        rfl
  exact absurd more (not_le.mpr less)

/-- Between two numbers of 53 digits that differ in the last one there is no other. -/
theorem le_of_lt_succ {m n : Nat} {e f : Int} (short : m < 2 ^ 53) (full : 2 ^ 52 ≤ n)
    (less : (m * 2 ^ e : ℚ) < (n + 1 : Nat) * 2 ^ f) : (m * 2 ^ e : ℚ) ≤ n * 2 ^ f := by
  rcases le_or_gt f e with above | below
  · obtain ⟨k, rfl⟩ := Int.le.dest above
    have unit : (0 : ℚ) < 2 ^ f := zpow_pos two_pos f
    have same : (m * 2 ^ (f + k) : ℚ) = (m * 2 ^ k : Nat) * 2 ^ f := by
      rw [zpow_add₀ two_ne_zero, zpow_natCast]
      push_cast
      ring
    rw [same] at less ⊢
    have whole : m * 2 ^ k < n + 1 := by exact_mod_cast lt_of_mul_lt_mul_right less unit.le
    exact mul_le_mul_of_nonneg_right (by exact_mod_cast Nat.lt_succ_iff.mp whole) unit.le
  · have small : (m : ℚ) ≤ 2 ^ 53 := by exact_mod_cast short.le
    have large : (2 ^ 52 : ℚ) ≤ n := by exact_mod_cast full
    calc (m * 2 ^ e : ℚ) ≤ 2 ^ 53 * 2 ^ e := mul_le_mul_of_nonneg_right small (zpow_pos two_pos e).le
      _ = 2 ^ 52 * 2 ^ (e + 1) := by
        rw [zpow_add_one₀ two_ne_zero]
        ring
      _ ≤ n * 2 ^ f := mul_le_mul large (zpow_le_zpow_right₀ one_le_two below) (zpow_pos two_pos _).le (Nat.cast_nonneg n)

private theorem canonical_less {m n : Nat} {e f : Int} (c : Canonical m e) (d : Canonical n f) (less : e < f) :
    (m * 2 ^ e : ℚ) < n * 2 ^ f := by
  have low := c.low
  have full : 2 ^ 52 ≤ n := d.full.resolve_right (by omega)
  have short : (m : ℚ) < 2 ^ 53 := by exact_mod_cast c.short
  calc (m * 2 ^ e : ℚ)
      < 2 ^ 53 * 2 ^ e := mul_lt_mul_of_pos_right short (zpow_pos two_pos e)
    _ = 2 ^ 52 * 2 ^ (e + 1) := by
      rw [zpow_add₀ two_ne_zero]
      ring
    _ ≤ 2 ^ 52 * 2 ^ f :=
      mul_le_mul_of_nonneg_left (zpow_le_zpow_right₀ one_le_two (by omega)) (by positivity)
    _ ≤ n * 2 ^ f := mul_le_mul_of_nonneg_right (by exact_mod_cast full) (zpow_pos two_pos f).le

/-- The exponents decide, and the significands when they are equal. -/
theorem canonical_compare {m n : Nat} {e f : Int} (c : Canonical m e) (d : Canonical n f) :
    (compare e f).then (compare m n) = compare (m * 2 ^ e : ℚ) (n * 2 ^ f) := by
  rcases lt_trichotomy e f with less | rfl | more
  · rw [compare_lt_iff_lt.mpr less, compare_lt_iff_lt.mpr (canonical_less c d less)]
    rfl
  · have unit : (0 : ℚ) < 2 ^ e := zpow_pos two_pos e
    rw [compare_eq_iff_eq.mpr rfl, Ordering.eq_then]
    rcases lt_trichotomy m n with less | rfl | more
    · have scaled : (m * 2 ^ e : ℚ) < n * 2 ^ e := mul_lt_mul_of_pos_right (by exact_mod_cast less) unit
      rw [compare_lt_iff_lt.mpr less, compare_lt_iff_lt.mpr scaled]
    · rw [compare_eq_iff_eq.mpr rfl, compare_eq_iff_eq.mpr rfl]
    · have scaled : (n * 2 ^ e : ℚ) < m * 2 ^ e := mul_lt_mul_of_pos_right (by exact_mod_cast more) unit
      rw [compare_gt_iff_gt.mpr more, compare_gt_iff_gt.mpr scaled]
  · rw [compare_gt_iff_gt.mpr more, compare_gt_iff_gt.mpr (canonical_less d c more)]
    rfl

/-- What an unpacked double is worth, when it is a number. -/
inductive Weighs : UnpackedFloat → ℚ → Prop where
  | zero (s : Sign) : Weighs (.zero s) 0
  | positive {m : Nat} {e : Int} (some : 0 < m) (canonical : Canonical m e) :
    Weighs (.finite .positive m e some) (m * 2 ^ e)
  | negative {m : Nat} {e : Int} (some : 0 < m) (canonical : Canonical m e) :
    Weighs (.finite .negative m e some) (-(m * 2 ^ e))

private theorem canonical_pos {m : Nat} {e : Int} (canonical : Canonical m e) : (0 : ℚ) < m * 2 ^ e :=
  mul_pos (Nat.cast_pos.mpr canonical.some) (zpow_pos two_pos e)

private theorem compare_neg (a b : ℚ) : compare (-a) (-b) = (compare a b).swap := by
  rcases lt_trichotomy a b with less | rfl | more
  · rw [compare_lt_iff_lt.mpr less, compare_gt_iff_gt.mpr (neg_lt_neg less)]
    rfl
  · rw [compare_eq_iff_eq.mpr rfl, compare_eq_iff_eq.mpr rfl]
    rfl
  · rw [compare_gt_iff_gt.mpr more, compare_lt_iff_lt.mpr (neg_lt_neg more)]
    rfl

theorem compare_weighs {u v : UnpackedFloat} {a b : ℚ} (left : Weighs u a) (right : Weighs v b) :
    u.compare v = some (compare a b) := by
  cases left with
  | zero s =>
    cases right with
    | zero t => rw [compare_eq_iff_eq.mpr rfl]; rfl
    | positive some c => rw [compare_lt_iff_lt.mpr (canonical_pos c)]; rfl
    | negative some c => rw [compare_gt_iff_gt.mpr (neg_lt_zero.mpr (canonical_pos c))]; rfl
  | positive some c =>
    have above := canonical_pos c
    cases right with
    | zero t => rw [compare_gt_iff_gt.mpr above]; rfl
    | positive more d => rw [← canonical_compare c d]; rfl
    | negative more d =>
      rw [compare_gt_iff_gt.mpr ((neg_lt_zero.mpr (canonical_pos d)).trans above)]; rfl
  | negative some c =>
    have below := neg_lt_zero.mpr (canonical_pos c)
    cases right with
    | zero t => rw [compare_lt_iff_lt.mpr below]; rfl
    | positive more d => rw [compare_lt_iff_lt.mpr (below.trans (canonical_pos d))]; rfl
    | negative more d =>
      rw [compare_neg, ← canonical_compare c d]
      rfl

theorem weighs_of_worth {x : Float} {a : ℚ} (worth : (ofFloat x).worth? = some a) : Weighs x.toModel.unpack a := by
  unfold ofFloat at worth
  cases unpacked : x.toModel.unpack with
  | infinity s => simp [unpacked, worth?] at worth
  | notANumber => simp [unpacked, worth?] at worth
  | zero s =>
    simp only [unpacked, worth?, Option.some.injEq, Nat.cast_zero, mul_zero, zero_mul] at worth
    exact worth ▸ .zero s
  | finite s m e some =>
    have canonical := canonical_unpack x.toModel s m e some unpacked
    simp only [unpacked, worth?, Option.some.injEq] at worth
    cases s with
    | positive =>
      have plain : (m * 2 ^ e : ℚ) = a := (one_mul (m : ℚ) ▸ worth :)
      exact plain ▸ .positive some canonical
    | negative =>
      have turned : (-(m * 2 ^ e) : ℚ) = a := by
        rw [← worth]
        change _ = -1 * (m : ℚ) * 2 ^ e
        ring
      exact turned ▸ .negative some canonical

theorem lt_iff_worth {x y : Float} {a b : ℚ} (left : (ofFloat x).worth? = some a)
    (right : (ofFloat y).worth? = some b) : x < y ↔ a < b := by
  have compared := compare_weighs (weighs_of_worth left) (weighs_of_worth right)
  change decide (x.toModel < y.toModel) = true ↔ _
  rw [decide_eq_true_iff]
  change x.toModel.unpack.lt y.toModel.unpack = true ↔ _
  rw [UnpackedFloat.lt, compared, ← compare_lt_iff_lt]
  cases compare a b <;> decide

theorem le_iff_worth {x y : Float} {a b : ℚ} (left : (ofFloat x).worth? = some a)
    (right : (ofFloat y).worth? = some b) : x ≤ y ↔ a ≤ b := by
  have compared := compare_weighs (weighs_of_worth left) (weighs_of_worth right)
  change decide (x.toModel ≤ y.toModel) = true ↔ _
  rw [decide_eq_true_iff]
  change x.toModel.unpack.le y.toModel.unpack = true ↔ _
  rw [UnpackedFloat.le, compared, ← compare_le_iff_le]
  cases compare a b <;> decide

theorem eq_iff_worth {x y : Float} {a b : ℚ} (left : (ofFloat x).worth? = some a)
    (right : (ofFloat y).worth? = some b) : (x == y) = true ↔ a = b := by
  have compared := compare_weighs (weighs_of_worth left) (weighs_of_worth right)
  change x.toModel.unpack.beq y.toModel.unpack = true ↔ _
  rw [UnpackedFloat.beq, compared, ← compare_eq_iff_eq (a := a)]
  cases compare a b <;> decide

theorem isFinite_iff (x : Float) : x.isFinite = true ↔ ∃ a, (ofFloat x).worth? = some a := by
  unfold ofFloat
  change x.toModel.unpack.isFinite = true ↔ _
  cases x.toModel.unpack <;> simp [UnpackedFloat.isFinite, worth?]

theorem zero_worth : (ofFloat 0).worth? = some 0 := by
  have taken : ofFloat 0 = .finite false 0 0 := by decide +kernel
  rw [taken]
  norm_num [worth?]

/-- A finite double above zero. -/
theorem above_zero_iff (x : Float) :
    (x.isFinite = true ∧ ¬x ≤ 0) ↔ ∃ a, (ofFloat x).worth? = some a ∧ 0 < a := by
  rw [isFinite_iff]
  constructor
  · rintro ⟨⟨a, worth⟩, above⟩
    exact ⟨a, worth, not_le.mp fun below => above ((le_iff_worth worth zero_worth).mpr below)⟩
  · rintro ⟨a, worth, above⟩
    exact ⟨⟨a, worth⟩, fun below => absurd ((le_iff_worth worth zero_worth).mp below) (not_le.mpr above)⟩

/-- A finite double that is not negative; a negative zero is none. -/
theorem not_negative_iff (x : Float) :
    (x.isFinite = true ∧ ¬x < 0) ↔ ∃ a, (ofFloat x).worth? = some a ∧ 0 ≤ a := by
  rw [isFinite_iff]
  constructor
  · rintro ⟨⟨a, worth⟩, above⟩
    exact ⟨a, worth, not_lt.mp fun below => above ((lt_iff_worth worth zero_worth).mpr below)⟩
  · rintro ⟨a, worth, above⟩
    exact ⟨⟨a, worth⟩, fun below => absurd ((lt_iff_worth worth zero_worth).mp below) (not_lt.mpr above)⟩

end Exact
end TradingDesk
