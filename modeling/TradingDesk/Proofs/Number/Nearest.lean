import Mathlib.Tactic.Linarith
import Mathlib.Tactic.NormNum
import TradingDesk.Proofs.Number.Packed

/-! Rounding to 53 binary digits. A significand and two further bits say of a number all that its rounding depends on, and
shifting keeps that. What comes out is at most half a unit of its last digit away, and so is a quotient of doubles. -/

namespace TradingDesk
namespace Exact
open Float.Model Float.Model.UnpackedFloat

/-- The first of the further bits is the next digit of the number, the other tells whether anything follows. -/
structure Marks (em : ExtendedMantissa) (x : ℚ) : Prop where
  least : 2 * em.mantissa + em.roundBit.toNat ≤ 2 * x
  most : 2 * x ≤ 2 * em.mantissa + em.roundBit.toNat + em.stickyBit.toNat

section

variable {em : ExtendedMantissa} {x : ℚ}

theorem Marks.half (marks : Marks em x) : Marks em.shiftRightOne (x / 2) := by
  obtain ⟨m, round, sticky⟩ := em
  obtain ⟨least, most⟩ := marks
  have whole : (2 * (m / 2 : Nat) + (m % 2 : Nat) : ℚ) = m := by exact_mod_cast Nat.div_add_mod m 2
  have next : (m % 2 != 0).toNat = m % 2 := by
    rcases Nat.mod_two_eq_zero_or_one m with even | odd
    · rw [even]
      rfl
    · rw [odd]
      rfl
  refine ⟨?_, ?_⟩
  · change (2 * (m / 2 : Nat) + ((m % 2 != 0).toNat : Nat) : ℚ) ≤ _
    rw [next, whole]
    have some : (0 : ℚ) ≤ round.toNat := Nat.cast_nonneg _
    dsimp only at least
    linarith
  · change _ ≤ (2 * (m / 2 : Nat) + ((m % 2 != 0).toNat : Nat) + ((round || sticky).toNat : Nat) : ℚ)
    rw [next, whole]
    dsimp only at most
    cases round <;> cases sticky <;> norm_num at most ⊢ <;> linarith

theorem Marks.shift (marks : Marks em x) (k : Nat) : Marks (em >>> k) (x / 2 ^ k) := by
  induction k with
  | zero =>
    rw [pow_zero, div_one]
    exact marks
  | succ k ih =>
    rw [pow_succ, ← div_div]
    exact ih.half

theorem Marks.rounded (marks : Marks em x) : |(em.roundedMantissa : ℚ) - x| ≤ 1 / 2 := by
  obtain ⟨m, round, sticky⟩ := em
  obtain ⟨least, most⟩ := marks
  dsimp only at least most
  rw [abs_le]
  cases round with
  | false =>
    -- Without the next digit the significand stays.
    have same : (⟨m, false, sticky⟩ : ExtendedMantissa).roundedMantissa = m := by cases sticky <;> rfl
    rw [same]
    cases sticky <;> norm_num at least most ⊢ <;> constructor <;> linarith
  | true =>
    cases sticky with
    | true =>
      change -(1 / 2) ≤ ((m + 1 : Nat) : ℚ) - x ∧ ((m + 1 : Nat) : ℚ) - x ≤ 1 / 2
      norm_num at least most ⊢
      constructor <;> linarith
    | false =>
      change -(1 / 2) ≤ ((m + m % 2 : Nat) : ℚ) - x ∧ ((m + m % 2 : Nat) : ℚ) - x ≤ 1 / 2
      rcases Nat.mod_two_eq_zero_or_one m with even | odd
      · rw [even]
        norm_num at least most ⊢
        constructor <;> linarith
      · rw [odd]
        norm_num at least most ⊢
        constructor <;> linarith

theorem marks_exact (m : Nat) : Marks (.ofMantissaAndAccuracy m .exact) m := by
  refine ⟨?_, ?_⟩ <;> simp [ExtendedMantissa.ofMantissaAndAccuracy]

theorem marks_fraction (m : Nat) {num den : Nat} (less : num < den) :
    Marks (.ofMantissaAndAccuracy m (accuracyOfFraction num den)) (m + num / den) := by
  have some : (0 : ℚ) < den := by exact_mod_cast Nat.zero_lt_of_lt less
  have positive : (0 : ℚ) ≤ num / den := div_nonneg (Nat.cast_nonneg num) some.le
  have below : (num / den : ℚ) < 1 := (div_lt_one some).mpr (by exact_mod_cast less)
  unfold accuracyOfFraction
  split
  · rename_i none
    rw [none, Nat.cast_zero, zero_div, add_zero]
    exact marks_exact m
  · rcases lt_trichotomy (2 * num) den with low | same | high
    · have half : (num / den : ℚ) < 1 / 2 := by
        rw [div_lt_div_iff₀ some two_pos, one_mul, mul_comm]
        exact_mod_cast low
      rw [compare_lt_iff_lt.mpr low]
      refine ⟨?_, ?_⟩ <;> norm_num [ExtendedMantissa.ofMantissaAndAccuracy] <;> linarith
    · have half : (num / den : ℚ) = 1 / 2 := by
        rw [div_eq_div_iff some.ne' two_ne_zero, one_mul, mul_comm]
        exact_mod_cast same
      rw [compare_eq_iff_eq.mpr same, half]
      refine ⟨?_, ?_⟩ <;> norm_num [ExtendedMantissa.ofMantissaAndAccuracy] <;> linarith
    · have half : (1 / 2 : ℚ) < num / den := by
        rw [div_lt_div_iff₀ two_pos some, one_mul, mul_comm]
        exact_mod_cast high
      rw [compare_gt_iff_gt.mpr high]
      refine ⟨?_, ?_⟩ <;> norm_num [ExtendedMantissa.ofMantissaAndAccuracy] <;> linarith

end

/-! Cutting a significand to 53 digits. -/

theorem mantissa_shifted (m : ExtendedMantissa) (k : Nat) : (m >>> k).mantissa = m.mantissa / 2 ^ k := by
  induction k with
  | zero => exact (Nat.div_one m.mantissa).symm
  | succ k ih =>
    change (m >>> k).mantissa / 2 = _
    rw [ih, Nat.div_div_eq_div_mul, Nat.pow_succ]

private theorem mantissa_rounded (m : ExtendedMantissa) :
    m.mantissa ≤ m.roundedMantissa ∧ m.roundedMantissa ≤ m.mantissa + 1 := by
  obtain ⟨mantissa, round, sticky⟩ := m
  have half := Nat.mod_two_eq_zero_or_one mantissa
  cases round <;> cases sticky <;>
    simp only [ExtendedMantissa.roundedMantissa, ExtendedMantissa.accuracy, Accuracy.roundToNearestEven] <;> omega

private theorem mantissa_start (m : Nat) (a : Accuracy) : (ExtendedMantissa.ofMantissaAndAccuracy m a).mantissa = m := by
  cases a with
  | exact => rfl
  | inexact order => cases order <;> rfl

private theorem shift_full (m : Nat) (e : Int) (a : Accuracy) (full : 52 ≤ m.log2) (low : -1074 ≤ e) :
    shiftToTargetExponent Format.binary64 m e a =
      (ExtendedMantissa.ofMantissaAndAccuracy m a >>> (m.log2 - 52), e + (m.log2 - 52 : Nat)) := by
  have target : Format.binary64.targetExponent (totalExponent m e) = e + (m.log2 - 52 : Nat) := by
    change max ((m.log2 : Int) + 1 + e - 53) (-1074) = _
    omega
  have amount : (e + (m.log2 - 52 : Nat) - e).toNat = m.log2 - 52 := by omega
  unfold shiftToTargetExponent shiftToExponent
  simp only [target, amount]

private theorem round_twice (s : Sign) {m : Nat} {e first second : Int} {a : Accuracy} {cut last : ExtendedMantissa}
    (cuts : shiftToTargetExponent Format.binary64 m e a = (cut, first))
    (carries : shiftToTargetExponent Format.binary64 cut.roundedMantissa first .exact = (last, second))
    (some : 0 < last.mantissa) :
    roundWithAccuracy Format.binary64 s m e a = .finite s last.mantissa second some := by
  unfold roundWithAccuracy
  simp only [cuts, carries]
  exact dif_neg (Nat.ne_of_gt some)

/-- A significand of 53 digits or more is cut to 53 and rounded. Rounding up can bring one more digit, which is a zero. -/
theorem round_full (s : Sign) (m : Nat) (e : Int) (a : Accuracy) (full : 2 ^ 52 ≤ m) (low : -1074 ≤ e) :
    let cut := ExtendedMantissa.ofMantissaAndAccuracy m a >>> (m.log2 - 52)
    ∃ n f some, roundWithAccuracy Format.binary64 s m e a = .finite s n f some ∧ 2 ^ 52 ≤ n ∧ n < 2 ^ 53 ∧
      (n = cut.roundedMantissa ∧ f = e + (m.log2 - 52 : Nat) ∨
        cut.roundedMantissa = 2 ^ 53 ∧ n = 2 ^ 52 ∧ f = e + (m.log2 - 52 : Nat) + 1) := by
  intro cut
  have log : 52 ≤ m.log2 := (Nat.le_log2 (by omega)).mpr full
  have first := shift_full m e a log low
  have below : 2 ^ 52 * 2 ^ (m.log2 - 52) ≤ m := by
    rw [← Nat.pow_add, Nat.add_sub_of_le log]
    exact Nat.log2_self_le (by omega)
  have above : m < 2 ^ 53 * 2 ^ (m.log2 - 52) := by
    rw [← Nat.pow_add]
    exact (Nat.log2_lt (by omega)).mp (by omega)
  have floor : cut.mantissa = m / 2 ^ (m.log2 - 52) := by rw [mantissa_shifted, mantissa_start]
  have low_cut : 2 ^ 52 ≤ cut.mantissa := floor ▸ (Nat.le_div_iff_mul_le (Nat.two_pow_pos _)).mpr below
  have high_cut : cut.mantissa < 2 ^ 53 := floor ▸ (Nat.div_lt_iff_lt_mul (Nat.two_pow_pos _)).mpr above
  obtain ⟨least, most⟩ := mantissa_rounded cut
  by_cases carries : cut.roundedMantissa = 2 ^ 53
  · have second := shift_full (2 ^ 53) (e + (m.log2 - 52 : Nat)) .exact (by rw [Nat.log2_two_pow]; omega) (by omega)
    rw [Nat.log2_two_pow, ← carries] at second
    refine ⟨_, _, _, round_twice s first second (by rw [carries]; decide), ?_⟩
    have last : (ExtendedMantissa.ofMantissaAndAccuracy cut.roundedMantissa .exact >>> (53 - 52)).mantissa = 2 ^ 52 := by
      rw [carries]
      rfl
    rw [last]
    exact ⟨Nat.le_refl _, by decide, .inr ⟨carries, rfl, rfl⟩⟩
  · have kept : cut.roundedMantissa.log2 = 52 := (Nat.log2_eq_iff (by omega)).mpr ⟨by omega, by omega⟩
    have second := shift_full cut.roundedMantissa (e + (m.log2 - 52 : Nat)) .exact (by omega) (by omega)
    rw [kept] at second
    have rounds := round_twice s first second (Nat.lt_of_lt_of_le (by decide) (low_cut.trans least))
    have short : cut.roundedMantissa < 2 ^ 53 := by omega
    exact ⟨_, _, _, rounds, low_cut.trans least, short, .inl ⟨rfl, Int.add_zero _⟩⟩

/-- Rounding goes to a double that is at most half a unit of its last digit away. -/
theorem round_near (s : Sign) {m : Nat} {e : Int} {a : Accuracy} {x : ℚ}
    (marks : Marks (.ofMantissaAndAccuracy m a) x) (full : 2 ^ 52 ≤ m) (low : -1074 ≤ e) :
    ∃ n f some, roundWithAccuracy Format.binary64 s m e a = .finite s n f some ∧ 2 ^ 52 ≤ n ∧ n < 2 ^ 53 ∧ e ≤ f ∧
      f ≤ e + (m.log2 - 51 : Nat) ∧ |(n * 2 ^ f : ℚ) - x * 2 ^ e| ≤ 2 ^ f / 2 := by
  have log : 52 ≤ m.log2 := (Nat.le_log2 (by omega)).mpr full
  obtain ⟨n, f, some, rounded, least, most, place⟩ := round_full s m e a full low
  refine ⟨n, f, some, rounded, least, most, by omega, by omega, ?_⟩
  have near := (marks.shift (m.log2 - 52)).rounded
  generalize (ExtendedMantissa.ofMantissaAndAccuracy m a >>> (m.log2 - 52)).roundedMantissa = r at place near
  generalize m.log2 - 52 = k at place near
  have unit : (0 : ℚ) < 2 ^ (e + k : Int) := zpow_pos two_pos _
  have scaled : |(r * 2 ^ (e + k : Int) : ℚ) - x * 2 ^ e| ≤ 2 ^ (e + k : Int) / 2 := by
    have split : (r * 2 ^ (e + k : Int) : ℚ) - x * 2 ^ e = (r - x / 2 ^ k) * 2 ^ (e + k : Int) := by
      rw [zpow_add₀ two_ne_zero, zpow_natCast]
      field_simp
    rw [split, abs_mul, abs_of_pos unit]
    calc |(r : ℚ) - x / 2 ^ k| * 2 ^ (e + k : Int)
        ≤ 1 / 2 * 2 ^ (e + k : Int) := mul_le_mul_of_nonneg_right near unit.le
      _ = 2 ^ (e + k : Int) / 2 := by ring
  rcases place with ⟨rfl, rfl⟩ | ⟨carries, rfl, rfl⟩
  · exact scaled
  · have same : ((2 ^ 52 : Nat) * 2 ^ (e + k + 1 : Int) : ℚ) = r * 2 ^ (e + k : Int) := by
      rw [carries, zpow_add_one₀ two_ne_zero]
      push_cast
      ring
    rw [same, zpow_add_one₀ two_ne_zero]
    exact scaled.trans (by linarith)

/-! Quotients. -/

/-- 53 more digits are enough of a quotient. -/
private theorem divCore_full {m n : Nat} {e f : Int} (left : m.log2 = 52) (right : n.log2 = 52) (low : -1021 ≤ e - f) :
    divCore Format.binary64 m e n f = (m <<< 53 / n, e - f - 53, accuracyOfFraction (m <<< 53 % n) n) := by
  have target : min (e - f) (Format.binary64.targetExponent (totalExponent m e - totalExponent n f)) = e - f - 53 := by
    unfold totalExponent
    rw [left, right]
    change min (e - f) (max ((52 : Nat) + 1 + e - ((52 : Nat) + 1 + f) - 53) (-1074)) = _
    omega
  have amount : (e - f - (e - f - 53)).toNat = 53 := by omega
  unfold divCore
  simp only [target, amount]

/-- The whole part and the fraction of a quotient of significands, 53 digits further left. -/
private theorem fraction_worth {m n : Nat} (some : 0 < n) (e f : Int) :
    ((m * 2 ^ 53 / n : Nat) + (m * 2 ^ 53 % n : Nat) / n : ℚ) * 2 ^ (e - f - 53) = m * 2 ^ e / (n * 2 ^ f) := by
  have apart : (n : ℚ) ≠ 0 := by exact_mod_cast some.ne'
  have whole : ((m * 2 ^ 53 / n : Nat) + (m * 2 ^ 53 % n : Nat) / n : ℚ) * n = m * 2 ^ 53 := by
    rw [add_mul, div_mul_cancel₀ _ apart, mul_comm]
    exact_mod_cast Nat.div_add_mod (m * 2 ^ 53) n
  have powers : (2 ^ (e - f - 53) * 2 ^ f * 2 ^ 53 : ℚ) = 2 ^ e := by
    rw [← zpow_natCast 2 53, ← zpow_add₀ two_ne_zero, ← zpow_add₀ two_ne_zero]
    congr 1
    omega
  generalize ((m * 2 ^ 53 / n : Nat) + (m * 2 ^ 53 % n : Nat) / n : ℚ) = r at whole
  rw [eq_div_iff (mul_ne_zero apart (zpow_pos two_pos f).ne')]
  calc r * 2 ^ (e - f - 53) * (n * 2 ^ f)
      = r * n * (2 ^ (e - f - 53) * 2 ^ f) := by ring
    _ = m * (2 ^ (e - f - 53) * 2 ^ f * 2 ^ 53) := by rw [whole]; ring
    _ = m * 2 ^ e := by rw [powers]

/-- A quotient is at most half a unit of its last digit away from the one of the worths. -/
theorem div_near {x y : Float} {negative : Bool} {m n : Nat} {e f : Int} (left : ofFloat x = .finite negative m e)
    (right : ofFloat y = .finite false n f) (full : 2 ^ 52 ≤ m) (also : 2 ^ 52 ≤ n) (low : -1021 ≤ e - f)
    (high : e - f ≤ 1000) : ∃ q g, ofFloat (x / y) = .finite negative q g ∧ 2 ^ 52 ≤ q ∧ q < 2 ^ 53 ∧
      |(q * 2 ^ g : ℚ) - m * 2 ^ e / (n * 2 ^ f)| ≤ 2 ^ g / 2 := by
  obtain ⟨s, sign, dividend⟩ := unpacked_of_exact left (by omega)
  obtain ⟨t, plain, divisor⟩ := unpacked_of_exact right (by omega)
  have short := (canonical_of_exact left (by omega)).short
  have brief := (canonical_of_exact right (by omega)).short
  have core := divCore_full (e := e) (f := f) ((Nat.log2_eq_iff (by omega)).mpr ⟨full, short⟩)
    ((Nat.log2_eq_iff (by omega)).mpr ⟨also, brief⟩) low
  rw [Nat.shiftLeft_eq] at core
  have some : 0 < n := by omega
  have lowest : -1074 ≤ e - f - 53 := by omega
  have least : 2 ^ 52 ≤ m * 2 ^ 53 / n := (Nat.le_div_iff_mul_le some).mpr (by omega)
  have most : m * 2 ^ 53 / n < 2 ^ 54 := (Nat.div_lt_iff_lt_mul some).mpr (by omega)
  have log : (m * 2 ^ 53 / n).log2 < 54 := (Nat.log2_lt (by omega)).mpr most
  obtain ⟨q, g, more, rounded, large, small, lower, upper, near⟩ :=
    round_near (s / t) (marks_fraction (m * 2 ^ 53 / n) (Nat.mod_lt (m * 2 ^ 53) some)) least lowest
  have packed : (x / y).toModel.unpack = .finite s q g more := by
    have made : (x / y).toModel.unpack =
        (Float.Model.pack (UnpackedFloat.div Format.binary64 x.toModel.unpack y.toModel.unpack)).unpack := rfl
    have same : s / t = s := by
      cases t with
      | negative => exact nomatch plain
      | positive => cases s <;> rfl
    rw [same] at rounded
    rw [made, dividend, divisor]
    change (Float.Model.pack (roundWithAccuracy Format.binary64 (s / t) (divCore Format.binary64 m e n f).1
      (divCore Format.binary64 m e n f).2.1 (divCore Format.binary64 m e n f).2.2)).unpack = _
    rw [core, same, rounded]
    exact unpack_pack s ⟨more, small, by omega, .inl large⟩ (by omega) more
  rw [fraction_worth some e f] at near
  exact ⟨q, g, sign ▸ ofFloat_finite packed, large, small, near⟩

end Exact
end TradingDesk
