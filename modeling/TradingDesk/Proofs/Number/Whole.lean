import TradingDesk.Proofs.Number.Nearest

/-! Whole numbers of 64 bits as doubles. Those of up to 53 binary digits keep their worth; longer ones are rounded. -/

namespace TradingDesk
namespace Exact
open Float.Model Float.Model.UnpackedFloat

/-- A significand of 53 digits or more is cut to 53, and is left alone when it has no more. -/
private theorem round_whole (s : Sign) (m : Nat) (e : Int) (full : 2 ^ 52 ≤ m) (low : -1074 ≤ e) :
    ∃ n f some, roundWithAccuracy Format.binary64 s m e .exact = .finite s n f some ∧
      2 ^ 52 ≤ n ∧ n < 2 ^ 53 ∧ e ≤ f ∧ f ≤ e + (m.log2 - 51 : Nat) ∧
      (m < 2 ^ 53 → n = m ∧ f = e) ∧ (2 ^ 53 ≤ m → e < f) := by
  have log : 52 ≤ m.log2 := (Nat.le_log2 (by omega)).mpr full
  obtain ⟨n, f, some, rounded, least, most, place⟩ := round_full s m e .exact full low
  refine ⟨n, f, some, rounded, least, most, by omega, by omega, fun short => ?_, fun many => ?_⟩
  · have none : m.log2 - 52 = 0 := by
      have := (Nat.log2_lt (by omega)).mpr short
      omega
    rw [none] at place
    have same : (ExtendedMantissa.ofMantissaAndAccuracy m .exact >>> 0).roundedMantissa = m := rfl
    rw [same] at place
    omega
  · have := (Nat.le_log2 (by omega)).mpr many
    omega

private theorem ofNat_full (n : Nat) (some : 0 < n) : UnpackedFloat.ofNat Format.binary64 n =
    roundWithAccuracy Format.binary64 .positive (n * 2 ^ (52 - n.log2)) (-(52 - n.log2 : Nat)) .exact := by
  have above : compare (n : Int) 0 = .gt := compare_gt_iff_gt.mpr (by exact_mod_cast some)
  have target : (-Format.binary64.targetExponent (totalExponent n 0)).toNat = 52 - n.log2 := by
    change (-max ((n.log2 : Int) + 1 + 0 - 53) (-1074)).toNat = _
    omega
  unfold UnpackedFloat.ofNat UnpackedFloat.ofInt UnpackedFloat.normalize
  simp only [above]
  unfold UnpackedFloat.round decreaseExponent
  simp only [Int.zero_sub, target, Int.toNat_natCast, Nat.shiftLeft_eq]

/-- Whole numbers of up to 53 digits are exact, and longer ones do not become shorter. -/
theorem worth_toFloat (n : UInt64) : ∃ a, (ofFloat n.toFloat).worth? = some a ∧
    (n.toNat < 2 ^ 53 → a = n.toNat) ∧ (2 ^ 53 ≤ n.toNat → 2 ^ 53 ≤ a) := by
  have bound := n.toNat_lt
  have made : n.toFloat.toModel.unpack = (Float.Model.pack (UnpackedFloat.ofNat Format.binary64 n.toNat)).unpack := rfl
  unfold ofFloat
  rw [made]
  rcases Nat.eq_zero_or_pos n.toNat with none | some
  · rw [none]
    refine ⟨0, ?_, fun _ => by simp, fun many => by omega⟩
    change Option.some ((1 : ℚ) * (0 : Nat) * 2 ^ (0 : Int)) = Option.some 0
    simp
  · have log : n.toNat.log2 < 64 := (Nat.log2_lt (by omega)).mpr bound
    have least := Nat.log2_self_le (n := n.toNat) (by omega)
    generalize n.toNat = n at *
    have filled : 2 ^ (n.log2 + (52 - n.log2)) ≤ n * 2 ^ (52 - n.log2) := by
      rw [Nat.pow_add]
      exact Nat.mul_le_mul_right _ least
    have full : 2 ^ 52 ≤ n * 2 ^ (52 - n.log2) :=
      (Nat.pow_le_pow_right Nat.two_pos (by omega)).trans filled
    have length : (n * 2 ^ (52 - n.log2)).log2 = n.log2 + (52 - n.log2) := by
      have most : n < 2 ^ (n.log2 + 1) := Nat.lt_log2_self
      refine (Nat.log2_eq_iff (by omega)).mpr ⟨filled, ?_⟩
      rw [Nat.add_right_comm, Nat.pow_add]
      exact Nat.mul_lt_mul_of_pos_right most (Nat.two_pow_pos _)
    obtain ⟨m, f, more, rounded, low, high, start, stop, exact, long⟩ :=
      round_whole .positive (n * 2 ^ (52 - n.log2)) (-(52 - n.log2 : Nat)) full (by omega)
    rw [ofNat_full n some, rounded, unpack_pack .positive ⟨more, high, by omega, .inl low⟩ (by omega) more]
    refine ⟨m * 2 ^ f, ?_, ?_, ?_⟩
    · change Option.some ((1 : ℚ) * m * 2 ^ f) = _
      rw [one_mul]
    · intro short
      have log : n.log2 < 53 := (Nat.log2_lt (by omega)).mpr short
      obtain ⟨rfl, rfl⟩ := exact ((Nat.log2_lt (by omega)).mp (by omega))
      push_cast
      rw [mul_assoc, zpow_neg, zpow_natCast, mul_inv_cancel₀ (by positivity), mul_one]
    · intro many
      have log : 53 ≤ n.log2 := (Nat.le_log2 (by omega)).mpr many
      have none : 52 - n.log2 = 0 := by omega
      rw [none] at long
      have raised : (2 : ℚ) ≤ 2 ^ f := by
        calc (2 : ℚ) = 2 ^ (1 : Int) := (zpow_one 2).symm
          _ ≤ 2 ^ f := zpow_le_zpow_right₀ one_le_two (by omega)
      have large : (2 : ℚ) ^ 52 ≤ m := by exact_mod_cast low
      have product : (2 : ℚ) ^ 52 * 2 ≤ m * 2 ^ f := mul_le_mul large raised (by norm_num) (Nat.cast_nonneg m)
      exact le_trans (by norm_num) product

end Exact
end TradingDesk
