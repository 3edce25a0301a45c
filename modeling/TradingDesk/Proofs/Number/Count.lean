import TradingDesk.Proofs.Number.Rounding
import TradingDesk.Proofs.Number.Whole

/-! Doubles that are whole numbers, and what is kept of them in 32 bits. -/

namespace TradingDesk
namespace Exact
open Float.Model Float.Model.UnpackedFloat

theorem isWhole_iff (m : Nat) (e : Int) : isWhole m e = true ↔ ∃ n : Nat, (m * 2 ^ e : ℚ) = n := by
  have some : ((quotient 1 m e).2 : ℚ) ≠ 0 := by exact_mod_cast (quotient_pos 1 m e).ne'
  have worth := quotient_worth 1 m e
  rw [Nat.cast_one, one_mul] at worth
  have divides : isWhole m e = true ↔ (quotient 1 m e).2 ∣ (quotient 1 m e).1 := by
    unfold isWhole
    rw [Nat.dvd_iff_mod_eq_zero]
    exact beq_iff_eq
  rw [divides]
  constructor
  · rintro ⟨n, product⟩
    refine ⟨n, mul_right_cancel₀ some ?_⟩
    rw [← worth, product, Nat.cast_mul, mul_comm]
  · rintro ⟨n, value⟩
    refine ⟨n, ?_⟩
    rw [value, mul_comm] at worth
    exact_mod_cast worth

theorem whole_eq {m n : Nat} {e : Int} (value : (m * 2 ^ e : ℚ) = n) : whole m e = n := by
  have worth := quotient_worth 1 m e
  rw [Nat.cast_one, one_mul, value] at worth
  have product : (quotient 1 m e).1 = n * (quotient 1 m e).2 := by exact_mod_cast worth
  change (quotient 1 m e).1 / (quotient 1 m e).2 = n
  rw [product, Nat.mul_div_cancel _ (quotient_pos 1 m e)]

theorem magnitude_eq {negative : Bool} {m : Nat} {e : Int} {a : ℚ} (worth : worth? (.finite negative m e) = some a)
    (positive : 0 ≤ a) : (m * 2 ^ e : ℚ) = a := by
  have unit : (0 : ℚ) ≤ m * 2 ^ e := mul_nonneg (Nat.cast_nonneg m) (zpow_pos two_pos e).le
  have value := Option.some.inj worth
  cases negative with
  | false =>
    rw [← value]
    simp
  | true =>
    have turned : -(m * 2 ^ e : ℚ) = a := by
      rw [← value]
      simp
    linarith

theorem hasNoFraction_iff {x : Float} {a : ℚ} (worth : (ofFloat x).worth? = some a) (positive : 0 ≤ a) :
    Number.hasNoFraction x = true ↔ ∃ n : Nat, a = n := by
  unfold Number.hasNoFraction
  cases exact : ofFloat x with
  | undefined => simp [exact, worth?] at worth
  | endless negative => simp [exact, worth?] at worth
  | finite negative m e =>
    rw [exact] at worth
    rw [← magnitude_eq worth positive]
    exact isWhole_iff m e

theorem roundToInt_whole (m : Nat) (e : Int) : roundToInt .positive m e = whole m e := by
  have shift : (0 - (e - ((e - 0).toNat : Int))).toNat = (-e).toNat := by omega
  unfold roundToInt decreaseExponent shiftToExponent
  dsimp only
  rw [shift, mantissa_shifted, Int.sub_zero]
  change ((m <<< e.toNat / 2 ^ (-e).toNat : Nat) : Int) = ((m * 1 * 2 ^ e.toNat / 2 ^ (-e).toNat : Nat) : Int)
  rw [Nat.shiftLeft_eq, Nat.mul_one]

theorem toInt_weighs {u : UnpackedFloat} {a : ℚ} {n : Nat} (weighs : Weighs u a) (value : a = n) (low high : Int) :
    u.toInt low high = n := by
  cases weighs with
  | zero s =>
    have none : n = 0 := by exact_mod_cast value.symm
    exact congrArg Int.ofNat none.symm
  | @positive m e some c =>
    change roundToInt .positive m e = n
    rw [roundToInt_whole, whole_eq value]
  | @negative m e some c =>
    have above : (0 : ℚ) < m * 2 ^ e := mul_pos (Nat.cast_pos.mpr some) (zpow_pos two_pos e)
    have count : (0 : ℚ) ≤ n := Nat.cast_nonneg n
    linarith

/-- A whole number keeps its worth in 32 bits, or becomes the largest one. -/
theorem toUInt32_worth {x : Float} {a : ℚ} {n : Nat} (worth : (ofFloat x).worth? = some a) (value : a = n) :
    x.toUInt32.toNat = min n 0xFFFFFFFF := by
  change (UInt32.ofNatClamp (x.toModel.unpack.toInt 0 (UInt32.size - 1)).toNat).toNat = _
  rw [toInt_weighs (weighs_of_worth worth) value, Int.toNat_natCast]
  unfold UInt32.ofNatClamp
  split
  · rename_i fits
    change n = _
    change n < 4294967296 at fits
    omega
  · rename_i large
    change 4294967295 = _
    change ¬n < 4294967296 at large
    omega

/-- Every whole number of 32 bits is a double. -/
theorem worth_toFloat32 (n : UInt32) : (ofFloat n.toFloat).worth? = some (n.toNat : ℚ) := by
  obtain ⟨a, worth, exact, -⟩ := worth_toFloat n.toUInt64
  have short := n.toNat_lt
  rw [show n.toUInt64.toNat = n.toNat from rfl] at exact
  rw [← exact (by omega)]
  exact worth

theorem toFloat_beq (m n : UInt32) : (m.toFloat == n.toFloat) = true ↔ m = n := by
  rw [eq_iff_worth (worth_toFloat32 m) (worth_toFloat32 n), Nat.cast_inj, UInt32.toNat_inj]

end Exact
end TradingDesk
