import Mathlib
import TradingDesk.Proofs.Number.Whole

/-! Doubles that are equal to themselves: all but the undefined one. A whole number gives such a double. -/

namespace TradingDesk
namespace Exact
open Float.Model Float.Model.UnpackedFloat

theorem same_iff (x : Float) : (x == x) = true ↔ x.toModel.unpack ≠ .notANumber := by
  change x.toModel.unpack.beq x.toModel.unpack = true ↔ _
  rw [beq_iff_ne_notANumber_and_eq]
  simp

theorem same_of_finite {x : Float} (finite : x.isFinite = true) : (x == x) = true := by
  rw [same_iff]
  intro undefined
  change x.toModel.unpack.isFinite = true at finite
  rw [undefined] at finite
  exact absurd finite (by decide)

theorem pack_defined {u : UnpackedFloat} (defined : u ≠ .notANumber) : (Float.Model.pack u).unpack ≠ .notANumber := by
  change UnpackedFloat.unpack Format.binary64 (UnpackedFloat.pack Format.binary64 u) ≠ _
  rw [Ne, unpack_eq_notANumber_iff_of_valid valid_pack]
  intro same
  -- Only the infinities share the exponent of the undefined double, and their mantissa is another one.
  have exponent := congrArg unpackExponent same
  have mantissa := congrArg unpackMantissa same
  have endless (s : Sign) : unpackMantissa (packedInfinity Format.binary64 s) ≠ unpackMantissa (packedNaN _) := by
    unfold packedInfinity packedNaN
    rw [unpackMantissa_packComponents, unpackMantissa_packComponents]
    decide
  unfold packedNaN at exponent
  rw [unpackExponent_packComponents] at exponent
  cases u with
  | notANumber => exact defined rfl
  | infinity s => exact endless s mantissa
  | zero s =>
    unfold UnpackedFloat.pack packedZero at exponent
    rw [unpackExponent_packComponents] at exponent
    exact absurd exponent (by decide)
  | finite s m e some =>
    unfold UnpackedFloat.pack at exponent mantissa
    dsimp only at exponent mantissa
    split_ifs at exponent mantissa with large full
    · exact endless s mantissa
    · rw [unpackExponent_packComponents] at exponent
      have value := congrArg BitVec.toNat exponent
      rw [BitVec.toNat_ofNat] at value
      change ¬2048 ≤ _ at large
      change _ % 2048 = 2047 at value
      omega
    · rw [unpackExponent_packComponents] at exponent
      exact absurd exponent (by decide)

theorem round_defined (s : Sign) (m : Nat) (e : Int) (a : Accuracy) :
    roundWithAccuracy Format.binary64 s m e a ≠ .notANumber := by
  unfold roundWithAccuracy
  dsimp only
  split <;> nofun

theorem mul_defined {u v : UnpackedFloat} {a : ℚ} (weighs : Weighs u a) {s : Sign} {m : Nat} {e : Int} {some : 0 < m}
    (finite : v = .finite s m e some) : UnpackedFloat.mul Format.binary64 u v ≠ .notANumber := by
  subst finite
  cases weighs with
  | zero t => nofun
  | positive some c => exact round_defined _ _ _ _
  | negative some c => exact round_defined _ _ _ _

theorem ofNat_defined (n : Nat) : (Float.ofNat n).toModel.unpack ≠ .notANumber := by
  change (Float.ofScientific n false 0).toModel.unpack ≠ _
  unfold Float.ofScientific
  split
  · obtain ⟨a, worth, -⟩ := worth_toFloat n.toUInt64
    have one : (Float.ofBits 0x3FF0000000000000).toModel.unpack = .finite .positive (2 ^ 52) (-52) (by decide) := rfl
    exact pack_defined (mul_defined (weighs_of_worth worth) one)
  · refine pack_defined ?_
    change UnpackedFloat.ofScientific Format.binary64 n 0 ≠ .notANumber
    unfold UnpackedFloat.ofScientific
    split_ifs with none huge tiny whole
    · nofun
    · nofun
    · nofun
    · unfold UnpackedFloat.mul
      exact round_defined _ _ _ _
    · exact absurd (Int.le_refl 0) whole

theorem neg_same {x : Float} (same : (x == x) = true) : (-x == -x) = true := by
  rw [same_iff] at same ⊢
  change (Float.Model.pack x.toModel.unpack.neg).unpack ≠ _
  refine pack_defined ?_
  cases number : x.toModel.unpack with
  | notANumber => exact absurd number same
  | infinity s => nofun
  | zero s => nofun
  | finite s m e some => nofun

/-- The double nearest to a whole number is equal to itself. -/
theorem ofInt_same (k : Int) : (Float.ofInt k == Float.ofInt k) = true := by
  cases k with
  | ofNat n => exact (same_iff _).mpr (ofNat_defined n)
  | negSucc n => exact neg_same ((same_iff _).mpr (ofNat_defined (n + 1)))

end Exact
end TradingDesk
