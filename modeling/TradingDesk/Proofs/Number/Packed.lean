import TradingDesk.Proofs.Number.Worth

/-! Doubles in their bits. A number with a canonical significand and an exponent that is not too large is packed without
loss, so a double without its sign is worth the absolute value. -/

namespace TradingDesk
namespace Exact
open Float.Model Float.Model.UnpackedFloat

private theorem sign_packed (spec : Format) (s : Sign) (exponent : BitVec spec.exponentBits)
    (mantissa : BitVec spec.mantissaBitsWithoutImplicit) :
    Sign.ofBitVec (unpackSign (packComponents spec s exponent mantissa)) = s := by
  have kept : unpackSign (packComponents spec s exponent mantissa) = s.toBitVec := by
    refine BitVec.eq_of_getLsbD_eq fun i inside => ?_
    obtain rfl : i = 0 := by omega
    simp [unpackSign, packComponents, BitVec.getLsbD_append, BitVec.getElem_append]
  rw [kept]
  cases s <;> rfl

private theorem unpack_pack_full (s : Sign) (n : Nat) (f : Int) (some : 0 < n) (full : 2 ^ 52 ≤ n) (short : n < 2 ^ 53)
    (low : -1074 ≤ f) (high : f ≤ 971) :
    (Float.Model.pack (.finite s n f some)).unpack = .finite s n f some := by
  have log : n.log2 = 52 := (Nat.log2_eq_iff (by omega)).mpr ⟨full, short⟩
  obtain ⟨biased, value⟩ : ∃ biased : Nat, (biased : Int) = f + 1075 := ⟨(f + 1075).toNat, by omega⟩
  have exponent : (BitVec.ofNat 11 biased).toNat = biased := Nat.mod_eq_of_lt (by omega)
  have mantissa : (1#1 ++ BitVec.ofNat 52 n).toNat = n := by
    rw [toNat_implicit, BitVec.toNat_ofNat]
    omega
  have packed : UnpackedFloat.pack Format.binary64 (.finite s n f some) =
      packComponents Format.binary64 s (BitVec.ofNat 11 biased) (BitVec.ofNat 52 n) := by
    have sum : (f + Format.binary64.exponentBias + Format.binary64.mantissaBitsWithoutImplicit).toNat = biased := by
      change (f + 1023 + 52).toNat = biased
      omega
    unfold UnpackedFloat.pack
    simp only [sum, log]
    rw [if_neg (by change ¬2048 ≤ biased + 1; omega)]
    exact if_pos rfl
  change UnpackedFloat.unpack Format.binary64 (UnpackedFloat.pack Format.binary64 (.finite s n f some)) = _
  rw [packed]
  unfold UnpackedFloat.unpack
  simp only [unpackMantissa_packComponents, unpackExponent_packComponents, sign_packed]
  have apart {other : BitVec 11} (differs : biased ≠ other.toNat) : BitVec.ofNat 11 biased ≠ other := by
    rintro rfl
    exact differs exponent.symm
  have highest : BitVec.ofNat 11 biased ≠ -1#11 := apart (by change biased ≠ 2047; omega)
  have lowest : BitVec.ofNat 11 biased ≠ 0#11 := apart (by change biased ≠ 0; omega)
  rw [if_neg highest, if_neg lowest]
  congr 1
  rw [exponent]
  change (biased : Int) - 1075 = f
  omega

private theorem unpack_pack_low (s : Sign) (n : Nat) (some : 0 < n) (short : n < 2 ^ 52) :
    (Float.Model.pack (.finite s n (-1074) some)).unpack = .finite s n (-1074) some := by
  have log : n.log2 < 52 := (Nat.log2_lt (by omega)).mpr short
  have mantissa : (BitVec.ofNat 52 n).toNat = n := Nat.mod_eq_of_lt short
  have packed : UnpackedFloat.pack Format.binary64 (.finite s n (-1074) some) =
      packComponents Format.binary64 s 0#11 (BitVec.ofNat 52 n) := by
    have sum : (-1074 + Format.binary64.exponentBias + Format.binary64.mantissaBitsWithoutImplicit : Int).toNat = 1 := rfl
    unfold UnpackedFloat.pack
    simp only [sum]
    rw [if_neg (by decide)]
    exact if_neg (by change ¬n.log2 + 1 = 53; omega)
  change UnpackedFloat.unpack Format.binary64 (UnpackedFloat.pack Format.binary64 (.finite s n (-1074) some)) = _
  rw [packed]
  unfold UnpackedFloat.unpack
  simp only [unpackMantissa_packComponents, unpackExponent_packComponents, sign_packed]
  have other : BitVec.ofNat 52 n ≠ 0#52 := by
    intro same
    have := congrArg BitVec.toNat same
    rw [mantissa] at this
    change n = 0 at this
    omega
  rw [if_neg (by decide), if_pos trivial, dif_neg other]
  congr 1

theorem unpack_pack (s : Sign) {m : Nat} {e : Int} (c : Canonical m e) (high : e ≤ 971) (some : 0 < m) :
    (Float.Model.pack (.finite s m e some)).unpack = .finite s m e some := by
  by_cases full : 2 ^ 52 ≤ m
  · exact unpack_pack_full s m e some full c.short c.low high
  · obtain rfl := c.full.resolve_left full
    exact unpack_pack_low s m some (Nat.not_le.mp full)

theorem exponent_unpack {x : Float.Model} {s : Sign} {m : Nat} {e : Int} {some : 0 < m}
    (unpacked : x.unpack = .finite s m e some) : e ≤ 971 := by
  unfold Float.Model.unpack UnpackedFloat.unpack at unpacked
  dsimp only at unpacked
  split_ifs at unpacked with highest empty lowest zero
  · obtain ⟨-, -, rfl⟩ := UnpackedFloat.finite.inj unpacked
    rw [lowest]
    decide
  · obtain ⟨-, -, rfl⟩ := UnpackedFloat.finite.inj unpacked
    have below : (@unpackExponent Format.binary64 x.toBits.toBitVec).toNat < 2048 := BitVec.isLt _
    have other : (@unpackExponent Format.binary64 x.toBits.toBitVec).toNat ≠ 2047 :=
      fun same => highest (BitVec.eq_of_toNat_eq same)
    change ((@unpackExponent Format.binary64 x.toBits.toBitVec).toNat : Int) - 1075 ≤ 971
    omega

theorem unpack_pack_zero (s : Sign) : (Float.Model.pack (.zero s)).unpack = .zero s := by
  cases s <;> rfl

theorem ofFloat_finite {x : Float} {s : Sign} {m : Nat} {e : Int} {some : 0 < m}
    (unpacked : x.toModel.unpack = .finite s m e some) : ofFloat x = .finite (s == .negative) m e := by
  unfold ofFloat
  rw [unpacked]

theorem unpacked_of_exact {x : Float} {negative : Bool} {m : Nat} {e : Int} (exact : ofFloat x = .finite negative m e)
    (some : 0 < m) : ∃ s : Sign, (s == .negative) = negative ∧ x.toModel.unpack = .finite s m e some := by
  unfold ofFloat at exact
  cases unpacked : x.toModel.unpack with
  | infinity s => simp [unpacked] at exact
  | notANumber => simp [unpacked] at exact
  | zero s =>
    simp only [unpacked, Exact.finite.injEq] at exact
    omega
  | finite s n f more =>
    simp only [unpacked, Exact.finite.injEq] at exact
    obtain ⟨sign, rfl, rfl⟩ := exact
    exact ⟨s, sign, rfl⟩

theorem canonical_of_exact {x : Float} {negative : Bool} {m : Nat} {e : Int} (exact : ofFloat x = .finite negative m e)
    (some : 0 < m) : Canonical m e := by
  obtain ⟨s, -, unpacked⟩ := unpacked_of_exact exact some
  exact canonical_unpack _ _ _ _ _ unpacked

/-- Without its sign a double is worth the absolute value. -/
theorem ofFloat_abs {x : Float} {a : ℚ} (worth : (ofFloat x).worth? = some a) :
    ∃ m e, ofFloat x.abs = .finite false m e ∧ (m * 2 ^ e : ℚ) = |a| := by
  have made : x.abs.toModel.unpack = (Float.Model.pack x.toModel.unpack.abs).unpack := rfl
  have weighs := weighs_of_worth worth
  have size {s : Sign} {m : Nat} {e : Int} {some : 0 < m} (unpacked : x.toModel.unpack = .finite s m e some)
      (c : Canonical m e) : ofFloat x.abs = .finite false m e := by
    rw [unpacked] at made
    exact ofFloat_finite (made.trans (unpack_pack .positive c (exponent_unpack unpacked) some))
  have unit (m : Nat) (e : Int) : (0 : ℚ) ≤ m * 2 ^ e := mul_nonneg (Nat.cast_nonneg m) (zpow_pos two_pos e).le
  generalize unpacked : x.toModel.unpack = u at weighs
  cases weighs with
  | zero s =>
    rw [unpacked] at made
    refine ⟨0, 0, ?_, by simp⟩
    unfold ofFloat
    rw [made.trans (unpack_pack_zero .positive)]
    rfl
  | @positive m e some c => exact ⟨m, e, size unpacked c, (abs_of_nonneg (unit m e)).symm⟩
  | @negative m e some c => exact ⟨m, e, size unpacked c, by rw [abs_neg, abs_of_nonneg (unit m e)]⟩

theorem worth_abs {x : Float} {a : ℚ} (worth : (ofFloat x).worth? = some a) :
    (ofFloat x.abs).worth? = some |a| := by
  obtain ⟨m, e, exact, size⟩ := ofFloat_abs worth
  rw [exact, ← size]
  simp [worth?]

end Exact
end TradingDesk
