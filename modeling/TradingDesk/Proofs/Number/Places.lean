import Mathlib.Algebra.Group.Nat.Defs
import TradingDesk.Number.Written

/-! Numbers that are written with a fixed number of places: digits before the point, as many digits behind it, and all of
them together are the number in units of the last place. -/

namespace TradingDesk
namespace Number

theorem toList_wide (width n : Nat) : (wide width n).toList =
    List.replicate (width - (Nat.toDigits 10 n).length) '0' ++ Nat.toDigits 10 n := by
  have length : (toString n).length = (Nat.toDigits 10 n).length := by
    rw [← String.length_toList, Nat.toString_eq_repr, Nat.toList_repr]
  unfold wide zeros
  rw [String.toList_append, String.toList_ofList, length, Nat.toString_eq_repr, Nat.toList_repr]

section

variable {width n : Nat}

theorem length_wide (some : 0 < width) (short : n < 10 ^ width) : (wide width n).toList.length = width := by
  have fits := (Nat.length_toDigits_le_iff (by decide) some).mpr short
  rw [toList_wide, List.length_append, List.length_replicate, Nat.sub_add_cancel fits]

theorem isDigit_toDigits {c : Char} (member : c ∈ Nat.toDigits 10 n) : c.isDigit = true :=
  Nat.isDigit_of_mem_toDigits (by decide) (by decide) member

theorem isDigit_wide {c : Char} (member : c ∈ (wide width n).toList) : c.isDigit = true := by
  rw [toList_wide, List.mem_append] at member
  rcases member with zero | digit
  · rw [List.eq_of_mem_replicate zero]
    rfl
  · exact isDigit_toDigits digit

theorem value_wide : Nat.ofDigitChars 10 (wide width n).toList 0 = n := by
  rw [toList_wide, Nat.ofDigitChars_append, Nat.ofDigitChars_replicate_zero, Nat.mul_zero,
    Nat.ofDigitChars_ten_toDigits]

end

theorem toList_withPoint {places : Nat} (some : 0 < places) (n : Nat) : (withPoint places n).toList =
    Nat.toDigits 10 (n / 10 ^ places) ++ '.' :: (wide places (n % 10 ^ places)).toList := by
  have split : withPoint places n = toString (n / 10 ^ places) ++ "." ++ wide places (n % 10 ^ places) :=
    if_neg fun none => Nat.ne_of_gt some (eq_of_beq none)
  rw [split, String.toList_append, String.toList_append, Nat.toString_eq_repr, Nat.toList_repr, List.append_assoc]
  rfl

/-- Without the point the digits are those of the number of units. -/
theorem value_withPoint {places : Nat} (some : 0 < places) (n : Nat) :
    Nat.ofDigitChars 10 (Nat.toDigits 10 (n / 10 ^ places) ++ (wide places (n % 10 ^ places)).toList) 0 = n := by
  have short : n % 10 ^ places < 10 ^ places := Nat.mod_lt _ (Nat.pow_pos (by decide))
  rw [Nat.ofDigitChars_append, Nat.ofDigitChars_eq_ofDigitChars_zero, value_wide, length_wide some short,
    Nat.ofDigitChars_ten_toDigits, Nat.div_add_mod]

theorem fixed_eq {x : Float} {negative : Bool} {m : Nat} {e : Int} (exact : Exact.ofFloat x = .finite negative m e)
    (places : Nat) : fixed places x = minus negative ++ withPoint places (Exact.units (10 ^ places) m e) := by
  unfold fixed
  rw [exact]
  rfl

end Number
end TradingDesk
