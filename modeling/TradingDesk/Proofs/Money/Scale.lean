import TradingDesk.Money
import TradingDesk.Proofs.Number.Nearest
import TradingDesk.Proofs.Number.Places
import TradingDesk.Proofs.Number.Rounding

/-! The scale of a volume. The suffix goes by the volume itself and the digits by what rounding leaves, so just below each
threshold a volume is shown as a thousand of the smaller unit. Everywhere else there are at most three digits. -/

namespace TradingDesk
namespace Money
open Exact (ofFloat worth? units)

/-- The digits that a text has before its point or its suffix. -/
def leading (text : String) : List Char :=
  (text.toList.dropWhile (· == '-')).takeWhile Char.isDigit

/-- Only billions are shown with more than three digits. -/
def KeepsScale (text : String) : Prop :=
  text.toList.getLast? = some 'B' ∨ (leading text).length ≤ 3

/-- A magnitude just below a threshold, and what is shown of it. -/
inductive Swells (r : ℚ) : String → Prop where
  | ones (low : 999.5 ≤ r) (high : r < 1000) : Swells r "1000"
  | thousands (low : 999950 ≤ r) (high : r < 1000000) : Swells r "1000.0K"
  | millions (low : 999950000 ≤ r) (high : r < 1000000000) : Swells r "1000.0M"

namespace Swells

variable {r : ℚ} {text : String}

theorem ones_iff (high : r < 1000) : Swells r text ↔ ¬r < 999.5 ∧ text = "1000" := by
  constructor
  · intro grown
    cases grown with
    | ones low high => exact ⟨not_lt.mpr low, rfl⟩
    | thousands low high => linarith
    | millions low high => linarith
  · rintro ⟨reached, rfl⟩
    exact .ones (not_lt.mp reached) high

theorem thousands_iff (low : 1000 ≤ r) (high : r < 1000000) : Swells r text ↔ ¬r < 999950 ∧ text = "1000.0K" := by
  constructor
  · intro grown
    cases grown with
    | ones low high => linarith
    | thousands low high => exact ⟨not_lt.mpr low, rfl⟩
    | millions low high => linarith
  · rintro ⟨reached, rfl⟩
    exact .thousands (not_lt.mp reached) high

theorem millions_iff (low : 1000000 ≤ r) (high : r < 1000000000) :
    Swells r text ↔ ¬r < 999950000 ∧ text = "1000.0M" := by
  constructor
  · intro grown
    cases grown with
    | ones low high => linarith
    | thousands low high => linarith
    | millions low high => exact ⟨not_lt.mpr low, rfl⟩
  · rintro ⟨reached, rfl⟩
    exact .millions (not_lt.mp reached) high

theorem high (grown : Swells r text) : r < 1000000000 := by
  cases grown with
  | ones low high => linarith
  | thousands low high => linarith
  | millions low high => exact high

end Swells

/-! Texts. -/

section

variable {negative : Bool} {n : Nat} {rest : List Char} {text : String}
  (parts : text.toList = (Number.minus negative).toList ++ (Nat.toDigits 10 n ++ rest))

include parts

theorem leading_digits (ends : ∀ c, rest.head? = some c → c.isDigit = false) : leading text = Nat.toDigits 10 n := by
  have digits : ∀ c ∈ Nat.toDigits 10 n, c.isDigit = true := fun c => Number.isDigit_toDigits
  have unsigned : (Nat.toDigits 10 n ++ rest).dropWhile (· == '-') = Nat.toDigits 10 n ++ rest := by
    cases own : Nat.toDigits 10 n with
    | nil => exact absurd own Nat.toDigits_ne_nil
    | cons c more =>
      refine List.dropWhile_cons_of_neg ?_
      rintro sign
      obtain rfl : c = '-' := eq_of_beq sign
      exact absurd (digits '-' (own ▸ List.mem_cons_self)) (by decide)
  have start : text.toList.dropWhile (· == '-') = Nat.toDigits 10 n ++ rest := by
    rw [parts]
    cases negative with
    | false => exact unsigned
    | true => exact unsigned
  have stops : rest.takeWhile Char.isDigit = [] := by
    cases rest with
    | nil => rfl
    | cons c more => exact List.takeWhile_cons_of_neg (Bool.eq_false_iff.mp (ends c rfl))
  unfold leading
  rw [start, List.takeWhile_append_of_pos digits, stops, List.append_nil]

theorem keepsScale_iff (ends : ∀ c, rest.head? = some c → c.isDigit = false) (other : rest.getLast? ≠ some 'B') :
    KeepsScale text ↔ n < 1000 := by
  have unlike : text.toList.getLast? ≠ some 'B' := by
    rw [parts, List.getLast?_append, List.getLast?_append]
    intro billions
    cases last : rest.getLast? with
    | some c =>
      rw [last, Option.some_or, Option.some_or] at billions
      exact other (last.trans billions)
    | none =>
      have digit : (Nat.toDigits 10 n).getLast? = some ((Nat.toDigits 10 n).getLast Nat.toDigits_ne_nil) :=
        List.getLast?_eq_some_getLast _
      rw [last, Option.none_or, digit, Option.some_or] at billions
      have own := Number.isDigit_toDigits (List.getLast_mem (Nat.toDigits_ne_nil (n := n) (b := 10)))
      rw [Option.some.inj billions] at own
      exact absurd own (by decide)
  unfold KeepsScale
  rw [leading_digits parts ends, Nat.length_toDigits_le_iff (by decide) (by decide)]
  exact or_iff_right unlike

end

/-- One place and a suffix that is not the one of billions. -/
theorem compact_scale {x : Float} {negative : Bool} {m : Nat} {e : Int} (exact : ofFloat x = .finite negative m e)
    (most : units 10 m e ≤ 10000) {suffix : String} {c : Char} (one : suffix.toList = [c]) (other : c ≠ 'B') :
    (KeepsScale (Number.fixed 1 x ++ suffix) ↔ units 10 m e < 10000) ∧
      (¬units 10 m e < 10000 → Number.fixed 1 x ++ suffix = Number.minus negative ++ ("1000.0" ++ suffix)) := by
  have text : Number.fixed 1 x = Number.minus negative ++ Number.withPoint 1 (units 10 m e) := Number.fixed_eq exact 1
  generalize units 10 m e = u at *
  constructor
  · have parts : (Number.fixed 1 x ++ suffix).toList = (Number.minus negative).toList ++
        (Nat.toDigits 10 (u / 10 ^ 1) ++ '.' :: ((Number.wide 1 (u % 10 ^ 1)).toList ++ [c])) := by
      rw [text, String.toList_append, String.toList_append, one, Number.toList_withPoint Nat.one_pos, List.append_assoc,
        List.append_assoc]
      rfl
    rw [keepsScale_iff parts]
    · omega
    · rintro _ ⟨⟩
      rfl
    · rw [← List.cons_append, List.getLast?_concat]
      exact fun same => other (Option.some.inj same)
  · intro reached
    obtain rfl : u = 10000 := by omega
    rw [text, String.append_assoc]
    rfl

/-! Rounded quotients. -/

/-- A number below a thousand is shown as less than a thousand if it is below 999.95, and by one place as a thousand
otherwise. Its nearest double is on the same side unless it is closer to 999.95 than doubles are to each other. -/
theorem units_quotient {q : Nat} {g : Int} {r : ℚ} (full : 2 ^ 52 ≤ q) (short : q < 2 ^ 53)
    (near : |(q * 2 ^ g : ℚ) - r| ≤ 2 ^ g / 2) (high : r < 1000)
    (gap : r < 99995 / 100 → r + 2 ^ (-44 : Int) < 99995 / 100) :
    (units 10 q g < 10000 ↔ r < 99995 / 100) ∧ units 10 q g ≤ 10000 := by
  have least : (2 ^ 52 : ℚ) ≤ q := by exact_mod_cast full
  have unit : (0 : ℚ) < 2 ^ g := zpow_pos two_pos g
  have large : (2 ^ 52 * 2 ^ g : ℚ) ≤ q * 2 ^ g := mul_le_mul_of_nonneg_right least unit.le
  obtain ⟨under, above⟩ := abs_le.mp near
  have coarse : g < -42 := by
    refine Exact.exponent_lt full ?_
    norm_num at large ⊢
    linarith
  have fine : (2 ^ g : ℚ) ≤ 2 ^ (-43 : Int) := zpow_le_zpow_right₀ one_le_two (by omega)
  have bound : (2 ^ (-43 : Int) : ℚ) < 0.001 := by norm_num
  constructor
  · rw [Exact.units_lt_iff (by decide)]
    push_cast
    constructor
    · intro less
      by_contra reached
      rw [not_lt] at reached
      have exact : -44 < g := by
        refine Exact.lt_exponent short ?_
        norm_num at bound fine ⊢
        linarith
      obtain rfl : g = -43 := by omega
      -- The double that is nearest to 999.95 is above it.
      have many : 8795653217556889 < q := by
        have far : (8795653217556889 : ℚ) < q := by
          norm_num at under
          linarith
        exact_mod_cast far
      have most : (8795653217556890 : ℚ) ≤ q := by exact_mod_cast many
      norm_num at less
      linarith
    · intro less
      have apart := gap less
      norm_num at apart fine
      linarith
  · have rounded := (abs_le.mp (Exact.units_near 10 q g)).2
    have few : (units 10 q g : ℚ) < (10000 + 1 : Nat) := by
      push_cast at rounded ⊢
      linarith
    exact Nat.lt_succ_iff.mp (by exact_mod_cast few)

/-- A unit that volumes are counted in, and how far doubles are apart about 999.95 of it. -/
structure Divisor (unit : Float) (c : ℚ) : Prop where
  exact : ∃ n f, ofFloat unit = .finite false n f ∧ 2 ^ 52 ≤ n ∧ (n * 2 ^ f : ℚ) = c
  large : 1000 ≤ c
  small : c ≤ 1000000
  dense : ∃ (k : Nat) (h : Int), 2 ^ 52 ≤ k ∧ ((k + 1 : Nat) * 2 ^ h : ℚ) = 99995 / 100 * c ∧ c * 2 ^ (-44 : Int) < 2 ^ h

/-- The quotient by a unit, for volumes of up to a thousand units. -/
theorem volume_quotient {x unit : Float} {negative : Bool} {m : Nat} {e : Int} {r c : ℚ}
    (exact : ofFloat x = .finite negative m e) (size : (m * 2 ^ e : ℚ) = r) (divisor : Divisor unit c) (low : c ≤ r)
    (high : r < 1000 * c) : ∃ q g, ofFloat (x / unit) = .finite negative q g ∧
      (units 10 q g < 10000 ↔ r < 99995 / 100 * c) ∧ units 10 q g ≤ 10000 := by
  obtain ⟨⟨n, f, divisor, full, value⟩, large, small, ⟨k, h, dense, top, step⟩⟩ := divisor
  subst size
  have some : 0 < m := by
    rcases Nat.eq_zero_or_pos m with rfl | some
    · norm_num at low
      linarith
    · exact some
  have canonical := Exact.canonical_of_exact exact some
  have other := Exact.canonical_of_exact divisor (by omega)
  have above : -44 < e := Exact.lt_exponent canonical.short (by norm_num; linarith)
  have whole : 2 ^ 52 ≤ m := canonical.full.resolve_right (by omega)
  have below : e < -22 := Exact.exponent_lt whole (by norm_num; linarith)
  have least : -44 < f := Exact.lt_exponent other.short (by norm_num; linarith)
  have most : f < -32 := Exact.exponent_lt full (by norm_num; linarith)
  obtain ⟨q, g, divided, wide, short, near⟩ := Exact.div_near exact divisor whole full (by omega) (by omega)
  rw [value] at near
  have positive : 0 < c := by linarith
  -- Volumes below the one that is shown as 999.95 are at least the distance of two doubles below it.
  have gap (less : (m * 2 ^ e : ℚ) < 99995 / 100 * c) : (m * 2 ^ e : ℚ) ≤ 99995 / 100 * c - 2 ^ h := by
    rw [← top] at less ⊢
    have next := Exact.le_of_lt_succ canonical.short dense less
    push_cast
    linarith
  generalize (m * 2 ^ e : ℚ) = r at *
  have side : r / c < 99995 / 100 ↔ r < 99995 / 100 * c := div_lt_iff₀ positive
  have apart (less : r / c < 99995 / 100) : r / c + 2 ^ (-44 : Int) < 99995 / 100 := by
    have lower := gap (side.mp less)
    rw [← lt_sub_iff_add_lt, div_lt_iff₀ positive, sub_mul, mul_comm _ c, mul_comm _ c]
    generalize c * 2 ^ (-44 : Int) = t at *
    linarith
  obtain ⟨same, bounded⟩ := units_quotient wide short near ((div_lt_iff₀ positive).mpr high) apart
  exact ⟨q, g, divided, same.trans side, bounded⟩

theorem thousand_exact : ofFloat thousand = .finite false (1000 * 2 ^ 43) (-43) := by decide +kernel

theorem thousand_divisor : Divisor thousand 1000 where
  exact := ⟨_, _, thousand_exact, by decide, by norm_num⟩
  large := le_rfl
  small := by norm_num
  dense := ⟨999950 * 2 ^ 33 - 1, -33, by decide, by norm_num, by norm_num⟩

theorem million_exact : ofFloat million = .finite false (1000000 * 2 ^ 33) (-33) := by decide +kernel

theorem million_divisor : Divisor million 1000000 where
  exact := ⟨_, _, million_exact, by decide, by norm_num⟩
  large := by norm_num
  small := le_rfl
  dense := ⟨999950000 * 2 ^ 23 - 1, -23, by decide, by norm_num, by norm_num⟩

theorem billion_exact : ofFloat billion = .finite false (1000000000 * 2 ^ 23) (-23) := by decide +kernel

theorem volume_of_worth {x : Float} {a : ℚ} (worth : (ofFloat x).worth? = some a) : volume x =
    if 1000000000 ≤ |a| then Number.fixed 1 (x / billion) ++ "B"
    else if 1000000 ≤ |a| then Number.fixed 1 (x / million) ++ "M"
    else if 1000 ≤ |a| then Number.fixed 1 (x / thousand) ++ "K"
    else Number.fixed 0 x := by
  have size := Exact.worth_abs worth
  have thousands : (ofFloat thousand).worth? = some 1000 := by
    rw [thousand_exact]
    norm_num [worth?]
  have millions : (ofFloat million).worth? = some 1000000 := by
    rw [million_exact]
    norm_num [worth?]
  have billions : (ofFloat billion).worth? = some 1000000000 := by
    rw [billion_exact]
    norm_num [worth?]
  simp only [volume, Exact.le_iff_worth billions size, Exact.le_iff_worth millions size,
    Exact.le_iff_worth thousands size]

/-- What is shown of a number swells where its magnitude does, and keeps its scale everywhere else. -/
structure Scaled (a : ℚ) (shown : String) : Prop where
  keeps : KeepsScale shown ↔ ∀ text, ¬Swells |a| text
  swells : ∀ text, Swells |a| text → shown = (if a < 0 then "-" else "") ++ text

theorem scaled_of {a : ℚ} {shown : String} {below : Prop} (whole : String)
    (only : ∀ text, Swells |a| text ↔ ¬below ∧ text = whole) (keeps : KeepsScale shown ↔ below)
    (swells : ¬below → shown = (if a < 0 then "-" else "") ++ whole) : Scaled a shown := by
  refine ⟨keeps.trans ⟨fun less text grown => ((only text).mp grown).1 less, fun none => ?_⟩, fun text grown => ?_⟩
  · by_contra reached
    exact none whole ((only whole).mpr ⟨reached, rfl⟩)
  · obtain ⟨reached, rfl⟩ := (only text).mp grown
    exact swells reached

theorem scaled_compact {q : Float} {negative : Bool} {m : Nat} {e : Int} {a limit : ℚ}
    (exact : ofFloat q = .finite negative m e) (same : units 10 m e < 10000 ↔ |a| < limit) (most : units 10 m e ≤ 10000)
    (sign : Number.minus negative = if a < 0 then "-" else "") {suffix : String} {c : Char} (one : suffix.toList = [c])
    (other : c ≠ 'B') (only : ∀ text, Swells |a| text ↔ ¬|a| < limit ∧ text = "1000.0" ++ suffix) :
    Scaled a (Number.fixed 1 q ++ suffix) := by
  obtain ⟨keeps, swells⟩ := compact_scale exact most one other
  rw [sign] at swells
  exact scaled_of _ only (keeps.trans same) fun reached => swells (mt same.mp reached)

/-- Without a suffix there are no places. -/
theorem scaled_whole {x : Float} {negative : Bool} {m : Nat} {e : Int} {a : ℚ} (exact : ofFloat x = .finite negative m e)
    (size : (m * 2 ^ e : ℚ) = |a|) (small : |a| < 1000)
    (sign : a ≠ 0 → Number.minus negative = if a < 0 then "-" else "") : Scaled a (Number.fixed 0 x) := by
  have text : Number.fixed 0 x = Number.minus negative ++ toString (units 1 m e) := Number.fixed_eq exact 0
  have same : units 1 m e < 1000 ↔ |a| < 999.5 := by
    rw [Exact.units_lt_iff (by decide), size]
    norm_num
  have most : units 1 m e ≤ 1000 := by
    have bounded := Exact.units_le 1 m 1000 e (by rw [size]; exact small.le)
    rwa [Nat.mul_one] at bounded
  have parts : (Number.fixed 0 x).toList = (Number.minus negative).toList ++ (Nat.toDigits 10 (units 1 m e) ++ []) := by
    rw [text, String.toList_append, Nat.toString_eq_repr, Nat.toList_repr, List.append_nil]
  have keeps := (keepsScale_iff parts nofun nofun).trans same
  refine scaled_of "1000" (fun _ => Swells.ones_iff small) keeps fun reached => ?_
  have full : units 1 m e = 1000 := Nat.le_antisymm most (Nat.not_lt.mp (mt same.mp reached))
  have apart : a ≠ 0 := by
    rintro rfl
    norm_num at reached
  rw [text, full, sign apart]
  rfl

theorem exact_of_worth {x : Float} {a : ℚ} (worth : (ofFloat x).worth? = some a) : ∃ negative m e,
    ofFloat x = .finite negative m e ∧ (m * 2 ^ e : ℚ) = |a| ∧
      (a ≠ 0 → Number.minus negative = if a < 0 then "-" else "") := by
  cases exact : ofFloat x with
  | undefined => simp [exact, worth?] at worth
  | endless negative => simp [exact, worth?] at worth
  | finite negative m e =>
    rw [exact] at worth
    have value := Option.some.inj worth
    have unit : (0 : ℚ) ≤ m * 2 ^ e := mul_nonneg (Nat.cast_nonneg m) (zpow_pos two_pos e).le
    cases negative with
    | false =>
      obtain rfl : (m * 2 ^ e : ℚ) = a := by simpa using value
      exact ⟨false, m, e, rfl, (abs_of_nonneg unit).symm, fun _ => (if_neg (not_lt.mpr unit)).symm⟩
    | true =>
      obtain rfl : -(m * 2 ^ e : ℚ) = a := by simpa using value
      refine ⟨true, m, e, rfl, by rw [abs_neg, abs_of_nonneg unit], fun some => (if_pos ?_).symm⟩
      exact lt_of_le_of_ne (neg_nonpos.mpr unit) some

/-- The scale is kept except just below a threshold, where a thousand of the smaller unit is shown. -/
theorem volume_scale {x : Float} (finite : x.isFinite = true) :
    ∃ a, (ofFloat x).worth? = some a ∧ Scaled a (volume x) := by
  obtain ⟨a, worth⟩ := (Exact.isFinite_iff x).mp finite
  obtain ⟨negative, m, e, exact, size, sign⟩ := exact_of_worth worth
  refine ⟨a, worth, ?_⟩
  rw [volume_of_worth worth]
  split_ifs with billions millions thousands
  · have none (text : String) : ¬Swells |a| text := fun grown => not_lt.mpr billions grown.high
    have last : (Number.fixed 1 (x / billion) ++ "B").toList.getLast? = some 'B' := by
      rw [String.toList_append, List.getLast?_append]
      rfl
    exact ⟨iff_of_true (.inl last) none, fun text grown => absurd grown (none text)⟩
  · have apart : a ≠ 0 := abs_pos.mp (by linarith)
    obtain ⟨q, g, divided, same, most⟩ := volume_quotient exact size million_divisor millions (by linarith)
    norm_num only at same
    exact scaled_compact divided same most (sign apart) rfl (by decide)
      fun _ => Swells.millions_iff millions (not_le.mp billions)
  · have apart : a ≠ 0 := abs_pos.mp (by linarith)
    obtain ⟨q, g, divided, same, most⟩ := volume_quotient exact size thousand_divisor thousands (by linarith)
    norm_num only at same
    exact scaled_compact divided same most (sign apart) rfl (by decide)
      fun _ => Swells.thousands_iff thousands (not_le.mp millions)
  · exact scaled_whole exact size (not_le.mp thousands) sign

/-- Just below the volumes that are shown as a thousand thousands. -/
theorem volume_scale_below : (999949 : Float).isFinite = true ∧ KeepsScale (volume 999949) := by
  have finite : (999949 : Float).isFinite = true := by decide +kernel
  obtain ⟨a, worth, scaled⟩ := volume_scale finite
  rw [show ofFloat 999949 = .finite false (999949 * 2 ^ 33) (-33) from by decide +kernel] at worth
  obtain rfl : 999949 = a := by
    norm_num [worth?] at worth
    exact worth
  refine ⟨finite, scaled.keeps.mpr fun text grown => ?_⟩
  cases grown <;> norm_num at *

/-- A volume of a thousand thousands less one is not shown as a million. -/
theorem volume_thousand_thousands : volume 999999 = "1000.0K" ∧ ¬KeepsScale (volume 999999) := by
  have shown : volume 999999 = "1000.0K" := by decide +kernel
  refine ⟨shown, ?_⟩
  rw [shown]
  unfold KeepsScale
  decide

end Money
end TradingDesk
