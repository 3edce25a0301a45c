import TradingDesk.Money
import TradingDesk.Proofs.Number.Packed
import TradingDesk.Proofs.Number.Places
import TradingDesk.Proofs.Number.Rounding

/-! Dollar amounts. The digits before the point stand in groups of three, counted from the right, so that only the first
group can be shorter; the commas between the groups are all that is added to the two-place text of the absolute value. -/

namespace TradingDesk
namespace Money

/-- What an amount is written with: groups of digits before the point, and the digits behind it. -/
structure Parts where
  first : List Char
  others : List (List Char)
  fraction : List Char

/-- What is left of a text without its commas. -/
def withoutCommas (text : List Char) : List Char :=
  text.filter (· != ',')

namespace Parts

def whole (p : Parts) : List Char :=
  p.first ++ p.others.flatten

def text (p : Parts) : List Char :=
  [','].intercalate (p.first :: p.others) ++ '.' :: p.fraction

/-- The number of cents. -/
def cents (p : Parts) : Nat :=
  Nat.ofDigitChars 10 (p.whole ++ p.fraction) 0

structure Proper (p : Parts) : Prop where
  some : 1 ≤ p.first.length
  few : p.first.length ≤ 3
  others : ∀ g ∈ p.others, g.length = 3
  fraction : p.fraction.length = 2
  digits : ∀ c ∈ p.whole ++ p.fraction, c.isDigit = true

end Parts

private theorem intercalate_longer (d : Char) (first : List Char) (others : List (List Char)) :
    [','].intercalate ((d :: first) :: others) = d :: [','].intercalate (first :: others) := by
  cases others with
  | nil => simp
  | cons next rest => rw [List.intercalate_cons_cons, List.intercalate_cons_cons, List.cons_append, List.cons_append]

private theorem flatten_threes {groups : List (List Char)} (three : ∀ g ∈ groups, g.length = 3) :
    groups.flatten.length % 3 = 0 := by
  induction groups with
  | nil => rfl
  | cons g rest ih =>
    obtain ⟨own, others⟩ := List.forall_mem_cons.mp three
    rw [List.flatten_cons, List.length_append, own, Nat.add_mod_left, ih others]

/-- A digit begins a new group where the digits after it make whole groups. -/
theorem grouped_groups {digits : List Char} (some : digits ≠ []) : ∃ first others,
    grouped digits = [','].intercalate (first :: others) ∧ first ++ others.flatten = digits ∧
    1 ≤ first.length ∧ first.length ≤ 3 ∧ ∀ g ∈ others, g.length = 3 := by
  induction digits with
  | nil => exact absurd rfl some
  | cons d rest ih =>
    by_cases last : rest = []
    · subst last
      exact ⟨[d], [], rfl, rfl, Nat.le_refl 1, Nat.le_add_left 1 2, nofun⟩
    · obtain ⟨first, others, text, whole, least, most, three⟩ := ih last
      have length : rest.length = first.length + others.flatten.length := by rw [← whole, List.length_append]
      have threes := flatten_threes three
      have more : rest.isEmpty = false := List.isEmpty_eq_false_iff.mpr last
      unfold grouped
      rw [more, Bool.not_false, Bool.true_and]
      split
      · rename_i divides
        have full : first.length = 3 := by
          have := eq_of_beq divides
          omega
        refine ⟨[d], first :: others, ?_, ?_, Nat.le_refl 1, Nat.le_add_left 1 2, ?_⟩
        · rw [List.intercalate_cons_cons, text]
          rfl
        · rw [List.flatten_cons, whole]
          rfl
        · exact List.forall_mem_cons.mpr ⟨full, three⟩
      · rename_i broken
        have short : first.length ≠ 3 := by
          intro full
          apply broken
          rw [beq_iff_eq]
          omega
        refine ⟨d :: first, others, ?_, congrArg (d :: ·) whole, Nat.le_add_left 1 _, ?_, three⟩
        · rw [intercalate_longer, text]
        · rw [List.length_cons]
          omega

/-- Nothing but commas is added. -/
theorem withoutCommas_grouped {digits : List Char} (plain : ∀ c ∈ digits, (c != ',') = true) :
    withoutCommas (grouped digits) = digits := by
  unfold withoutCommas
  induction digits with
  | nil => rfl
  | cons d rest ih =>
    obtain ⟨own, others⟩ := List.forall_mem_cons.mp plain
    unfold grouped
    split
    · rw [List.filter_cons, if_pos own, List.filter_cons, if_neg (by decide), ih others]
    · rw [List.filter_cons, if_pos own, ih others]

theorem ne_of_isDigit {c other : Char} (digit : c.isDigit = true) (apart : other.isDigit = false) :
    (c != other) = true := by
  rw [bne_iff_ne]
  rintro rfl
  exact absurd (digit.symm.trans apart) nofun

section

variable {x : Float} {m : Nat} {e : Int} (exact : Exact.ofFloat x = .finite false m e)

include exact

theorem toList_fixed : (Number.fixed 2 x).toList = Nat.toDigits 10 (Exact.units 100 m e / 10 ^ 2) ++
    '.' :: (Number.wide 2 (Exact.units 100 m e % 10 ^ 2)).toList := by
  rw [Number.fixed_eq exact, String.toList_append, Number.toList_withPoint Nat.two_pos]
  rfl

theorem toList_groupedFixed : (groupedFixed x).toList = grouped (Nat.toDigits 10 (Exact.units 100 m e / 10 ^ 2)) ++
    '.' :: (Number.wide 2 (Exact.units 100 m e % 10 ^ 2)).toList := by
  have digits : ∀ c ∈ Nat.toDigits 10 (Exact.units 100 m e / 10 ^ 2), (c != '.') = true :=
    fun c member => ne_of_isDigit (Number.isDigit_toDigits member) rfl
  unfold groupedFixed
  dsimp only
  rw [String.toList_ofList, toList_fixed exact, List.takeWhile_append_of_pos digits,
    List.dropWhile_append_of_pos digits]
  simp

/-- An amount that is not negative stands in groups, and is the cents that are nearest to it. -/
theorem groupedFixed_parts : ∃ p : Parts, p.Proper ∧ (groupedFixed x).toList = p.text ∧
    withoutCommas p.text = (Number.fixed 2 x).toList ∧ p.cents = Exact.units 100 m e := by
  have text := toList_groupedFixed exact
  have fixed := toList_fixed exact
  generalize Exact.units 100 m e = n at *
  have value := Number.value_withPoint Nat.two_pos n
  have places : (Number.wide 2 (n % 10 ^ 2)).toList.length = 2 :=
    Number.length_wide Nat.two_pos (Nat.mod_lt _ (by decide))
  have before : ∀ c ∈ Nat.toDigits 10 (n / 10 ^ 2), c.isDigit = true := fun c => Number.isDigit_toDigits
  have behind : ∀ c ∈ (Number.wide 2 (n % 10 ^ 2)).toList, c.isDigit = true := fun c => Number.isDigit_wide
  have some : Nat.toDigits 10 (n / 10 ^ 2) ≠ [] := Nat.toDigits_ne_nil
  generalize Nat.toDigits 10 (n / 10 ^ 2) = digits at *
  generalize (Number.wide 2 (n % 10 ^ 2)).toList = fraction at *
  obtain ⟨first, others, shown, whole, least, most, three⟩ := grouped_groups some
  have plain {c : Char} (digit : c.isDigit = true) : (c != ',') = true := ne_of_isDigit digit rfl
  refine ⟨⟨first, others, fraction⟩, ⟨least, most, three, places, ?_⟩, ?_, ?_, ?_⟩
  · change ∀ c ∈ first ++ others.flatten ++ fraction, c.isDigit = true
    rw [whole]
    exact List.forall_mem_append.mpr ⟨before, behind⟩
  · rw [text, shown]
    rfl
  · change withoutCommas ([','].intercalate (first :: others) ++ '.' :: fraction) = _
    have added := withoutCommas_grouped fun c member => plain (before c member)
    have kept : withoutCommas ('.' :: fraction) = '.' :: fraction :=
      List.filter_eq_self.mpr (List.forall_mem_cons.mpr ⟨rfl, fun c member => plain (behind c member)⟩)
    rw [← shown, withoutCommas, List.filter_append, ← withoutCommas, ← withoutCommas, added, kept, fixed]
  · change Nat.ofDigitChars 10 (first ++ others.flatten ++ fraction) 0 = n
    rw [whole, value]

end

theorem sign_of_worth {x : Float} {a : ℚ} (worth : (Exact.ofFloat x).worth? = some a) : x < 0 ↔ a < 0 :=
  Exact.lt_iff_worth worth Exact.zero_worth

theorem price_of_worth {x : Float} {a : ℚ} (worth : (Exact.ofFloat x).worth? = some a) {c : AssetClass}
    (other : c ≠ .forex) (large : 1 ≤ |a|) : price x c = usd x := by
  have one : (Exact.ofFloat 1).worth? = some 1 := by
    rw [show Exact.ofFloat 1 = .finite false (2 ^ 52) (-52) from by decide +kernel]
    norm_num [Exact.worth?]
  unfold price
  rw [if_neg other, if_neg (mt (Exact.lt_iff_worth (Exact.worth_abs worth) one).mp (not_lt.mpr large))]

/-- The amounts of a number are its sign, a dollar sign and the absolute value to the nearest cent, of which the digits
before the point stand in groups of three; the commas between them are all that is added. -/
theorem amounts_grouped {x : Float} (finite : x.isFinite = true) : ∃ a, (Exact.ofFloat x).worth? = some a ∧
    ∃ p : Parts, p.Proper ∧ withoutCommas p.text = (Number.fixed 2 x.abs).toList ∧ |(p.cents : ℚ) - 100 * (|a|)| ≤ 1 / 2 ∧
      (usd x).toList = (if a < 0 then ['-'] else []) ++ '$' :: p.text ∧
      (signedUsd x).toList = (if a < 0 then '-' else '+') :: '$' :: p.text ∧
      ∀ c, c ≠ .forex → 1 ≤ |a| → (price x c).toList = (if a < 0 then ['-'] else []) ++ '$' :: p.text := by
  obtain ⟨a, worth⟩ := (Exact.isFinite_iff x).mp finite
  obtain ⟨m, e, exact, size⟩ := Exact.ofFloat_abs worth
  obtain ⟨p, proper, text, plain, cents⟩ := groupedFixed_parts exact
  have near : |(p.cents : ℚ) - 100 * (|a|)| ≤ 1 / 2 := by
    rw [cents, ← size]
    exact Exact.units_near 100 m e
  have bare : (usd x).toList = (if a < 0 then ['-'] else []) ++ '$' :: p.text := by
    simp only [usd, String.toList_append, text, sign_of_worth worth]
    split <;> rfl
  have signed : (signedUsd x).toList = (if a < 0 then '-' else '+') :: '$' :: p.text := by
    simp only [signedUsd, String.toList_append, text, sign_of_worth worth]
    split <;> rfl
  refine ⟨a, worth, p, proper, plain, near, bare, signed, fun c other large => ?_⟩
  rw [price_of_worth worth other large, bare]

/-- Three groups, of which the first has one digit. -/
theorem amounts_grouped_millions : (-1234567.891 : Float).isFinite = true ∧ usd (-1234567.891) = "-$1,234,567.89" ∧
    ∃ p : Parts, p.Proper ∧ (usd (-1234567.891)).toList = '-' :: '$' :: p.text ∧
      price (-1234567.891) .equity = usd (-1234567.891) := by
  have finite : (-1234567.891 : Float).isFinite = true := by decide +kernel
  obtain ⟨a, worth, p, proper, -, -, bare, -, prices⟩ := amounts_grouped finite
  have below : a < 0 := (sign_of_worth worth).mp (by decide +kernel)
  have one : (Exact.ofFloat (-1)).worth? = some (-1) := by
    rw [show Exact.ofFloat (-1) = .finite true (2 ^ 52) (-52) from by decide +kernel]
    norm_num [Exact.worth?]
  have large : 1 ≤ |a| := by
    have under : a < -1 := (Exact.lt_iff_worth worth one).mp (by decide +kernel)
    rw [abs_of_neg below]
    linarith
  have priced := prices .equity (by decide) large
  rw [if_pos below] at bare priced
  exact ⟨finite, by decide +kernel, p, proper, bare, String.toList_inj.mp (priced.trans bare.symm)⟩

end Money
end TradingDesk
