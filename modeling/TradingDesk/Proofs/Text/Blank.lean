import Mathlib
import TradingDesk.Text.Blank

/-! What trimming leaves of a text, and texts that spell a name in small and capital letters. -/

namespace TradingDesk
namespace Text

private theorem all_dropWhile {α : Type} (p : α → Bool) (l : List α) : (l.dropWhile p).all p = l.all p := by
  induction l with
  | nil => rfl
  | cons a rest ih =>
    cases yes : p a with
    | true => rw [List.dropWhile_cons_of_pos yes, ih, List.all_cons, yes, Bool.true_and]
    | false => rw [List.dropWhile_cons_of_neg (by simp [yes])]

theorem isBlankText_trim (text : String) : isBlankText (trim text) = isBlankText text := by
  unfold isBlankText trim trimChars trimRightChars trimLeftChars
  rw [String.toList_ofList, List.all_reverse, all_dropWhile, List.all_reverse, all_dropWhile]

theorem trim_empty_iff (text : String) : trim text = "" ↔ isBlankText text = true := by
  constructor
  · intro empty
    rw [← isBlankText_trim, empty]
    rfl
  · intro blank
    have none : text.toList.dropWhile isBlank = [] :=
      List.dropWhile_eq_nil_iff.mpr (List.all_eq_true.mp blank)
    unfold trim trimChars trimLeftChars
    rw [none]
    rfl

/-- The letters of the text are those of the name, each of them small or capital. -/
def InAnyCase (name text : String) : Prop :=
  List.Forall₂ (fun c letter => c = letter ∨ c = letter.toUpper) text.toList name.toList

private theorem toLower_eq_iff {letter : Char} (small : letter.isLower = true) (c : Char) :
    c.toLower = letter ↔ c = letter ∨ c = letter.toUpper := by
  constructor
  · rintro rfl
    by_cases capital : c.isUpper = true
    · right
      rw [Char.toUpper_toLower_eq_toUpper, Char.toUpper_eq_of_not_isLower (Char.not_isLower_of_isUpper capital)]
    · exact .inl (Char.toLower_eq_of_not_isUpper capital).symm
  · have same := Char.toLower_eq_of_not_isUpper (Char.not_isUpper_of_isLower small)
    rintro (rfl | rfl)
    · exact same
    · rw [Char.toLower_toUpper_eq_toLower, same]

private theorem map_toLower_iff {letters : List Char} (small : letters.all Char.isLower = true) (cs : List Char) :
    cs.map Char.toLower = letters ↔ List.Forall₂ (fun c letter => c = letter ∨ c = letter.toUpper) cs letters := by
  induction cs generalizing letters with
  | nil =>
    cases letters with
    | nil => simp
    | cons letter others => exact ⟨nofun, nofun⟩
  | cons c rest ih =>
    cases letters with
    | nil => exact ⟨nofun, nofun⟩
    | cons letter others =>
      rw [List.all_cons, Bool.and_eq_true] at small
      rw [List.map_cons, List.cons.injEq, List.forall₂_cons, toLower_eq_iff small.1, ih small.2]

theorem lowerAscii_iff {name : String} (small : name.toList.all Char.isLower = true) (text : String) :
    lowerAscii text = name ↔ InAnyCase name text := by
  unfold lowerAscii InAnyCase
  rw [← map_toLower_iff small, ← String.toList_inj, String.toList_ofList]

end Text
end TradingDesk
