import Mathlib.Data.List.Basic
import TradingDesk.Json.Decoder
import TradingDesk.Json.Printer

/-! A text that was written between quotes is read back from them. -/

namespace TradingDesk
namespace Json

/-- What is read of a text up to its closing quote: the elements name the characters. -/
structure Unquotes (cs : List Char) (s : List Char) (rest : List Char) (es : List Element) : Prop where
  found : elements cs = (es, .closed, rest)
  named : characters .closed es = .ok s

section

variable {more s rest : List Char} {es : List Element} (later : Unquotes more s rest es)

include later

theorem Unquotes.letter {l c : Char} (names : namedChar? l = some c) (other : l ≠ 'u') :
    Unquotes ('\\' :: l :: more) (c :: s) rest (.named c :: es) := by
  refine ⟨?_, ?_⟩
  · rw [elements.eq_5 l more (fun _ _ _ _ _ same _ => other same) other, names, later.found]
  · rw [characters, later.named]
    rfl

theorem Unquotes.digits {a b c d : Char} {n : Nat} (value : hex4? a b c d = some n) (small : n < 0x20) :
    Unquotes ('\\' :: 'u' :: a :: b :: c :: d :: more) (Char.ofNat n :: s) rest (.unit n :: es) := by
  have low : isLow n = false := by
    unfold isLow
    rw [decide_eq_false (by omega), Bool.false_and]
  have high : isHigh n = false := by
    unfold isHigh
    rw [decide_eq_false (by omega), Bool.false_and]
  refine ⟨?_, ?_⟩
  · rw [elements.eq_3, value, later.found]
  · rw [characters.eq_def]
    simp only [low, high, later.named]
    rfl

theorem Unquotes.plain {c : Char} (quote : c ≠ '"') (slash : c ≠ '\\') (printed : ¬ c.toNat < 0x20) :
    Unquotes (c :: more) (c :: s) rest (.plain c :: es) := by
  refine ⟨?_, ?_⟩
  · rw [elements.eq_7 c more quote (fun _ _ _ _ _ same => absurd same slash) (fun _ same => absurd same slash)
      (fun _ _ same => absurd same slash) fun same => absurd same slash, if_neg printed, later.found]
  · rw [characters, later.named]
    rfl

end

theorem hex_control {n : Nat} (small : n < 0x20) :
    hex4? '0' '0' (hexDigit (n / 16)) (hexDigit (n % 16)) = some n := by
  have all : ∀ m < 0x20, hex4? '0' '0' (hexDigit (m / 16)) (hexDigit (m % 16)) = some m := by decide
  exact all n small

theorem Unquotes.escaped {more s rest : List Char} {es : List Element} (later : Unquotes more s rest es) (c : Char) :
    ∃ e, Unquotes (escaped c ++ more) (c :: s) rest (e :: es) := by
  unfold Json.escaped
  split
  · exact ⟨_, later.letter rfl (by decide)⟩
  · exact ⟨_, later.letter rfl (by decide)⟩
  · exact ⟨_, later.letter rfl (by decide)⟩
  · exact ⟨_, later.letter rfl (by decide)⟩
  · exact ⟨_, later.letter rfl (by decide)⟩
  · exact ⟨_, later.letter rfl (by decide)⟩
  · exact ⟨_, later.letter rfl (by decide)⟩
  · rename_i quote slash _ _ _ _ _
    split
    · rename_i small
      have digits := later.digits (hex_control small) small
      rw [Char.ofNat_toNat] at digits
      exact ⟨_, digits⟩
    · rename_i printed
      exact ⟨_, later.plain quote slash printed⟩

theorem reads_escaped (s rest : List Char) : ∃ es, Unquotes (s.flatMap Json.escaped ++ '"' :: rest) s rest es := by
  induction s with
  | nil => exact ⟨[], rfl, rfl⟩
  | cons c s ih =>
    obtain ⟨es, later⟩ := ih
    obtain ⟨e, reads⟩ := later.escaped c
    rw [List.flatMap_cons, List.append_assoc]
    exact ⟨e :: es, reads⟩

theorem quoted_escaped (s : String) (rest : List Char) :
    quoted (s.toList.flatMap escaped ++ '"' :: rest) = ⟨.ok s, none, rest⟩ := by
  obtain ⟨es, reads⟩ := reads_escaped s.toList rest
  have content : (characters .closed es).map String.ofList = .ok s := by
    rw [reads.named, Except.map, String.ofList_toList]
  unfold quoted
  rw [reads.found]
  exact congrArg (Quoted.mk · none rest) content

theorem skipBlank_cons {c : Char} (printed : isBlank c = false) (cs : List Char) : skipBlank (c :: cs) = c :: cs := by
  unfold skipBlank
  rw [List.dropWhile_cons, printed]
  rfl

theorem value_text (fuel : Nat) (s : String) (rest : List Char) :
    value (fuel + 1) ('"' :: (s.toList.flatMap escaped ++ '"' :: rest)) = (.text s, rest) := by
  rw [value, skipBlank_cons rfl]
  simp only [quoted_escaped]

theorem document_text (s : String) : Document.ofText (Json.text s).write = ⟨.text s, false⟩ := by
  have chars : (Json.text s).write.toList = '"' :: (s.toList.flatMap escaped ++ '"' :: []) := by
    change (writtenText s).toList = _
    rw [writtenText, String.toList_ofList]
    rfl
  unfold Document.ofText
  simp only [chars, value_text]
  rfl

/-- A text is read back as it was written. -/
theorem text_written (s : String) : Decoder.text.ofText (Json.text s).write = .ok s := by
  unfold Decoder.ofText
  rw [document_text]
  rfl

end Json
end TradingDesk
