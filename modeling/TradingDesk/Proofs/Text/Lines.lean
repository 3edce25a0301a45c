import TradingDesk.Text.Lines

/-! Lines are what a text is spelled with: each is ended by a line feed, the last one perhaps by the end of the text. -/

namespace TradingDesk
namespace Text

/-- The lines that are ended by a line feed, and what follows them if there is something. -/
def Spells (text : String) (lines : List String) : Prop :=
  ∃ complete last, (∀ line ∈ complete, '\n' ∉ line.toList) ∧ '\n' ∉ last.toList ∧
    text = String.join (complete.map (· ++ "\n")) ++ last ∧ lines = complete ++ if last = "" then [] else [last]

theorem linesOf_spelled (cs : List Char) : ∃ complete last, (∀ line ∈ complete, '\n' ∉ line) ∧ '\n' ∉ last ∧
    cs = complete.flatMap (· ++ ['\n']) ++ last ∧ linesOf cs = complete ++ if last = [] then [] else [last] := by
  induction cs with
  | nil => exact ⟨[], [], nofun, nofun, rfl, rfl⟩
  | cons c cs ih =>
    obtain ⟨complete, last, whole, open_, spelled, lines⟩ := ih
    unfold linesOf
    by_cases feed : c = '\n'
    · subst feed
      rw [if_pos rfl, lines]
      exact ⟨[] :: complete, last, List.forall_mem_cons.mpr ⟨nofun, whole⟩, open_, by rw [spelled]; rfl, rfl⟩
    · have within {line : List Char} (clean : '\n' ∉ line) : '\n' ∉ c :: line := by
        rw [List.mem_cons, not_or]
        exact ⟨Ne.symm feed, clean⟩
      rw [if_neg feed, lines]
      cases complete with
      | nil =>
        refine ⟨[], c :: last, nofun, within open_, by rw [spelled]; rfl, ?_⟩
        cases last <;> rfl
      | cons line complete =>
        obtain ⟨first, others⟩ := List.forall_mem_cons.mp whole
        exact ⟨(c :: line) :: complete, last, List.forall_mem_cons.mpr ⟨within first, others⟩, open_,
          by rw [spelled]; rfl, rfl⟩

theorem spells_lines (text : String) : Spells text (lines text) := by
  obtain ⟨complete, last, whole, open_, spelled, broken⟩ := linesOf_spelled text.toList
  refine ⟨complete.map String.ofList, String.ofList last, ?_, ?_, ?_, ?_⟩
  · intro line member
    obtain ⟨chars, inside, rfl⟩ := List.mem_map.mp member
    rw [String.toList_ofList]
    exact whole chars inside
  · rw [String.toList_ofList]
    exact open_
  · rw [← String.toList_inj, spelled]
    simp [String.toList_join, List.flatMap_map, Function.comp_def]
  · unfold lines
    rw [broken, List.map_append]
    cases last with
    | nil => simp
    | cons c rest => simp

end Text
end TradingDesk
