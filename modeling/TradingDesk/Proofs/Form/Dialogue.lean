import TradingDesk.Form.LimitsDialogue
import TradingDesk.Proofs.Form.Answers
import TradingDesk.Proofs.Text.Lines

/-! The dialogue about the limits on any input. Lines that are refused, and one that settles the question, are a block;
the dialogue reads one block for each limit, or gives the edit up inside of a block. -/

namespace TradingDesk
namespace LimitsDialogue
open Text (trim)
open RiskLimits (modest)

/-- A line that has the question asked again. -/
structure Refused (f : LimitField) (line : String) : Prop where
  written : trim line ≠ ""
  other : trim line ≠ "q"
  unfit : ∀ x, ¬f.Fits (trim line) x

/-- The lines that one question reads, and the number that they give the limit, if they give one. -/
inductive Block (f : LimitField) : List String → Option Float → Prop
  | kept {line : String} (blank : trim line = "") : Block f [line] none
  | taken {line : String} {x : Float} (written : trim line ≠ "") (other : trim line ≠ "q")
    (fits : f.Fits (trim line) x) : Block f [line] (some x)
  | again {line : String} {block : List String} {answer : Option Float} (refused : Refused f line)
    (later : Block f block answer) : Block f (line :: block) answer

/-- One block for each limit in turn, and the numbers that they give. -/
inductive Blocks : List LimitField → List String → List (LimitField × Float) → Prop
  | done : Blocks [] [] []
  | next {f : LimitField} {fields : List LimitField} {block more : List String} {answer : Option Float}
    {given : List (LimitField × Float)} (first : Block f block answer) (others : Blocks fields more given) :
    Blocks (f :: fields) (block ++ more) ((answer.map (f, ·)).toList ++ given)

theorem Block.fits {f : LimitField} {block : List String} {answer : Option Float} (settled : Block f block answer) :
    ∀ x ∈ answer, ∃ text, f.Fits text x := by
  induction settled with
  | kept => exact nofun
  | taken written other fits => exact fun _ own => ⟨_, Option.some.inj own ▸ fits⟩
  | again refused later ih => exact ih

theorem Blocks.fits {fields : List LimitField} {block : List String} {given : List (LimitField × Float)}
    (blocks : Blocks fields block given) : ∀ g ∈ given, ∃ text, g.1.Fits text g.2 := by
  induction blocks with
  | done => exact nofun
  | next first others ih =>
    refine List.forall_mem_append.mpr ⟨fun g own => ?_, ih⟩
    obtain ⟨x, answered, rfl⟩ := Option.map_eq_some_iff.mp (Option.mem_toList.mp own)
    exact first.fits x answered

/-- The lines give the edit up before there is a block for each limit, with `q` or because they end. The lines behind
`q` are not read. -/
inductive GivenUp : List LimitField → List String → List String → Bool → Prop
  | ended {f : LimitField} (fields : List LimitField) {lines : List String} (refused : ∀ line ∈ lines, Refused f line) :
    GivenUp (f :: fields) lines [] true
  | quit {f : LimitField} (fields : List LimitField) {lines : List String} (refused : ∀ line ∈ lines, Refused f line)
    {q : String} (leave : trim q = "q") (rest : List String) : GivenUp (f :: fields) (lines ++ q :: rest) rest false
  | later {f : LimitField} {fields : List LimitField} {block lines rest : List String} {answer : Option Float}
    {ranOut : Bool} (first : Block f block answer) (others : GivenUp fields lines rest ranOut) :
    GivenUp (f :: fields) (block ++ lines) rest ranOut

/-- How a dialogue ends: with which editor, which lines were not read, and whether there were too few. -/
structure Ends (d : LimitsDialogue) (e : LimitsEditor) (rest : List String) (ranOut : Bool) : Prop where
  editor : d.editor = e
  rest : d.rest = rest
  ranOut : d.ranOut = ranOut

/-! One question. -/
section
variable {f : LimitField} (current l : RiskLimits)

theorem ends_again {line : String} (refused : Refused f line) {lines : List String} {e : LimitsEditor}
    {rest : List String} {ranOut : Bool} (ends : Ends (askField f current (.editing l) lines) e rest ranOut) :
    Ends (askField f current (.editing l) (line :: lines)) e rest ranOut := by
  obtain ⟨r, failed⟩ := setField_error refused.unfit l
  rw [askField_again current lines refused.written refused.other failed]
  exact ⟨ends.editor, ends.rest, ends.ranOut⟩

theorem ends_block {block : List String} {answer : Option Float} (settled : Block f block answer)
    (rest : List String) : Ends (askField f current (.editing l) (block ++ rest))
      (.editing (LimitField.drafted (answer.map (f, ·)).toList l)) rest false := by
  induction settled with
  | kept blank =>
    rw [List.singleton_append, askField_blank current rest blank]
    exact ⟨rfl, rfl, rfl⟩
  | taken written other fits =>
    rw [List.singleton_append, askField_taken current rest written other (setField_ok fits l)]
    exact ⟨rfl, rfl, rfl⟩
  | again refused later ih => exact ends_again current l refused ih

theorem ends_refused {lines : List String} (refused : ∀ line ∈ lines, Refused f line) {more : List String}
    {e : LimitsEditor} {rest : List String} {ranOut : Bool}
    (ends : Ends (askField f current (.editing l) more) e rest ranOut) :
    Ends (askField f current (.editing l) (lines ++ more)) e rest ranOut := by
  induction lines with
  | nil => exact ends
  | cons line lines ih =>
    obtain ⟨first, others⟩ := List.forall_mem_cons.mp refused
    exact ends_again current l first (ih others)

theorem ends_quit {q : String} (leave : trim q = "q") (rest : List String) :
    Ends (askField f current (.editing l) (q :: rest)) .viewing rest false := by
  rw [askField_quit current rest leave]
  exact ⟨rfl, rfl, rfl⟩

end

/-- Lines begin with a block, or they are refused up to a `q` or up to their end. -/
theorem block_cases (f : LimitField) (lines : List String) :
    (∃ block rest answer, lines = block ++ rest ∧ Block f block answer) ∨
      (∀ line ∈ lines, Refused f line) ∨
        ∃ refused q rest, lines = refused ++ q :: rest ∧ (∀ line ∈ refused, Refused f line) ∧ trim q = "q" := by
  induction lines with
  | nil => exact .inr (.inl nofun)
  | cons line lines ih =>
    by_cases blank : trim line = ""
    · exact .inl ⟨[line], lines, none, rfl, .kept blank⟩
    · by_cases leave : trim line = "q"
      · exact .inr (.inr ⟨[], line, lines, rfl, nofun, leave⟩)
      · by_cases fitting : ∃ x, f.Fits (trim line) x
        · obtain ⟨x, fits⟩ := fitting
          exact .inl ⟨[line], lines, some x, rfl, .taken blank leave fits⟩
        · have first : Refused f line := ⟨blank, leave, not_exists.mp fitting⟩
          rcases ih with ⟨block, rest, answer, rfl, settled⟩ | refused | ⟨refused, q, rest, rfl, others, left⟩
          · exact .inl ⟨line :: block, rest, answer, rfl, .again first settled⟩
          · exact .inr (.inl (List.forall_mem_cons.mpr ⟨first, refused⟩))
          · exact .inr (.inr ⟨line :: refused, q, rest, rfl, List.forall_mem_cons.mpr ⟨first, others⟩, left⟩)

/-! All questions. -/

theorem ends_onward {current l : RiskLimits} {f : LimitField} {lines rest : List String} {draft : RiskLimits}
    (first : Ends (askField f current (.editing l) lines) (.editing draft) rest false) (fields : List LimitField)
    {e : LimitsEditor} {more : List String} {ranOut : Bool}
    (later : Ends (ask current fields (.editing draft) rest) e more ranOut) :
    Ends (ask current (f :: fields) (.editing l) lines) e more ranOut := by
  rw [ask_onward fields first.editor, first.rest]
  exact ⟨later.editor, later.rest, later.ranOut⟩

theorem ends_closed {current l : RiskLimits} {f : LimitField} {lines rest : List String} {ranOut : Bool}
    (first : Ends (askField f current (.editing l) lines) .viewing rest ranOut) (fields : List LimitField) :
    Ends (ask current (f :: fields) (.editing l) lines) .viewing rest ranOut := by
  rw [ask_closed fields first.editor]
  exact first

theorem ends_blocks (current : RiskLimits) {fields : List LimitField} {block : List String}
    {given : List (LimitField × Float)} (blocks : Blocks fields block given) (l : RiskLimits) (rest : List String) :
    Ends (ask current fields (.editing l) (block ++ rest)) (.editing (LimitField.drafted given l)) rest false := by
  induction blocks generalizing l with
  | done => exact ⟨rfl, rfl, rfl⟩
  | next first others ih =>
    rw [List.append_assoc, LimitField.drafted_append]
    exact ends_onward (ends_block current l first _) _ (ih _)

theorem ends_givenUp (current : RiskLimits) {fields : List LimitField} {lines rest : List String} {ranOut : Bool}
    (givenUp : GivenUp fields lines rest ranOut) (l : RiskLimits) :
    Ends (ask current fields (.editing l) lines) .viewing rest ranOut := by
  induction givenUp generalizing l with
  | @ended f fields lines refused =>
    have ended : Ends (askField f current (.editing l) []) .viewing [] true := ⟨rfl, rfl, rfl⟩
    have ends := ends_refused current l refused ended
    rw [List.append_nil] at ends
    exact ends_closed ends fields
  | quit fields refused leave rest =>
    exact ends_closed (ends_refused current l refused (ends_quit current l leave rest)) fields
  | later first others ih => exact ends_onward (ends_block current l first _) _ (ih _)

/-- Any lines begin with a block for each limit, or give the edit up before. -/
theorem blocks_or_givenUp (fields : List LimitField) (lines : List String) :
    (∃ block rest given, lines = block ++ rest ∧ Blocks fields block given) ∨
      ∃ rest ranOut, GivenUp fields lines rest ranOut := by
  induction fields generalizing lines with
  | nil => exact .inl ⟨[], lines, [], rfl, .done⟩
  | cons f fields ih =>
    rcases block_cases f lines with ⟨block, rest, answer, rfl, first⟩ | refused | ⟨refused, q, rest, rfl, others, leave⟩
    · rcases ih rest with ⟨more, left, given, rfl, later⟩ | ⟨left, ranOut, later⟩
      · exact .inl ⟨block ++ more, left, _, (List.append_assoc ..).symm, .next first later⟩
      · exact .inr ⟨left, ranOut, .later first later⟩
    · exact .inr ⟨[], true, .ended fields refused⟩
    · exact .inr ⟨rest, false, .quit fields others leave rest⟩

/-- When the input begins with a block for each limit the dialogue reads just those, and the draft is the limits with the
numbers that they give. Otherwise the edit is given up and nothing can be saved. The end of the input ends its last line. -/
theorem dialogue_ends (text : String) (limits current : RiskLimits) :
    let lines := Text.lines text
    let d := run current (LimitsEditor.start limits) lines
    Text.Spells text lines ∧
      (∀ block rest given, lines = block ++ rest → Blocks LimitField.all block given →
        ∃ draft, (∀ l, LimitField.Applied given limits l ↔ l = draft) ∧ Ends d (.editing draft) rest false) ∧
      ((¬∃ block rest given, lines = block ++ rest ∧ Blocks LimitField.all block given) →
        GivenUp LimitField.all lines d.rest d.ranOut ∧ d.editor = .viewing ∧ ∀ now, d.editor.save now = none) := by
  intro lines d
  refine ⟨Text.spells_lines text, fun block rest given spelled blocks => ?_, fun unsettled => ?_⟩
  · have ends := ends_blocks current blocks limits rest
    rw [← spelled] at ends
    exact ⟨_, LimitField.applied_iff blocks.fits limits, ends⟩
  · obtain ⟨rest, ranOut, givenUp⟩ := (blocks_or_givenUp LimitField.all lines).resolve_left unsettled
    have ends := ends_givenUp current givenUp limits
    have closed : d.editor = .viewing := ends.editor
    rw [show d.rest = rest from ends.rest, show d.ranOut = ranOut from ends.ranOut, closed]
    exact ⟨givenUp, rfl, fun now => rfl⟩

/-- One question is asked again, three answers are taken, and a line is left. -/
def typed : String :=
  "0.3\nabc\n 0.03 \n\n12\n\n\n\n\nleft"

theorem typed_ends :
    let held := { modest with maxPortfolioDrawdown := 0.3, maxSingleTradeRisk := 0.03, maxOpenPositions := 12 }
    ∃ block given, Text.lines typed = block ++ ["left"] ∧ Blocks LimitField.all block given ∧
      LimitField.Applied given modest held ∧
      Ends (run modest (.start modest) (Text.lines typed)) (.editing held) ["left"] false := by
  intro held
  have drafted : (run modest (.start modest) (Text.lines typed)).editor.draft? = some held := by decide +kernel
  have left : (run modest (.start modest) (Text.lines typed)).rest = ["left"] := by decide +kernel
  obtain ⟨-, settled, unsettled⟩ := dialogue_ends typed modest modest
  by_cases begins : ∃ block rest given, Text.lines typed = block ++ rest ∧ Blocks LimitField.all block given
  · obtain ⟨block, rest, given, spelled, blocks⟩ := begins
    obtain ⟨draft, applied, ends⟩ := settled block rest given spelled blocks
    obtain rfl : rest = ["left"] := ends.rest.symm.trans left
    rw [ends.editor] at drafted
    obtain rfl : draft = held := Option.some.inj drafted
    exact ⟨block, given, spelled, blocks, (applied _).mpr rfl, ends⟩
  · rw [(unsettled begins).2.1] at drafted
    exact absurd drafted nofun

end LimitsDialogue
end TradingDesk
