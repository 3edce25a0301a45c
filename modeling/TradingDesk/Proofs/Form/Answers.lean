import TradingDesk.Desk.Risk
import TradingDesk.Proofs.Form.Limits

/-! Putting texts into the limits: all of a list at once, or as the answers to one question after the other. -/

namespace TradingDesk
open Desk (assignAll)

/-- Each text gives its field the number. -/
def Given (assignments : List (LimitField × String)) (given : List (LimitField × Float)) : Prop :=
  List.Forall₂ (fun a g => a.1 = g.1 ∧ a.1.Fits a.2 g.2) assignments given

theorem Given.fits {assignments : List (LimitField × String)} {given : List (LimitField × Float)}
    (all : Given assignments given) : ∀ g ∈ given, ∃ text, g.1.Fits text g.2 := by
  induction all with
  | nil => exact nofun
  | @cons a g _ _ first _ ih => exact List.forall_mem_cons.mpr ⟨⟨a.2, first.1 ▸ first.2⟩, ih⟩

theorem setField_ok {f : LimitField} {text : String} {x : Float} (fits : f.Fits text x) (l : RiskLimits) :
    (LimitsEditor.editing l).setField f text = .ok (.editing (f.set x l)) := by
  unfold LimitsEditor.setField
  rw [(f.accept_iff text x).mpr fits]
  rfl

theorem setField_error {f : LimitField} {text : String} (unfit : ∀ x, ¬f.Fits text x) (l : RiskLimits) :
    ∃ r, (LimitsEditor.editing l).setField f text = .error r := by
  unfold LimitsEditor.setField
  cases accepted : f.accept text with
  | error r => exact ⟨r, rfl⟩
  | ok x => exact absurd ((f.accept_iff text x).mp accepted) (unfit x)

/-- An input is put into the draft, or it fits no number. -/
theorem setField_cases (f : LimitField) (text : String) (l : RiskLimits) :
    (∃ x, f.Fits text x ∧ (LimitsEditor.editing l).setField f text = .ok (.editing (f.set x l))) ∨
      ∃ r, (∀ x, ¬f.Fits text x) ∧ (LimitsEditor.editing l).setField f text = .error r := by
  by_cases fitting : ∃ x, f.Fits text x
  · obtain ⟨x, fits⟩ := fitting
    exact .inl ⟨x, fits, setField_ok fits l⟩
  · rw [not_exists] at fitting
    obtain ⟨r, refused⟩ := setField_error fitting l
    exact .inr ⟨r, fitting, refused⟩

theorem assignAll_cons {a : LimitField × String} {e edited : LimitsEditor} (put : e.setField a.1 a.2 = .ok edited)
    (rest : List (LimitField × String)) : assignAll (a :: rest) e = assignAll rest edited := by
  unfold assignAll
  rw [List.foldlM_cons]
  change e.setField a.1 a.2 >>= _ = _
  rw [put]
  rfl

theorem assignAll_refused {a : LimitField × String} {e : LimitsEditor} {r : Rejection}
    (refused : e.setField a.1 a.2 = .error r) (rest : List (LimitField × String)) :
    assignAll (a :: rest) e = .error r := by
  unfold assignAll
  rw [List.foldlM_cons]
  change e.setField a.1 a.2 >>= _ = _
  rw [refused]
  rfl

/-- A list of assignments is put into the draft as a whole, or one of its texts fits no number. -/
theorem assignAll_cases (assignments : List (LimitField × String)) (l : RiskLimits) :
    (∃ given, Given assignments given ∧
        assignAll assignments (.editing l) = .ok (.editing (LimitField.drafted given l))) ∨
      ∃ r, assignAll assignments (.editing l) = .error r ∧ ∃ a ∈ assignments, ∀ x, ¬a.1.Fits a.2 x := by
  induction assignments generalizing l with
  | nil => exact .inl ⟨[], .nil, rfl⟩
  | cons a rest ih =>
    rcases setField_cases a.1 a.2 l with ⟨x, fits, first⟩ | ⟨r, unfit, failed⟩
    · rw [assignAll_cons first]
      rcases ih (a.1.set x l) with ⟨given, all, put⟩ | ⟨r, failed, b, member, unfit⟩
      · exact .inl ⟨(a.1, x) :: given, .cons ⟨rfl, fits⟩ all, put⟩
      · exact .inr ⟨r, failed, b, List.mem_cons_of_mem a member, unfit⟩
    · exact .inr ⟨r, assignAll_refused failed rest, a, List.mem_cons_self, unfit⟩

theorem assignAll_append {first rest : List (LimitField × String)} {e edited : LimitsEditor}
    (put : assignAll first e = .ok edited) : assignAll (first ++ rest) e = assignAll rest edited := by
  unfold assignAll at put ⊢
  rw [List.foldlM_append, put]
  rfl

/-- How lines answer the questions for some fields: by the assignments they make, or by giving the edit up. -/
inductive Answers : List LimitField → List String → Option (List (LimitField × String)) → Prop
  | done (lines : List String) : Answers [] lines (some [])
  | ended (f : LimitField) (fields : List LimitField) : Answers (f :: fields) [] none
  | quit (f : LimitField) (fields : List LimitField) {line : String} (rest : List String) (q : Text.trim line = "q") :
    Answers (f :: fields) (line :: rest) none
  | kept (f : LimitField) {fields : List LimitField} {line : String} {rest : List String}
    {result : Option (List (LimitField × String))} (blank : Text.trim line = "") (later : Answers fields rest result) :
    Answers (f :: fields) (line :: rest) result
  | refused {f : LimitField} {fields : List LimitField} {line : String} {rest : List String}
    {result : Option (List (LimitField × String))} (written : Text.trim line ≠ "") (other : Text.trim line ≠ "q")
    (unfit : ∀ x, ¬f.Fits (Text.trim line) x) (again : Answers (f :: fields) rest result) :
    Answers (f :: fields) (line :: rest) result
  | taken {f : LimitField} {fields : List LimitField} {line : String} {rest : List String}
    {result : Option (List (LimitField × String))} {x : Float} (written : Text.trim line ≠ "")
    (other : Text.trim line ≠ "q") (fits : f.Fits (Text.trim line) x) (later : Answers fields rest result) :
    Answers (f :: fields) (line :: rest) (result.map ((f, Text.trim line) :: ·))

/-- Lines answer in one way only. -/
theorem Answers.unique {fields : List LimitField} {lines : List String} {first second : Option (List (LimitField × String))}
    (one : Answers fields lines first) (two : Answers fields lines second) : first = second := by
  induction one generalizing second with
  | done lines => cases two with | done => rfl
  | ended f fields => cases two with | ended => rfl
  | quit f fields rest q =>
    cases two with
    | quit => rfl
    | kept _ blank => exact absurd (q.symm.trans blank) (by decide)
    | refused _ other => exact absurd q other
    | taken _ other => exact absurd q other
  | kept f blank later ih =>
    cases two with
    | quit _ _ _ q => exact absurd (blank.symm.trans q) (by decide)
    | kept _ _ later => exact ih later
    | refused written => exact absurd blank written
    | taken written => exact absurd blank written
  | refused written other unfit again ih =>
    cases two with
    | quit _ _ _ q => exact absurd q other
    | kept _ blank => exact absurd blank written
    | refused _ _ _ again => exact ih again
    | taken _ _ fits => exact absurd fits (unfit _)
  | taken written other fits later ih =>
    cases two with
    | quit _ _ _ q => exact absurd q other
    | kept _ blank => exact absurd blank written
    | refused _ _ unfit => exact absurd fits (unfit _)
    | taken _ _ _ later => rw [ih later]

namespace LimitsDialogue

/-! One question, by the line that answers it. -/
section
variable {f : LimitField} {e : LimitsEditor} {line : String} (current : RiskLimits) (rest : List String)

theorem askField_blank (blank : Text.trim line = "") :
    askField f current e (line :: rest) = { output := prompt f current, editor := e, rest } := by
  unfold askField
  dsimp only
  rw [if_pos blank]

theorem askField_quit (quit : Text.trim line = "q") :
    askField f current e (line :: rest) = { output := prompt f current, editor := e.cancel, rest } := by
  unfold askField
  dsimp only
  rw [if_neg (by rw [quit]; decide), if_pos quit]

theorem askField_taken (written : Text.trim line ≠ "") (other : Text.trim line ≠ "q") {edited : LimitsEditor}
    (put : e.setField f (Text.trim line) = .ok edited) :
    askField f current e (line :: rest) = { output := prompt f current, editor := edited, rest } := by
  unfold askField
  dsimp only
  rw [if_neg written, if_neg other, put]

theorem askField_again (written : Text.trim line ≠ "") (other : Text.trim line ≠ "q") {r : Rejection}
    (refused : e.setField f (Text.trim line) = .error r) : askField f current e (line :: rest) =
      after (prompt f current ++ "  " ++ r.chain ++ "\n") (askField f current e rest) := by
  conv_lhs => unfold askField
  dsimp only
  rw [if_neg written, if_neg other, refused]

end

/-- One question: either its answers give the edit up, or they make at most one assignment. -/
theorem askField_answers (f : LimitField) (current l : RiskLimits) (lines : List String) :
    ((askField f current (.editing l) lines).editor = .viewing ∧ ∀ fields, Answers (f :: fields) lines none) ∨
      ∃ made draft, (askField f current (.editing l) lines).editor = .editing draft ∧
        assignAll made (.editing l) = .ok (.editing draft) ∧ ∀ fields result,
          Answers fields (askField f current (.editing l) lines).rest result →
            Answers (f :: fields) lines (result.map (made ++ ·)) := by
  induction lines with
  | nil => exact .inl ⟨rfl, .ended f⟩
  | cons line rest ih =>
    by_cases blank : Text.trim line = ""
    · rw [askField_blank current rest blank]
      refine .inr ⟨[], l, rfl, rfl, fun fields result later => ?_⟩
      exact .kept f blank ((congrFun Option.map_id_fun result).symm ▸ later)
    · by_cases q : Text.trim line = "q"
      · rw [askField_quit current rest q]
        exact .inl ⟨rfl, fun fields => .quit f fields rest q⟩
      · rcases setField_cases f (Text.trim line) l with ⟨x, fits, first⟩ | ⟨r, unfit, refused⟩
        · rw [askField_taken current rest blank q first]
          have put := assignAll_cons (a := (f, Text.trim line)) first []
          exact .inr ⟨_, _, rfl, put, fun _ _ later => .taken blank q fits later⟩
        · rw [askField_again current rest blank q refused]
          rcases ih with ⟨ended, answers⟩ | ⟨made, draft, edited, put, answers⟩
          · exact .inl ⟨ended, fun fields => .refused blank q unfit (answers fields)⟩
          · refine .inr ⟨made, draft, edited, put, fun fields result later => ?_⟩
            exact .refused blank q unfit (answers fields result later)

/-! The questions in turn, by the first of them. -/
section
variable {f : LimitField} {current : RiskLimits} {e : LimitsEditor} {lines : List String} (fields : List LimitField)

theorem ask_closed (closed : (askField f current e lines).editor = .viewing) :
    ask current (f :: fields) e lines = askField f current e lines := by
  have viewing : ¬(askField f current e lines).editor.isEditing = true := by
    rw [closed]
    exact nofun
  conv_lhs => unfold ask
  dsimp only
  rw [if_neg viewing]

theorem ask_onward {draft : RiskLimits} (edited : (askField f current e lines).editor = .editing draft) :
    ask current (f :: fields) e lines = after (askField f current e lines).output
      (ask current fields (.editing draft) (askField f current e lines).rest) := by
  have editing : (askField f current e lines).editor.isEditing = true := by
    rw [edited]
    rfl
  conv_lhs => unfold ask
  dsimp only
  rw [if_pos editing, edited]

end

/-- The questions in turn: the editor has given up, or holds the draft that the assignments of the answers make. -/
theorem ask_answers (current : RiskLimits) (fields : List LimitField) (l : RiskLimits) (lines : List String) :
    (Answers fields lines none ∧ (ask current fields (.editing l) lines).editor = .viewing) ∨
      ∃ made draft, Answers fields lines (some made) ∧ (ask current fields (.editing l) lines).editor = .editing draft ∧
        assignAll made (.editing l) = .ok (.editing draft) := by
  induction fields generalizing l lines with
  | nil => exact .inr ⟨[], l, .done lines, rfl, rfl⟩
  | cons f fields ih =>
    rcases askField_answers f current l lines with ⟨ended, answers⟩ | ⟨made, draft, edited, put, answers⟩
    · rw [ask_closed fields ended]
      exact .inl ⟨answers fields, ended⟩
    · rw [ask_onward fields edited]
      rcases ih draft (askField f current (.editing l) lines).rest with ⟨later, ended⟩ | ⟨more, last, later, held, added⟩
      · exact .inl ⟨answers fields none later, ended⟩
      · exact .inr ⟨made ++ more, last, answers fields _ later, held, (assignAll_append put).trans added⟩

end LimitsDialogue
end TradingDesk
