import TradingDesk.Proofs.Form.Answers
import TradingDesk.Proofs.Form.Difference

/-! The editor of the limits under any calls. Each field of its draft has what was put into it last, and saving sends the
difference. A count that 32 bits do not hold is put in as the largest one. -/

namespace TradingDesk
namespace LimitField

/-- What a field holds that was given a number. -/
def kept (f : LimitField) (x : Float) : Float :=
  if f = .maxOpenPositions then x.toUInt32.toFloat else x

theorem get_set (f : LimitField) (x : Float) (l : RiskLimits) : f.get (f.set x l) = f.kept x := by
  cases f <;> rfl

theorem kept_double {f : LimitField} (other : f ≠ .maxOpenPositions) (x : Float) : f.kept x = x :=
  if_neg other

/-- A count keeps its worth, as far as 32 bits hold it. -/
theorem kept_count {text : String} {x : Float} {a : ℚ} (fits : Fits .maxOpenPositions text x)
    (worth : (Exact.ofFloat x).worth? = some a) :
    (Exact.ofFloat (kept .maxOpenPositions x)).worth? = some (min a (2 ^ 32 - 1)) := by
  obtain ⟨b, found, -, whole⟩ := fits.worth
  obtain rfl : a = b := Option.some.inj (worth.symm.trans found)
  obtain ⟨n, rfl⟩ := whole rfl
  change (Exact.ofFloat x.toUInt32.toFloat).worth? = _
  rw [Exact.worth_toFloat32, Exact.toUInt32_worth worth rfl, Nat.cast_min]
  norm_num

theorem kept_defined {f : LimitField} {text : String} {x : Float} (fits : f.Fits text x) :
    (f.kept x == f.kept x) = true := by
  by_cases count : f = .maxOpenPositions
  · subst count
    exact (Exact.toFloat_beq _ _).mpr rfl
  · obtain ⟨a, worth, -⟩ := fits.worth
    rw [kept_double count]
    exact (Exact.eq_iff_worth worth worth).mpr rfl

/-- The number is what the field holds, unless it is a count that is too large. -/
theorem kept_same_iff {f : LimitField} {text : String} {x : Float} {a : ℚ} (fits : f.Fits text x)
    (worth : (Exact.ofFloat x).worth? = some a) :
    (f.kept x == x) = true ↔ (f = .maxOpenPositions → a ≤ 2 ^ 32 - 1) := by
  by_cases count : f = .maxOpenPositions
  · subst count
    rw [Exact.eq_iff_worth (kept_count fits worth) worth, min_eq_left_iff]
    exact ⟨fun few _ => few, fun few => few rfl⟩
  · rw [kept_double count, Exact.eq_iff_worth worth worth]
    exact ⟨fun _ same => absurd same count, fun _ => rfl⟩

end LimitField

namespace LimitsEditor
open RiskLimits (modest)

/-- An accepted input is the number that its field holds and that is sent for it, and the other fields stay. Only in the
place of a count above 32 bits stands the largest one. -/
theorem setField_typed (f : LimitField) (input : String) (draft : RiskLimits) (e : LimitsEditor)
    (accepted : (editing draft).setField f input = .ok e) : ∃ x a held,
      Number.read (Text.trim input) = .ok x ∧ (Exact.ofFloat x).worth? = some a ∧ 0 ≤ a ∧ e = .editing held ∧
      (∀ g ≠ f, g.get held = g.get draft) ∧
      (f ≠ .maxOpenPositions → f.get held = x ∧ held.maxOpenPositions = draft.maxOpenPositions) ∧
      (f = .maxOpenPositions → (Exact.ofFloat (f.get held)).worth? = some (min a (2 ^ 32 - 1))) ∧
      ((f.get held == x) = true ↔ (f = .maxOpenPositions → a ≤ 2 ^ 32 - 1)) ∧
      ∀ current u, e.save current = some u → u.value? f = none ∨ u.value? f = some (f.get held) := by
  rcases setField_cases f input draft with ⟨x, fits, put⟩ | ⟨r, unfit, refused⟩
  · obtain rfl := Except.ok.inj (put.symm.trans accepted)
    obtain ⟨a, worth, positive, -⟩ := fits.worth
    refine ⟨x, a, f.set x draft, fits.read, worth, positive, rfl, ?_, ?_, ?_, ?_, ?_⟩
    · exact fun g apart => LimitField.get_set_other apart.symm x draft
    · intro other
      refine ⟨(f.get_set x draft).trans (LimitField.kept_double other x), ?_⟩
      cases f <;> first | rfl | exact absurd rfl other
    · rintro rfl
      exact LimitField.kept_count fits worth
    · rw [f.get_set]
      exact LimitField.kept_same_iff fits worth
    · intro current u saved
      rw [LimitsUpdate.eq_between saved, LimitsUpdate.value?_between]
      exact LimitsUpdate.differing_cases _ _
  · rw [refused] at accepted
    exact absurd accepted nofun

/-- The largest count of 32 bits is held as it was typed. -/
theorem largest_count_typed : ∃ held,
    (editing modest).setField .maxOpenPositions " 4294967295 " = .ok (.editing held) ∧
      (LimitField.get .maxOpenPositions held == 4294967295) = true ∧
      ∀ g ≠ .maxOpenPositions, LimitField.get g held = LimitField.get g modest := by
  have fits : LimitField.accept .maxOpenPositions " 4294967295 " = .ok 4294967295 := by decide +kernel
  have read : Number.read (Text.trim " 4294967295 ") = .ok 4294967295 := by decide +kernel
  have taken : Exact.ofFloat 4294967295 = .finite false (4294967295 * 2 ^ 21) (-21) := by decide +kernel
  have put : (editing modest).setField .maxOpenPositions " 4294967295 " =
      .ok (.editing (LimitField.set .maxOpenPositions 4294967295 modest)) := by
    unfold setField
    rw [fits]
    rfl
  obtain ⟨x, a, held, typed, worth, -, same, others, -, -, exact, -⟩ := setField_typed _ _ _ _ put
  obtain rfl := Except.ok.inj (typed.symm.trans read)
  rw [taken] at worth
  refine ⟨held, same ▸ put, exact.mpr fun _ => ?_, others⟩
  norm_num [Exact.worth?] at worth
  rw [← worth]
  norm_num

/-- The next count is accepted as well, and the same number is held. -/
theorem larger_count_cut :
    ((editing modest).setField .maxOpenPositions "4294967296").toOption.bind draft? =
        some { modest with maxOpenPositions := 4294967295 } ∧
      Number.read (Text.trim "4294967296") = .ok 4294967296 ∧
      ((4294967295 : UInt32).toFloat == 4294967296) = false := by
  decide +kernel

/-! Any calls, one after the other. -/

/-- The editor after calls; at first it is viewing. -/
def after (calls : List LimitsCall) : LimitsEditor :=
  calls.foldl (fun e c => (e.call c).2) .viewing

theorem after_concat (calls : List LimitsCall) (c : LimitsCall) :
    after (calls ++ [c]) = ((after calls).call c).2 := by
  unfold after
  rw [List.foldl_append]
  rfl

/-- The calls began an edit of these limits, and since then only put inputs into it. -/
def Since (calls : List LimitsCall) (limits : RiskLimits) (inputs : List (LimitField × String)) : Prop :=
  ∃ before, calls = before ++ .start limits :: inputs.map fun a => .setField a.1 a.2

/-- What a field holds after inputs: what the last one that fits gave it, or what it held at first. -/
inductive Holds (f : LimitField) (first : Float) : List (LimitField × String) → Float → Prop
  | first {inputs : List (LimitField × String)} (unfit : ∀ text, (f, text) ∈ inputs → ∀ x, ¬f.Fits text x) :
    Holds f first inputs first
  | last (before : List (LimitField × String)) {text : String} {x : Float} {later : List (LimitField × String)}
    (fits : f.Fits text x) (unfit : ∀ text, (f, text) ∈ later → ∀ x, ¬f.Fits text x) :
    Holds f first (before ++ (f, text) :: later) (f.kept x)

/-- The editor is viewing when no edit is open, and otherwise its draft has the edit's limits with its inputs. -/
inductive Edited (calls : List LimitsCall) : LimitsEditor → Prop
  | viewing (closed : ∀ limits inputs, ¬Since calls limits inputs) : Edited calls .viewing
  | editing {limits draft : RiskLimits} {inputs : List (LimitField × String)} (since : Since calls limits inputs)
    (holds : ∀ f : LimitField, Holds f (f.get limits) inputs (f.get draft)) : Edited calls (.editing draft)

/-- What a call answers, and how it leaves the editor. -/
inductive Answered : LimitsEditor → LimitsCall → LimitsAnswer × LimitsEditor → Prop
  | started (e : LimitsEditor) (limits : RiskLimits) : Answered e (.start limits) (.done, .editing limits)
  | unopened (f : LimitField) (input : String) :
    Answered .viewing (.setField f input) (.rejected .notEditing, .viewing)
  | refused {f : LimitField} {input : String} (draft : RiskLimits) (r : Rejection) (unfit : ∀ x, ¬f.Fits input x) :
    Answered (.editing draft) (.setField f input) (.rejected r, .editing draft)
  | taken {f : LimitField} {input : String} {x : Float} {draft held : RiskLimits} (fits : f.Fits input x)
    (own : f.get held = f.kept x) (others : ∀ g ≠ f, g.get held = g.get draft) :
    Answered (.editing draft) (.setField f input) (.done, .editing held)
  | cancelled (e : LimitsEditor) : Answered e .cancel (.done, .viewing)
  | unsaved (current : RiskLimits) : Answered .viewing (.save current) (.update none, .viewing)
  | saved {current draft : RiskLimits} {changes : Option LimitsUpdate}
    (difference : LimitsUpdate.Difference current draft changes) :
    Answered (.editing draft) (.save current) (.update changes, .viewing)

theorem call_setField (f : LimitField) (text : String) (draft : RiskLimits) :
    (∃ x, f.Fits text x ∧ (editing draft).call (.setField f text) = (.done, .editing (f.set x draft))) ∨
      ∃ r, (∀ x, ¬f.Fits text x) ∧ (editing draft).call (.setField f text) = (.rejected r, .editing draft) := by
  unfold call
  dsimp only
  rcases setField_cases f text draft with ⟨x, fits, put⟩ | ⟨r, unfit, refused⟩
  · exact .inl ⟨x, fits, by rw [put]⟩
  · exact .inr ⟨r, unfit, by rw [refused]⟩

namespace Holds
variable {f : LimitField} {first value : Float} {inputs : List (LimitField × String)}

theorem unchanged (holds : Holds f first inputs value) {a : LimitField × String}
    (other : a.1 = f → ∀ x, ¬f.Fits a.2 x) : Holds f first (inputs ++ [a]) value := by
  have onward {later : List (LimitField × String)} (unfit : ∀ text, (f, text) ∈ later → ∀ x, ¬f.Fits text x)
      (text : String) (member : (f, text) ∈ later ++ [a]) : ∀ x, ¬f.Fits text x := by
    rcases List.mem_append.mp member with earlier | same
    · exact unfit text earlier
    · obtain rfl := List.mem_singleton.mp same
      exact other rfl
  cases holds with
  | first unfit => exact .first (onward unfit)
  | last before fits unfit =>
    rw [List.append_assoc, List.cons_append]
    exact .last before fits (onward unfit)

theorem put {text : String} {x : Float} (fits : f.Fits text x) : Holds f first (inputs ++ [(f, text)]) (f.kept x) :=
  .last inputs fits nofun

theorem defined (holds : Holds f first inputs value) (same : (first == first) = true) : (value == value) = true := by
  cases holds with
  | first => exact same
  | last before fits => exact LimitField.kept_defined fits

end Holds

theorem since_start (calls : List LimitsCall) (limits : RiskLimits) : Since (calls ++ [.start limits]) limits [] :=
  ⟨calls, rfl⟩

theorem Since.put {calls : List LimitsCall} {limits : RiskLimits} {inputs : List (LimitField × String)}
    (since : Since calls limits inputs) (f : LimitField) (text : String) :
    Since (calls ++ [.setField f text]) limits (inputs ++ [(f, text)]) := by
  obtain ⟨before, rfl⟩ := since
  refine ⟨before, ?_⟩
  rw [List.append_assoc, List.cons_append, List.map_append]
  rfl

/-- The last call belongs to the edit: it began the edit, or put an input into it. -/
theorem Since.last {calls : List LimitsCall} {c : LimitsCall} {limits : RiskLimits}
    {inputs : List (LimitField × String)} (since : Since (calls ++ [c]) limits inputs) :
    c = .start limits ∨ ∃ f text earlier, c = .setField f text ∧ Since calls limits earlier := by
  obtain ⟨before, spelled⟩ := since
  cases inputs using List.reverseRecOn with
  | nil => exact .inl (List.append_inj_right' spelled rfl |> List.singleton_inj.mp)
  | append_singleton earlier a =>
    rw [List.map_append, ← List.cons_append, ← List.append_assoc] at spelled
    obtain ⟨same, own⟩ := List.append_inj' spelled rfl
    exact .inr ⟨a.1, a.2, earlier, List.singleton_inj.mp own, before, same⟩

theorem edited_call {calls : List LimitsCall} {e : LimitsEditor} (edited : Edited calls e) (c : LimitsCall) :
    Edited (calls ++ [c]) (e.call c).2 := by
  have closing (other : ∀ limits, c ≠ .start limits) (input : ∀ f text, c ≠ .setField f text)
      (limits : RiskLimits) (inputs : List (LimitField × String)) : ¬Since (calls ++ [c]) limits inputs := by
    intro since
    rcases since.last with began | ⟨f, text, -, put, -⟩
    · exact other limits began
    · exact input f text put
  cases c with
  | start limits => exact .editing (since_start calls limits) fun f => .first nofun
  | cancel => exact .viewing (closing nofun nofun)
  | save current => exact .viewing (closing nofun nofun)
  | setField f text =>
    cases edited with
    | viewing closed =>
      refine .viewing fun limits inputs since => ?_
      rcases since.last with began | ⟨_, _, earlier, -, before⟩
      · exact absurd began nofun
      · exact closed limits earlier before
    | @editing limits draft inputs since holds =>
      rcases call_setField f text draft with ⟨x, fits, put⟩ | ⟨r, unfit, refused⟩
      · rw [put]
        refine .editing (since.put f text) fun g => ?_
        by_cases own : f = g
        · subst own
          rw [LimitField.get_set]
          exact .put fits
        · rw [LimitField.get_set_other own]
          exact (holds g).unchanged fun same => absurd same own
      · rw [refused]
        refine .editing (since.put f text) fun g => (holds g).unchanged ?_
        rintro rfl
        exact unfit

theorem edited_after (calls : List LimitsCall) : Edited calls (after calls) := by
  induction calls using List.reverseRecOn with
  | nil =>
    refine .viewing fun limits inputs since => ?_
    obtain ⟨before, spelled⟩ := since
    simp at spelled
  | append_singleton calls c ih =>
    rw [after_concat]
    exact edited_call ih c

theorem Edited.defined {calls : List LimitsCall} {draft : RiskLimits} (edited : Edited calls (.editing draft))
    (defined : ∀ limits, .start limits ∈ calls → limits.Defined) : draft.Defined := by
  cases edited with
  | editing since holds =>
    obtain ⟨before, rfl⟩ := since
    exact fun f => (holds f).defined (defined _ (by simp) f)

theorem answered_call {e : LimitsEditor} (defined : ∀ draft, e = .editing draft → draft.Defined) (c : LimitsCall) :
    Answered e c (e.call c) := by
  cases c with
  | start limits => exact .started e limits
  | cancel => exact .cancelled e
  | save current =>
    cases e with
    | viewing => exact .unsaved current
    | editing draft => exact .saved (LimitsUpdate.difference_save current (defined draft rfl))
  | setField f text =>
    cases e with
    | viewing => exact .unopened f text
    | editing draft =>
      rcases call_setField f text draft with ⟨x, fits, put⟩ | ⟨r, unfit, refused⟩
      · rw [put]
        exact .taken fits (f.get_set x draft) fun g apart => LimitField.get_set_other apart.symm x draft
      · rw [refused]
        exact .refused draft r unfit

/-- After any calls the draft holds what was put into it since the last start, and the next call is answered by it. -/
theorem calls_answered (calls : List LimitsCall) (defined : ∀ limits, .start limits ∈ calls → limits.Defined) :
    Edited calls (after calls) ∧ ∀ c, Answered (after calls) c ((after calls).call c) := by
  have edited := edited_after calls
  refine ⟨edited, answered_call fun draft open_ => ?_⟩
  rw [open_] at edited
  exact edited.defined defined

/-- An input before the start, one that is a count, one that is no number, and one in the place of an earlier one. -/
def edits : List LimitsCall :=
  [.setField .maxLeverage "2", .start modest, .setField .maxLeverage "3", .setField .maxOpenPositions "12",
    .setField .maxDailyLoss "abc", .setField .maxLeverage " 1.5 "]

theorem edits_answered : (∀ limits, .start limits ∈ edits → limits.Defined) ∧ Edited edits (after edits) ∧
    Answered (after edits) (.save modest) (.update (some { maxOpenPositions := some 12, maxLeverage := some 1.5 }), .viewing) := by
  have defined : ∀ limits, .start limits ∈ edits → limits.Defined := by
    intro limits member
    obtain rfl : limits = modest := by simpa [edits] using member
    intro f
    cases f <;> decide +kernel
  have saved : (after edits).save modest = some { maxOpenPositions := some 12, maxLeverage := some 1.5 } := by
    decide +kernel
  obtain ⟨edited, answered⟩ := calls_answered edits defined
  exact ⟨defined, edited, saved ▸ answered (.save modest)⟩

end LimitsEditor
end TradingDesk
