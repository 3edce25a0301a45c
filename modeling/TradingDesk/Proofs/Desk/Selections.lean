import TradingDesk.Desk.Run
import TradingDesk.Proofs.Desk.Actions
import TradingDesk.Proofs.Session.Selections

/-! The commands about the selections. Each comes to an end, leaves the selections that it is to leave, and shows
them. -/

namespace TradingDesk

/-- What is asked about the selections by a command. -/
inductive Instruction where
  | look
  | select (c : AssetClass)
  | toggle
  | reset
  deriving DecidableEq

namespace Instruction

def command : Instruction → Command
  | look => .selections
  | select c => .saveAssetClass c
  | toggle => .toggleTheme
  | reset => .forgetSelections

def onAssetClass : Instruction → AssetClass → AssetClass
  | select c, _ => c
  | reset, _ => .crypto
  | look, c | toggle, c => c

def onTheme : Instruction → Theme → Theme
  | toggle, t => t.toggled
  | reset, _ => .dark
  | look, t | select _, t => t

/-- The keys of the selections that are changed. -/
def keys : Instruction → List String
  | look => []
  | select _ => [Selections.assetClassKey]
  | toggle => [Selections.themeKey]
  | reset => [Selections.assetClassKey, Selections.themeKey]

end Instruction

/-- The two lines that show selections. -/
def Selections.lines (s : Selections) : String :=
  "asset_class  " ++ s.assetClass.name ++ "\n" ++ ("theme        " ++ s.theme.title ++ "\n")

def Selections.instructed (i : Instruction) (s : Selections) : Selections :=
  ⟨i.onAssetClass s.assetClass, i.onTheme s.theme⟩

namespace Desk
open Selections

theorem run_assetClass (d : Desk) : run assetClass d =
    (.ok (restore d.preferences).assetClass,
      { d with log := d.log ++ d.preferences.complaints AssetClass.decoder assetClassKey }) :=
  run_bind_ok (run_noteAll _ d) _

theorem run_theme (d : Desk) : run theme d =
    (.ok (restore d.preferences).theme,
      { d with log := d.log ++ d.preferences.complaints Theme.decoder themeKey }) :=
  run_bind_ok (run_noteAll _ d) _

/-- The action comes to an end with these preferences, and has shown the selections in them. -/
def Shows (a : Action Unit) (d : Desk) (p : Preferences) : Prop :=
  ∃ after, run a d = (.ok (), after) ∧ after.preferences = p ∧ after.output = d.output ++ (restore p).lines

theorem shows_selections (d : Desk) : Shows showSelections d d.preferences := by
  let read := { d with
    log := d.log ++ d.preferences.complaints AssetClass.decoder assetClassKey ++
      d.preferences.complaints Theme.decoder themeKey }
  have reads : run showSelections d = run (do
      line ("asset_class  " ++ (restore d.preferences).assetClass.name)
      line ("theme        " ++ (restore d.preferences).theme.title)) read :=
    (run_bind_ok (run_assetClass d) _).trans (run_bind_ok (run_theme _) _)
  exact ⟨_, reads.trans rfl, rfl, String.append_assoc ..⟩

/-- The desk once a preference has been removed, which is told if there was one. -/
def forgetting (key : String) (d : Desk) : Desk :=
  { d with
    log := if d.preferences.entries.has key then d.log ++ [.info ("Preference '" ++ key ++ "' cleared")] else d.log
    preferences := (d.preferences.remove key).2 }

theorem run_forget (d : Desk) :
    run forgetSelections d = run showSelections ((d.forgetting assetClassKey).forgetting themeKey) := by
  have forgets (key : String) (d : Desk) : run (do
      let removed := (← get).preferences.remove key
      change fun _ => removed.2
      if removed.1 then note (.info ("Preference '" ++ key ++ "' cleared"))
      pure (ForInStep.yield PUnit.unit) : Action (ForInStep PUnit)) d =
        (.ok (.yield PUnit.unit), d.forgetting key) := by
    refine (run_bind_ok (a := get) (x := d) rfl _).trans ?_
    unfold forgetting
    cases saved : d.preferences.entries.has key <;> simp only [Preferences.remove, saved] <;> rfl
  unfold forgetSelections
  refine run_bind_ok (x := PUnit.unit) ?_ _
  rw [List.forIn_cons]
  refine (run_bind_ok (forgets _ _) _).trans ?_
  simp only
  rw [List.forIn_cons]
  exact run_bind_ok (forgets _ _) _

/-- The preferences after an instruction: those under other keys are as they were. -/
structure Instructed (i : Instruction) (p next : Preferences) : Prop where
  selections : restore next = (restore p).instructed i
  texts : ∀ key, key ∉ i.keys → next.raw? key = p.raw? key
  ascending : p.entries.Ascending → next.entries.Ascending
  forgotten : i = .reset → next.raw? assetClassKey = none ∧ next.raw? themeKey = none

theorem run_carryOut (k : Command) (d : Desk) :
    run (carryOut k) d = run (k.action (restore d.preferences).assetClass)
      { d with log := d.log ++ d.preferences.complaints AssetClass.decoder assetClassKey } :=
  run_bind_ok (run_assetClass d) _

/-- An action that shows the selections once it has left some preferences. -/
theorem shows_carryOut {k : Command} {d before : Desk}
    (ran : run (carryOut k) d = run showSelections before) (silent : before.output = d.output) :
    Shows (carryOut k) d before.preferences := by
  obtain ⟨after, shown, preferences, output⟩ := shows_selections before
  exact ⟨after, ran.trans shown, preferences, silent ▸ output⟩

theorem instructed (i : Instruction) (d : Desk) :
    ∃ next, Shows (carryOut i.command) d next ∧ Instructed i d.preferences next := by
  cases i with
  | look =>
    refine ⟨_, shows_carryOut (run_carryOut _ d) rfl, rfl, fun _ _ => rfl, id, nofun⟩
  | select c =>
    refine ⟨_, shows_carryOut (run_carryOut _ d) rfl, restore_assetClass c _, fun key other => ?_, ?_, nofun⟩
    · exact Preferences.raw?_set_other (List.ne_of_not_mem_cons other) _ _
    · exact Table.ascending_put _ _
  | toggle =>
    have reads := (run_carryOut .toggleTheme d).trans (run_bind_ok (run_theme _) _)
    refine ⟨_, shows_carryOut reads rfl, restore_theme _ _, fun key other => ?_, ?_, nofun⟩
    · exact Preferences.raw?_set_other (List.ne_of_not_mem_cons other) _ _
    · exact Table.ascending_put _ _
  | reset =>
    have forgets := (run_carryOut .forgetSelections d).trans (run_forget _)
    have texts (key : String) : ((d.preferences.remove assetClassKey).2.remove themeKey).2.raw? key =
        if key ∈ Instruction.reset.keys then none else d.preferences.raw? key := by
      rw [Preferences.raw?_remove, Preferences.raw?_remove]
      by_cases first : key = assetClassKey <;> by_cases second : key = themeKey <;>
        simp [Instruction.keys, first, second]
    have gone {key : String} (own : key ∈ Instruction.reset.keys) := (texts key).trans (if_pos own)
    refine ⟨_, shows_carryOut forgets rfl, ?_, fun key other => (texts key).trans (if_neg other), ?_, fun _ => ?_⟩
    · exact restore_none (gone (by decide)) (gone (by decide))
    · exact fun ascending => Table.ascending_erase _ (Table.ascending_erase _ ascending)
    · exact ⟨gone (by decide), gone (by decide)⟩

end Desk
end TradingDesk
