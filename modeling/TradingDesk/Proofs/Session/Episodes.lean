import TradingDesk.Proofs.Desk.Selections
import TradingDesk.Proofs.Watch.Choices

/-! The selections over sessions, commands and new starts of the program, from whatever was stored at first. They
are in one place only: what a session has in memory, what a command shows and what the next session begins with are
the same at any time. -/

namespace TradingDesk
open Selections

/-- What goes on with the preferences: a whole session, a command about the selections, or a new start of the program,
which reads the file that they were written to. -/
inductive Episode where
  | session (timeToLive limit : Nat) (choices : List Choice)
  | command (d : Desk) (i : Instruction)
  | reopened

namespace Episode

def after : Episode → Preferences → Option Preferences
  | session timeToLive limit choices, p => some (Session.after choices (Session.load p timeToLive limit, p)).2
  | command d i, p => some (Desk.run (Desk.carryOut i.command) { d with preferences := p }).2.preferences
  | reopened, p => Preferences.ofText p.toText

def onAssetClass : Episode → AssetClass → AssetClass
  | session _ _ choices, c => choices.foldl (fun c x => x.onAssetClass c) c
  | command _ i, c => i.onAssetClass c
  | reopened, c => c

def onTheme : Episode → Theme → Theme
  | session _ _ choices, t => choices.foldl (fun t x => x.onTheme t) t
  | command _ i, t => i.onTheme t
  | reopened, t => t

/-- The keys of the selections that are chosen or reset. -/
def keys : Episode → List String
  | session _ _ choices => choices.map Choice.key
  | command _ i => i.keys
  | reopened => []

def run (episodes : List Episode) (p : Preferences) : Option Preferences :=
  episodes.foldlM (fun p e => e.after p) p

end Episode

/-- What episodes make of selections: each of the two follows from what is done about it. -/
def Selections.through (episodes : List Episode) (s : Selections) : Selections where
  assetClass := episodes.foldl (fun c e => e.onAssetClass c) s.assetClass
  theme := episodes.foldl (fun t e => e.onTheme t) s.theme

/-- Whenever a session is loaded from the preferences, it has these selections. -/
def Preferences.Resume (p : Preferences) (s : Selections) : Prop :=
  ∀ timeToLive limit, (Session.load p timeToLive limit).selections = s

/-- The preferences after one or more episodes. -/
structure Passed (episodes : List Episode) (p q : Preferences) : Prop where
  selections : restore q = (restore p).through episodes
  texts : ∀ key, (∀ e ∈ episodes, key ∉ e.keys) → q.raw? key = p.raw? key
  ascending : q.entries.Ascending

theorem passed_session (timeToLive limit : Nat) (choices : List Choice) {p : Preferences}
    (ascending : p.entries.Ascending) :
    Passed [.session timeToLive limit choices] p
      (Session.after choices (Session.load p timeToLive limit, p)).2 := by
  obtain ⟨synced, chosen⟩ := synced_after (synced_load p timeToLive limit) choices
  refine ⟨synced.same.symm.trans chosen, fun key other => ?_, after_ascending choices ascending⟩
  refine after_texts choices (fun x member same => ?_) _
  exact other _ List.mem_cons_self (List.mem_map.mpr ⟨x, member, same⟩)

theorem passed_command (d : Desk) (i : Instruction) {p : Preferences} (ascending : p.entries.Ascending) :
    Passed [.command d i] p (Desk.run (Desk.carryOut i.command) { d with preferences := p }).2.preferences := by
  obtain ⟨next, ⟨after, ran, left, -⟩, carried⟩ := Desk.instructed i { d with preferences := p }
  rw [ran, left]
  exact ⟨carried.selections, fun key other => carried.texts key (other _ List.mem_cons_self),
    carried.ascending ascending⟩

theorem passed_after (e : Episode) {p : Preferences} (ascending : p.entries.Ascending) :
    ∃ q, e.after p = some q ∧ Passed [e] p q := by
  cases e with
  | session timeToLive limit choices => exact ⟨_, rfl, passed_session timeToLive limit choices ascending⟩
  | command d i => exact ⟨_, rfl, passed_command d i ascending⟩
  | reopened => exact ⟨p, Preferences.ofText_toText ascending, rfl, fun _ _ => rfl, ascending⟩

theorem passed_run (episodes : List Episode) {p : Preferences} (ascending : p.entries.Ascending) :
    ∃ q, Episode.run episodes p = some q ∧ Passed episodes p q := by
  induction episodes generalizing p with
  | nil => exact ⟨p, rfl, rfl, fun _ _ => rfl, ascending⟩
  | cons e rest ih =>
    obtain ⟨mid, first, passed⟩ := passed_after e ascending
    obtain ⟨q, ran, later⟩ := ih passed.ascending
    refine ⟨q, ?_, ?_, fun key other => ?_, later.ascending⟩
    · unfold Episode.run
      rw [List.foldlM_cons, first]
      exact ran
    · rw [later.selections, passed.selections]
      rfl
    · obtain ⟨own, others⟩ := List.forall_mem_cons.mp other
      exact (later.texts key others).trans (passed.texts key (List.forall_mem_singleton.mpr own))

/-- What can be said of preferences, whatever went on before. -/
structure Lasting (first : Preferences) (episodes : List Episode) (p : Preferences) : Prop where
  selections : p.Resume ((restore first).through episodes)
  /-- What is stored for a selection that nothing was done about is as it was, even if it cannot be read. -/
  texts : ∀ key, (∀ e ∈ episodes, key ∉ e.keys) → p.raw? key = first.raw? key
  /-- Any moment of a session that begins now. -/
  moments : ∀ timeToLive limit choices,
    let moment := Session.after choices (Session.load p timeToLive limit, p)
    moment.2.Resume moment.1.selections ∧ moment.1.selections = (restore p).after choices ∧
      ∀ key, (∀ x ∈ choices, x.key ≠ key) → moment.2.raw? key = p.raw? key
  /-- Any moment of a watch that begins now. -/
  watches : ∀ s baseUrl headless events,
    let begun := Watch.start s baseUrl p headless
    let w := Watch.run begun events
    w.preferences.Resume w.session.selections ∧
      w.session.selections = (restore p).after (Watch.choices begun events)
  commands : ∀ (d : Desk) (i : Instruction), ∃ after,
    Desk.run (Desk.carryOut i.command) { d with preferences := p } = (.ok (), after) ∧
    after.preferences.Resume ((restore p).instructed i) ∧
    after.output = d.output ++ ((restore p).instructed i).lines
  reset : ∀ d : Desk,
    let after := (Desk.run (Desk.carryOut .forgetSelections) { d with preferences := p }).2
    after.preferences.Resume {} ∧ after.preferences.raw? assetClassKey = none ∧
      after.preferences.raw? themeKey = none
  reopened : Preferences.ofText p.toText = some p

/-- From any preferences on, sessions, commands and new starts go on from the selections that were left last. -/
theorem selections_last (entries : List (String × String)) (episodes : List Episode) :
    ∃ p, Episode.run episodes ⟨Table.ofList entries⟩ = some p ∧ Lasting ⟨Table.ofList entries⟩ episodes p := by
  obtain ⟨p, ran, passed⟩ := passed_run (p := ⟨Table.ofList entries⟩) episodes (Table.ascending_ofList entries)
  refine ⟨p, ran, fun _ _ => passed.selections, passed.texts, ?_, ?_, ?_, ?_, ?_⟩
  · intro timeToLive limit choices
    obtain ⟨synced, chosen⟩ := synced_after (synced_load p timeToLive limit) choices
    exact ⟨fun _ _ => synced.same.symm, chosen, fun key apart => after_texts choices apart _⟩
  · intro s baseUrl headless events
    let begun := Watch.start s baseUrl p headless
    have synced : Synced begun.memory := ⟨rfl, rfl⟩
    obtain ⟨last, chosen⟩ := synced_after synced (begun.choices events)
    have agrees := Watch.agrees_run begun events
    have resumed : Selections.restore (begun.run events).preferences = (begun.run events).session.selections := by
      rw [show (begun.run events).preferences = _ from agrees.preferences]
      exact last.same.symm.trans agrees.selections.symm
    exact ⟨fun _ _ => resumed, agrees.selections.trans chosen⟩
  · intro d i
    obtain ⟨next, ⟨after, done, left, output⟩, carried⟩ := Desk.instructed i { d with preferences := p }
    rw [carried.selections] at output
    refine ⟨after, done, fun _ _ => ?_, output⟩
    rw [left]
    exact carried.selections
  · intro d
    obtain ⟨next, ⟨after, done, left, -⟩, carried⟩ := Desk.instructed .reset { d with preferences := p }
    dsimp only
    rw [show Command.forgetSelections = Instruction.reset.command from rfl, done, left]
    exact ⟨fun _ _ => carried.selections, carried.forgotten rfl⟩
  · exact Preferences.ofText_toText passed.ascending

end TradingDesk
