import TradingDesk.Proofs.Session.Preferences
import TradingDesk.Session.Basic

/-! The selections of a session. What is in memory is what the preferences hold, at every moment and however
unreadable they were at first; each choice is about one of the two selections and leaves the other alone. -/

namespace TradingDesk
open Json Preferences

/-- What is chosen in a session. -/
inductive Choice where
  | select (c : AssetClass)
  | cycle
  | toggle
  deriving DecidableEq

namespace Choice

def onAssetClass : Choice → AssetClass → AssetClass
  | select c, _ => c
  | cycle, c => c.next
  | toggle, c => c

def onTheme : Choice → Theme → Theme
  | toggle, t => t.toggled
  | select _, t | cycle, t => t

/-- The key of the selection that is chosen. -/
def key : Choice → String
  | select _ | cycle => Selections.assetClassKey
  | toggle => Selections.themeKey

def make : Choice → Session × Preferences → Session × Preferences
  | select c, (s, p) => s.selectAssetClass c p
  | cycle, (s, p) => s.cycleAssetClass p
  | toggle, (s, p) => s.toggleTheme p

end Choice

/-- The session and its preferences after choices. -/
def Session.after (choices : List Choice) (s : Session × Preferences) : Session × Preferences :=
  choices.foldl (fun s x => x.make s) s

/-- What choices make of selections: each of the two follows from the choices about it. -/
def Selections.after (choices : List Choice) (s : Selections) : Selections where
  assetClass := choices.foldl (fun c x => x.onAssetClass c) s.assetClass
  theme := choices.foldl (fun t x => x.onTheme t) s.theme

theorem Json.choice_written {α : Type} {choices : List (String × α)} {name : String} {a : α}
    (listed : choices.lookup name = some a) : (Decoder.choice choices).ofText (Json.text name).write = .ok a := by
  have chosen : Decoder.choose choices name = .ok a := by
    unfold Decoder.choose
    rw [listed]
  unfold Decoder.ofText
  rw [document_text]
  exact congrArg (· >>= pure) chosen

theorem AssetClass.written (c : AssetClass) : AssetClass.decoder.ofText c.toJson.write = .ok c :=
  choice_written (by cases c <;> rfl)

theorem Theme.written (t : Theme) : Theme.decoder.ofText t.toJson.write = .ok t :=
  choice_written (by cases t <;> rfl)

namespace Preferences

variable {α : Type} {d : Decoder α}

theorem get_set {v : Json} {a : α} (lawful : d.ofText v.write = .ok a) (key : String) (default : α) (p : Preferences) :
    (p.set key v).get d key default = a := by
  unfold set
  rw [get_decoded, raw?_setRaw, if_pos rfl]
  unfold decoded
  rw [Option.map_some, lawful]

theorem get_congr {p q : Preferences} {key : String} (same : q.raw? key = p.raw? key) (default : α) :
    q.get d key default = p.get d key default := by
  rw [get_decoded, get_decoded, same]

theorem raw?_set_other {key other : String} (apart : other ≠ key) (v : Json) (p : Preferences) :
    (p.set key v).raw? other = p.raw? other :=
  (raw?_setRaw key other v.write p).trans (if_neg apart)

end Preferences

namespace Selections

theorem keys_differ : assetClassKey ≠ themeKey := by
  decide

theorem restore_assetClass (c : AssetClass) (p : Preferences) :
    restore (p.set assetClassKey c.toJson) = { restore p with assetClass := c } := by
  have theme := get_congr (d := Theme.decoder) (raw?_set_other keys_differ.symm c.toJson p) .dark
  unfold restore
  rw [get_set c.written, theme]

theorem restore_theme (t : Theme) (p : Preferences) :
    restore (p.set themeKey t.toJson) = { restore p with theme := t } := by
  have assetClass := get_congr (d := AssetClass.decoder) (raw?_set_other keys_differ t.toJson p) .crypto
  unfold restore
  rw [get_set t.written, assetClass]

/-- Where neither selection is stored, the defaults hold. -/
theorem restore_none {p : Preferences} (assetClass : p.raw? assetClassKey = none) (theme : p.raw? themeKey = none) :
    restore p = {} := by
  unfold restore
  rw [get_decoded, get_decoded, assetClass, theme]
  rfl

end Selections

/-- The session has in memory what its preferences hold, and will write to them. -/
structure Synced (s : Session × Preferences) : Prop where
  kept : s.1.kept = true
  same : s.1.selections = Selections.restore s.2

theorem synced_load (p : Preferences) (timeToLive limit : Nat) : Synced (Session.load p timeToLive limit, p) :=
  ⟨rfl, rfl⟩

theorem synced_make {s : Session × Preferences} (synced : Synced s) (x : Choice) :
    Synced (x.make s) ∧ (x.make s).1.selections = s.1.selections.after [x] := by
  obtain ⟨session, p⟩ := s
  obtain ⟨kept, same⟩ := synced
  dsimp only at kept same
  cases x with
  | select c =>
    refine ⟨⟨kept, ?_⟩, rfl⟩
    simp only [Choice.make, Session.selectAssetClass, Session.keep, kept, if_true, same, Selections.restore_assetClass]
  | cycle =>
    refine ⟨⟨kept, ?_⟩, rfl⟩
    simp only [Choice.make, Session.cycleAssetClass, Session.selectAssetClass, Session.keep, kept, if_true, same,
      Selections.restore_assetClass]
  | toggle =>
    refine ⟨⟨kept, ?_⟩, rfl⟩
    simp only [Choice.make, Session.toggleTheme, Session.keep, kept, if_true, same, Selections.restore_theme]

theorem selections_after_cons (x : Choice) (rest : List Choice) (s : Selections) :
    s.after (x :: rest) = (s.after [x]).after rest :=
  rfl

theorem synced_after {s : Session × Preferences} (synced : Synced s) (choices : List Choice) :
    Synced (Session.after choices s) ∧ (Session.after choices s).1.selections = s.1.selections.after choices := by
  induction choices generalizing s with
  | nil => exact ⟨synced, rfl⟩
  | cons x rest ih =>
    obtain ⟨next, chosen⟩ := synced_make synced x
    obtain ⟨last, later⟩ := ih next
    refine ⟨last, later.trans ?_⟩
    rw [chosen, ← selections_after_cons]

/-- A choice writes under one key, if at all. -/
theorem make_writes (x : Choice) (s : Session × Preferences) :
    (x.make s).2 = s.2 ∨ ∃ v, (x.make s).2 = s.2.set x.key v := by
  obtain ⟨session, p⟩ := s
  cases kept : session.kept with
  | false =>
    left
    cases x <;> exact if_neg (ne_true_of_eq_false kept)
  | true =>
    right
    cases x <;> exact ⟨_, if_pos kept⟩

theorem after_texts (choices : List Choice) {key : String} (apart : ∀ x ∈ choices, x.key ≠ key)
    (s : Session × Preferences) : (Session.after choices s).2.raw? key = s.2.raw? key := by
  induction choices generalizing s with
  | nil => rfl
  | cons x rest ih =>
    obtain ⟨first, others⟩ := List.forall_mem_cons.mp apart
    refine (ih others (x.make s)).trans ?_
    rcases make_writes x s with same | ⟨v, set⟩
    · rw [same]
    · rw [set]
      exact raw?_set_other first.symm v s.2

theorem after_ascending (choices : List Choice) {s : Session × Preferences} (ascending : s.2.entries.Ascending) :
    (Session.after choices s).2.entries.Ascending := by
  induction choices generalizing s with
  | nil => exact ascending
  | cons x rest ih =>
    refine ih ?_
    rcases make_writes x s with same | ⟨v, set⟩
    · rw [same]
      exact ascending
    · rw [set]
      exact Table.ascending_put _ _ ascending

end TradingDesk
