import TradingDesk.Dashboard.Keyboard
import TradingDesk.Dashboard.View

/-! The prompt of a removal and the keys that it listens to. -/

namespace TradingDesk
namespace Keyboard

def stroke? : Input → Option Stroke
  | .key stroke _ true => some stroke
  | _ => none

def Requests (i : Input) : Prop :=
  stroke? i = some (.letter 'd')

def Affirms (i : Input) : Prop :=
  stroke? i = some (.letter 'y') ∨ stroke? i = some (.letter 'Y')

def Declines (i : Input) : Prop :=
  stroke? i = some (.letter 'n') ∨ stroke? i = some (.letter 'N') ∨ stroke? i = some .escape

def Interrupts (i : Input) : Prop :=
  i = .key (.letter 'c') true true

theorem action?_pressed (confirming : Bool) (stroke : Stroke) (control : Bool)
    (plain : ¬Interrupts (.key stroke control true)) :
    action? confirming (.key stroke control true) = if confirming then answering stroke else browsing stroke := by
  have other : ¬(decide (stroke = .letter 'c') && control) = true := by
    intro both
    rw [Bool.and_eq_true, decide_eq_true_iff] at both
    obtain ⟨rfl, rfl⟩ := both
    exact plain rfl
  unfold action?
  simp only [if_neg other]

/-- What an input is to the prompt, and what follows from it. -/
inductive Reply (i : Input) : Prop where
  | affirms (said : Affirms i) (action : action? true i = some .confirmRemoval)
  | declines (said : Declines i) (action : action? true i = some .cancelRemoval)
  | interrupts (said : Interrupts i) (action : action? true i = some .quit)
  | other (silent : ¬Affirms i ∧ ¬Declines i ∧ ¬Interrupts i) (action : action? true i = none)

theorem reply (i : Input) : Reply i := by
  have quiet (still : stroke? i = none) (nothing : action? true i = none) : Reply i := by
    refine .other ⟨?_, ?_, ?_⟩ nothing
    · simp [Affirms, still]
    · simp [Declines, still]
    · rintro rfl
      simp [stroke?] at still
  cases i with
  | other => exact quiet rfl rfl
  | key stroke control down =>
    cases down with
    | false => exact quiet rfl rfl
    | true =>
      by_cases interrupts : Interrupts (.key stroke control true)
      · refine .interrupts interrupts ?_
        obtain ⟨rfl, rfl, -⟩ := Input.key.inj interrupts
        rfl
      · have action := action?_pressed true stroke control interrupts
        rw [if_pos rfl] at action
        unfold answering at action
        split at action
        · exact .affirms (.inl rfl) action
        · exact .affirms (.inr rfl) action
        · exact .declines (.inl rfl) action
        · exact .declines (.inr (.inl rfl)) action
        · exact .declines (.inr (.inr rfl)) action
        · refine .other ⟨?_, ?_, interrupts⟩ action
          · simp_all [Affirms, stroke?]
          · simp_all [Declines, stroke?]

/-- Without a prompt a removal can be requested, but neither confirmed nor given up. -/
theorem browsing_removal (i : Input) : (action? false i = some .requestRemoval → Requests i) ∧
    action? false i ≠ some .confirmRemoval ∧ action? false i ≠ some .cancelRemoval := by
  cases i with
  | other => simp [action?]
  | key stroke control down =>
    cases down with
    | false => simp [action?]
    | true =>
      by_cases interrupts : Interrupts (.key stroke control true)
      · obtain ⟨rfl, rfl, -⟩ := Input.key.inj interrupts
        simp [action?]
      · have action := action?_pressed false stroke control interrupts
        rw [if_neg Bool.false_ne_true] at action
        rw [action]
        unfold browsing
        split <;> simp [Requests, stroke?]

end Keyboard

namespace Dashboard

/-- The prompt on the screen names the portfolio whose removal waits. -/
structure Names (id : Int64) (d : Dashboard) : Prop where
  pending : d.removal = .pending id
  prompt : ∀ p : Palette, ∃ above,
    d.notices p = above ++ [bold p.negative (" Delete portfolio #" ++ toString id.toInt ++ "? [y] confirm  [n] cancel")]

theorem names_of_pending {id : Int64} {d : Dashboard} (pending : d.removal = .pending id) : d.Names id := by
  refine ⟨pending, fun p => ?_⟩
  unfold notices
  rw [pending]
  exact ⟨_, rfl⟩

end Dashboard
end TradingDesk
