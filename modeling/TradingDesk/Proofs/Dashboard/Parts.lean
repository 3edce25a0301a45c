import TradingDesk.Dashboard.Events

/-! Which parts of a dashboard an operation can change. All the others stay as they are. -/

namespace TradingDesk
namespace Dashboard

variable (d : Dashboard)

theorem selectNext_parts : ∃ place, d.selectNext = { d with selected := place } := by
  unfold selectNext
  split
  · exact ⟨d.selected, rfl⟩
  · exact ⟨_, rfl⟩

theorem selectPrevious_parts : ∃ place, d.selectPrevious = { d with selected := place } := by
  unfold selectPrevious
  split
  · exact ⟨d.selected, rfl⟩
  · exact ⟨_, rfl⟩

theorem requestRemoval_parts : ∃ removal, d.requestRemoval = { d with removal } := by
  unfold requestRemoval
  split
  · exact ⟨_, rfl⟩
  · exact ⟨d.removal, rfl⟩

theorem setPortfolios_parts (state : QueryState (List Portfolio)) :
    ∃ place symbols, d.setPortfolios state = { d with portfolios := state, selected := place, held := symbols } := by
  unfold setPortfolios
  split
  · exact ⟨_, _, rfl⟩
  · exact ⟨d.selected, d.held, rfl⟩

theorem setConnection_parts (now : Nat) (c : Connection) :
    ∃ activity, d.setConnection now c = { d with activity, connection := c } := by
  unfold setConnection
  dsimp only
  split
  · exact ⟨_, rfl⟩
  · split
    · exact ⟨_, rfl⟩
    · exact ⟨d.activity, rfl⟩

theorem observe_parts (now : Nat) (e : SystemEvent) (s : Session) :
    ∃ activity halt, (d.observe now e s).1 = { d with activity, halt } := by
  cases e with
  | halt h =>
    change ∃ activity halt, (d.observeHalt now h s).1 = { d with activity, halt }
    unfold observeHalt
    by_cases halts : h.isHalted = true
    · rw [if_pos halts]
      exact ⟨_, _, rfl⟩
    · rw [if_neg halts]
      by_cases halted : d.isHalted = true
      · rw [if_pos halted]
        exact ⟨_, _, rfl⟩
      · rw [if_neg halted]
        exact ⟨_, _, rfl⟩
  | orderUpdate o => exact ⟨_, d.halt, rfl⟩
  | riskAlert a => exact ⟨_, d.halt, rfl⟩

end Dashboard
end TradingDesk
