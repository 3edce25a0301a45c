import TradingDesk.Proofs.Form.Limits

/-! An update as a difference of limits: it names the fields in which they differ, and laid over the current limits it
gives the others. -/

namespace TradingDesk

/-- No limit is a number that differs from itself. -/
def RiskLimits.Defined (l : RiskLimits) : Prop :=
  ∀ f : LimitField, (f.get l == f.get l) = true

namespace LimitsUpdate

/-- The value that is sent for a field, if the field is named. -/
def value? (u : LimitsUpdate) : LimitField → Option Float
  | .maxPortfolioDrawdown => u.maxPortfolioDrawdown
  | .maxSingleTradeRisk => u.maxSingleTradeRisk
  | .maxDailyLoss => u.maxDailyLoss
  | .maxOpenPositions => u.maxOpenPositions.map UInt32.toFloat
  | .maxPositionSizePct => u.maxPositionSizePct
  | .maxCorrelation => u.maxCorrelation
  | .minRiskReward => u.minRiskReward
  | .maxLeverage => u.maxLeverage

/-- The limits with the update laid over them. -/
def onto (u : LimitsUpdate) (l : RiskLimits) : RiskLimits where
  maxPortfolioDrawdown := u.maxPortfolioDrawdown.getD l.maxPortfolioDrawdown
  maxSingleTradeRisk := u.maxSingleTradeRisk.getD l.maxSingleTradeRisk
  maxDailyLoss := u.maxDailyLoss.getD l.maxDailyLoss
  maxOpenPositions := u.maxOpenPositions.getD l.maxOpenPositions
  maxPositionSizePct := u.maxPositionSizePct.getD l.maxPositionSizePct
  maxCorrelation := u.maxCorrelation.getD l.maxCorrelation
  minRiskReward := u.minRiskReward.getD l.minRiskReward
  maxLeverage := u.maxLeverage.getD l.maxLeverage

theorem get_onto (u : LimitsUpdate) (l : RiskLimits) (f : LimitField) :
    f.get (u.onto l) = (u.value? f).getD (f.get l) := by
  cases f with
  | maxOpenPositions => exact (Option.getD_map UInt32.toFloat l.maxOpenPositions u.maxOpenPositions).symm
  | _ => rfl

theorem value?_between (current draft : RiskLimits) (f : LimitField) :
    (between current draft).value? f = differing (f.get current) (f.get draft) := by
  cases f with
  | maxOpenPositions =>
    have equal := Exact.toFloat_beq current.maxOpenPositions draft.maxOpenPositions
    change (ite _ none (some draft.maxOpenPositions)).map UInt32.toFloat = ite _ none _
    by_cases same : current.maxOpenPositions = draft.maxOpenPositions
    · rw [if_pos same]
      exact (if_pos (equal.mpr same)).symm
    · rw [if_neg same]
      exact (if_neg (mt equal.mp same)).symm
  | _ => rfl

theorem isEmpty_iff (u : LimitsUpdate) : u.isEmpty = true ↔ ∀ f, u.value? f = none := by
  unfold isEmpty
  simp only [Bool.and_eq_true, Option.isNone_iff_eq_none]
  constructor
  · rintro ⟨⟨⟨⟨⟨⟨⟨drawdown, risk⟩, loss⟩, positions⟩, size⟩, correlation⟩, reward⟩, leverage⟩ f
    cases f with
    | maxOpenPositions => exact Option.map_eq_none_iff.mpr positions
    | _ => assumption
  · intro unnamed
    exact ⟨⟨⟨⟨⟨⟨⟨unnamed .maxPortfolioDrawdown, unnamed .maxSingleTradeRisk⟩, unnamed .maxDailyLoss⟩,
      Option.map_eq_none_iff.mp (unnamed .maxOpenPositions)⟩, unnamed .maxPositionSizePct⟩,
      unnamed .maxCorrelation⟩, unnamed .minRiskReward⟩, unnamed .maxLeverage⟩

/-- What there is to send for a draft: nothing when every field equals the current one, and otherwise an update that
names the fields that differ and turns the current limits into the draft. -/
inductive Difference (current draft : RiskLimits) : Option LimitsUpdate → Prop
  | nothing (same : ∀ f : LimitField, (f.get current == f.get draft) = true) : Difference current draft none
  | update {u : LimitsUpdate} (differ : ∃ f : LimitField, (f.get current == f.get draft) = false)
    (named : ∀ f : LimitField, (u.value? f).isSome = true ↔ (f.get current == f.get draft) = false)
    (overlaid : ∀ f : LimitField, (f.get (u.onto current) == f.get draft) = true) :
    Difference current draft (some u)

theorem differing_eq_none {a b : Float} : differing a b = none ↔ (a == b) = true := by
  unfold differing
  cases a == b <;> simp

theorem differing_cases (a b : Float) : differing a b = none ∨ differing a b = some b := by
  unfold differing
  cases a == b
  · exact .inr rfl
  · exact .inl rfl

theorem overlaid_between (current : RiskLimits) {draft : RiskLimits} (defined : draft.Defined) (f : LimitField) :
    (f.get ((between current draft).onto current) == f.get draft) = true := by
  rw [get_onto, value?_between]
  unfold differing
  cases same : f.get current == f.get draft with
  | true => exact same
  | false => exact defined f

theorem eq_between {current draft : RiskLimits} {u : LimitsUpdate}
    (saved : (LimitsEditor.editing draft).save current = some u) : u = between current draft := by
  unfold LimitsEditor.save at saved
  dsimp only at saved
  split at saved
  · exact absurd saved nofun
  · exact (Option.some.inj saved).symm

theorem difference_save (current : RiskLimits) {draft : RiskLimits} (defined : draft.Defined) :
    Difference current draft ((LimitsEditor.editing draft).save current) := by
  have empty : (between current draft).isEmpty = true ↔
      ∀ f : LimitField, (f.get current == f.get draft) = true := by
    simp only [isEmpty_iff, value?_between, differing_eq_none]
  unfold LimitsEditor.save
  by_cases same : (between current draft).isEmpty = true
  · simp only [same, if_true]
    exact .nothing (empty.mp same)
  · simp only [same, Bool.false_eq_true, if_false]
    refine .update ?_ (fun f => ?_) (overlaid_between current defined)
    · rw [empty, not_forall] at same
      obtain ⟨f, differs⟩ := same
      exact ⟨f, Bool.eq_false_iff.mpr differs⟩
    · rw [value?_between, ← Option.ne_none_iff_isSome, Ne, differing_eq_none, Bool.not_eq_true]

end LimitsUpdate
end TradingDesk
