import TradingDesk.Form.Rejection
import TradingDesk.Number.Exact
import TradingDesk.Payload.Risk

/-! Editing the risk limits. A draft is copied from the limits, inputs are put into it one by one, and
saving gives the fields that differ. -/

namespace TradingDesk

inductive LimitField where
  | maxPortfolioDrawdown
  | maxSingleTradeRisk
  | maxDailyLoss
  | maxOpenPositions
  | maxPositionSizePct
  | maxCorrelation
  | minRiskReward
  | maxLeverage
  deriving DecidableEq, Repr

namespace LimitField

def all : List LimitField :=
  [.maxPortfolioDrawdown, .maxSingleTradeRisk, .maxDailyLoss, .maxOpenPositions, .maxPositionSizePct,
    .maxCorrelation, .minRiskReward, .maxLeverage]

def key : LimitField → String
  | .maxPortfolioDrawdown => "max_portfolio_drawdown"
  | .maxSingleTradeRisk => "max_single_trade_risk"
  | .maxDailyLoss => "max_daily_loss"
  | .maxOpenPositions => "max_open_positions"
  | .maxPositionSizePct => "max_position_size_pct"
  | .maxCorrelation => "max_correlation"
  | .minRiskReward => "min_risk_reward"
  | .maxLeverage => "max_leverage"

def label : LimitField → String
  | .maxPortfolioDrawdown => "Max Drawdown"
  | .maxSingleTradeRisk => "Max Trade Risk"
  | .maxDailyLoss => "Max Daily Loss"
  | .maxOpenPositions => "Max Positions"
  | .maxPositionSizePct => "Max Position Size"
  | .maxCorrelation => "Max Correlation"
  | .minRiskReward => "Min Risk/Reward"
  | .maxLeverage => "Max Leverage"

def get (f : LimitField) (l : RiskLimits) : Float :=
  match f with
  | .maxPortfolioDrawdown => l.maxPortfolioDrawdown
  | .maxSingleTradeRisk => l.maxSingleTradeRisk
  | .maxDailyLoss => l.maxDailyLoss
  | .maxOpenPositions => l.maxOpenPositions.toFloat
  | .maxPositionSizePct => l.maxPositionSizePct
  | .maxCorrelation => l.maxCorrelation
  | .minRiskReward => l.minRiskReward
  | .maxLeverage => l.maxLeverage

/-- The number of positions is cut to 32 bits. -/
def set (f : LimitField) (x : Float) (l : RiskLimits) : RiskLimits :=
  match f with
  | .maxPortfolioDrawdown => { l with maxPortfolioDrawdown := x }
  | .maxSingleTradeRisk => { l with maxSingleTradeRisk := x }
  | .maxDailyLoss => { l with maxDailyLoss := x }
  | .maxOpenPositions => { l with maxOpenPositions := x.toUInt32 }
  | .maxPositionSizePct => { l with maxPositionSizePct := x }
  | .maxCorrelation => { l with maxCorrelation := x }
  | .minRiskReward => { l with minRiskReward := x }
  | .maxLeverage => { l with maxLeverage := x }

def ofKey (given : String) : Except UnknownName LimitField :=
  match all.find? fun f => f.key == given with
  | some f => .ok f
  | none => .error (.riskLimit given)

/-- The number that an input gives the field: finite, not negative, and whole for a count. -/
def accept (f : LimitField) (input : String) : Except Rejection Float :=
  match Number.read (Text.trim input) with
  | .error cause => .error (.notNumber f.label cause)
  | .ok x =>
    if !x.isFinite || x < 0 then .error (.negative f.label)
    else if f = .maxOpenPositions && !Number.hasNoFraction x then .error (.notWhole f.label)
    else .ok x

end LimitField

/-- The second value, where it differs from the first. -/
def differing (a b : Float) : Option Float :=
  if a == b then none else some b

def LimitsUpdate.between (current draft : RiskLimits) : LimitsUpdate where
  maxPortfolioDrawdown := differing current.maxPortfolioDrawdown draft.maxPortfolioDrawdown
  maxSingleTradeRisk := differing current.maxSingleTradeRisk draft.maxSingleTradeRisk
  maxDailyLoss := differing current.maxDailyLoss draft.maxDailyLoss
  maxOpenPositions :=
    if current.maxOpenPositions = draft.maxOpenPositions then none else some draft.maxOpenPositions
  maxPositionSizePct := differing current.maxPositionSizePct draft.maxPositionSizePct
  maxCorrelation := differing current.maxCorrelation draft.maxCorrelation
  minRiskReward := differing current.minRiskReward draft.minRiskReward
  maxLeverage := differing current.maxLeverage draft.maxLeverage

inductive LimitsEditor where
  | viewing
  | editing (draft : RiskLimits)

inductive LimitsCall where
  | start (limits : RiskLimits)
  | setField (f : LimitField) (input : String)
  | cancel
  | save (current : RiskLimits)

inductive LimitsAnswer where
  | done
  | rejected (r : Rejection)
  | update (changes : Option LimitsUpdate)

namespace LimitsEditor

def start (limits : RiskLimits) : LimitsEditor :=
  .editing limits

def draft? : LimitsEditor → Option RiskLimits
  | .viewing => none
  | .editing draft => some draft

def isEditing (e : LimitsEditor) : Bool :=
  e.draft?.isSome

/-- Puts an input into the draft. A rejected one leaves the editor as it was. -/
def setField (f : LimitField) (input : String) : LimitsEditor → Except Rejection LimitsEditor
  | .viewing => .error .notEditing
  | .editing draft => (f.accept input).map fun x => .editing (f.set x draft)

def cancel (_ : LimitsEditor) : LimitsEditor :=
  .viewing

/-- What saving sends; nothing when nothing differs. The editor is then viewing. -/
def save (current : RiskLimits) : LimitsEditor → Option LimitsUpdate
  | .viewing => none
  | .editing draft =>
    let update := LimitsUpdate.between current draft
    if update.isEmpty then none else some update

def call : LimitsCall → LimitsEditor → LimitsAnswer × LimitsEditor
  | .start limits, _ => (.done, start limits)
  | .setField f input, e =>
    match e.setField f input with
    | .ok edited => (.done, edited)
    | .error r => (.rejected r, e)
  | .cancel, e => (.done, e.cancel)
  | .save current, e => (.update (e.save current), .viewing)

end LimitsEditor
end TradingDesk
