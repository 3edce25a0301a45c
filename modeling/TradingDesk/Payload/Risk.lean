import TradingDesk.Payload.Choice

/-! Risk figures, the limits that are set on them, and the questions put to the risk engine. -/

namespace TradingDesk

structure RiskStatus where
  equity : Float
  peakEquity : Float
  drawdown : Float
  dailyPnl : Float
  totalPnl : Float
  openPositions : UInt32
  isHalted : Bool
  haltReason : String
  deriving DecidableEq

structure RiskLimits where
  maxPortfolioDrawdown : Float
  maxSingleTradeRisk : Float
  maxDailyLoss : Float
  maxOpenPositions : UInt32
  maxPositionSizePct : Float
  maxCorrelation : Float
  minRiskReward : Float
  maxLeverage : Float
  deriving DecidableEq

/-- The limits that are to change; the others are left out. -/
structure LimitsUpdate where
  maxPortfolioDrawdown : Option Float := none
  maxSingleTradeRisk : Option Float := none
  maxDailyLoss : Option Float := none
  maxOpenPositions : Option UInt32 := none
  maxPositionSizePct : Option Float := none
  maxCorrelation : Option Float := none
  minRiskReward : Option Float := none
  maxLeverage : Option Float := none
  deriving DecidableEq

structure ValueAtRisk where
  var95 : Float
  var99 : Float
  cvar95 : Float
  cvar99 : Float
  method : String
  windowDays : UInt32
  deriving DecidableEq

structure HeatCheck where
  healthy : Bool
  issues : List String
  drawdown : Float
  dailyPnl : Float
  openPositions : UInt32
  maxCorrelation : Float
  maxConcentration : Float
  var95 : Float
  var99 : Float
  cvar95 : Float
  cvar99 : Float
  isHalted : Bool
  deriving DecidableEq

structure SizeQuestion where
  entryPrice : Float
  stopLossPrice : Float
  riskPerTrade : Option Float

structure SizeAnswer where
  size : Float
  riskAmount : Float
  positionValue : Float
  deriving DecidableEq

structure TradeQuestion where
  symbol : String
  side : Side
  size : Float
  entryPrice : Float
  stopLossPrice : Option Float

structure TradeAnswer where
  approved : Bool
  reason : String
  deriving DecidableEq

open Json Json.Record

namespace RiskStatus

def record : Record RiskStatus :=
  .pure RiskStatus.mk <*> required "equity" .double <*> required "peak_equity" .double
    <*> required "drawdown" .double <*> required "daily_pnl" .double <*> required "total_pnl" .double
    <*> required "open_positions" .nat32 <*> required "is_halted" .bool <*> default "halt_reason" .text ""

def decoder : Decoder RiskStatus := record.decoder "RiskStatus"

def toJson (s : RiskStatus) : Json :=
  .object [("equity", .double s.equity), ("peak_equity", .double s.peakEquity),
    ("drawdown", .double s.drawdown), ("daily_pnl", .double s.dailyPnl),
    ("total_pnl", .double s.totalPnl), ("open_positions", .ofNat s.openPositions.toNat),
    ("is_halted", .bool s.isHalted), ("halt_reason", .text s.haltReason)]

end RiskStatus

namespace RiskLimits

def record : Record RiskLimits :=
  .pure RiskLimits.mk <*> required "max_portfolio_drawdown" .double
    <*> required "max_single_trade_risk" .double <*> required "max_daily_loss" .double
    <*> required "max_open_positions" .nat32 <*> required "max_position_size_pct" .double
    <*> required "max_correlation" .double <*> required "min_risk_reward" .double
    <*> required "max_leverage" .double

def decoder : Decoder RiskLimits := record.decoder "RiskLimits"

def toJson (l : RiskLimits) : Json :=
  .object [("max_portfolio_drawdown", .double l.maxPortfolioDrawdown),
    ("max_single_trade_risk", .double l.maxSingleTradeRisk), ("max_daily_loss", .double l.maxDailyLoss),
    ("max_open_positions", .ofNat l.maxOpenPositions.toNat),
    ("max_position_size_pct", .double l.maxPositionSizePct),
    ("max_correlation", .double l.maxCorrelation), ("min_risk_reward", .double l.minRiskReward),
    ("max_leverage", .double l.maxLeverage)]

end RiskLimits

namespace LimitsUpdate

def isEmpty (u : LimitsUpdate) : Bool :=
  u.maxPortfolioDrawdown.isNone && u.maxSingleTradeRisk.isNone && u.maxDailyLoss.isNone &&
    u.maxOpenPositions.isNone && u.maxPositionSizePct.isNone && u.maxCorrelation.isNone &&
    u.minRiskReward.isNone && u.maxLeverage.isNone

def record : Record LimitsUpdate :=
  .pure LimitsUpdate.mk <*> mayBe "max_portfolio_drawdown" .double
    <*> mayBe "max_single_trade_risk" .double <*> mayBe "max_daily_loss" .double
    <*> mayBe "max_open_positions" .nat32 <*> mayBe "max_position_size_pct" .double
    <*> mayBe "max_correlation" .double <*> mayBe "min_risk_reward" .double
    <*> mayBe "max_leverage" .double

def decoder : Decoder LimitsUpdate := record.decoder "RiskLimitsUpdate"

def toJson (u : LimitsUpdate) : Json :=
  .object (Json.some? "max_portfolio_drawdown" (u.maxPortfolioDrawdown.map .double)
    ++ Json.some? "max_single_trade_risk" (u.maxSingleTradeRisk.map .double)
    ++ Json.some? "max_daily_loss" (u.maxDailyLoss.map .double)
    ++ Json.some? "max_open_positions" (u.maxOpenPositions.map fun n => .ofNat n.toNat)
    ++ Json.some? "max_position_size_pct" (u.maxPositionSizePct.map .double)
    ++ Json.some? "max_correlation" (u.maxCorrelation.map .double)
    ++ Json.some? "min_risk_reward" (u.minRiskReward.map .double)
    ++ Json.some? "max_leverage" (u.maxLeverage.map .double))

end LimitsUpdate

namespace ValueAtRisk

def record : Record ValueAtRisk :=
  .pure ValueAtRisk.mk <*> required "var_95" .double <*> required "var_99" .double
    <*> required "cvar_95" .double <*> required "cvar_99" .double <*> required "method" .text
    <*> required "window_days" .nat32

def decoder : Decoder ValueAtRisk := record.decoder "VarData"

def toJson (v : ValueAtRisk) : Json :=
  .object [("var_95", .double v.var95), ("var_99", .double v.var99), ("cvar_95", .double v.cvar95),
    ("cvar_99", .double v.cvar99), ("method", .text v.method), ("window_days", .ofNat v.windowDays.toNat)]

end ValueAtRisk

namespace HeatCheck

def record : Record HeatCheck :=
  .pure HeatCheck.mk <*> required "healthy" .bool <*> default "issues" (.list .text) []
    <*> required "drawdown" .double <*> required "daily_pnl" .double
    <*> required "open_positions" .nat32 <*> default "max_correlation" .double 0
    <*> default "max_concentration" .double 0 <*> default "var_95" .double 0
    <*> default "var_99" .double 0 <*> default "cvar_95" .double 0 <*> default "cvar_99" .double 0
    <*> default "is_halted" .bool false

def decoder : Decoder HeatCheck := record.decoder "HeatCheck"

def toJson (h : HeatCheck) : Json :=
  .object [("healthy", .bool h.healthy), ("issues", .list (h.issues.map .text)),
    ("drawdown", .double h.drawdown), ("daily_pnl", .double h.dailyPnl),
    ("open_positions", .ofNat h.openPositions.toNat), ("max_correlation", .double h.maxCorrelation),
    ("max_concentration", .double h.maxConcentration), ("var_95", .double h.var95),
    ("var_99", .double h.var99), ("cvar_95", .double h.cvar95), ("cvar_99", .double h.cvar99),
    ("is_halted", .bool h.isHalted)]

end HeatCheck

def SizeQuestion.toJson (q : SizeQuestion) : Json :=
  .object ([("entry_price", .double q.entryPrice), ("stop_loss_price", .double q.stopLossPrice)]
    ++ Json.some? "risk_per_trade" (q.riskPerTrade.map .double))

namespace SizeAnswer

def record : Record SizeAnswer :=
  .pure SizeAnswer.mk <*> required "size" .double <*> required "risk_amount" .double
    <*> required "position_value" .double

def decoder : Decoder SizeAnswer := record.decoder "PositionSizeResponse"

def toJson (a : SizeAnswer) : Json :=
  .object [("size", .double a.size), ("risk_amount", .double a.riskAmount),
    ("position_value", .double a.positionValue)]

end SizeAnswer

def TradeQuestion.toJson (q : TradeQuestion) : Json :=
  .object ([("symbol", .text q.symbol), ("side", q.side.toJson), ("size", .double q.size),
      ("entry_price", .double q.entryPrice)]
    ++ Json.some? "stop_loss_price" (q.stopLossPrice.map .double))

namespace TradeAnswer

def record : Record TradeAnswer :=
  .pure TradeAnswer.mk <*> required "approved" .bool <*> required "reason" .text

def decoder : Decoder TradeAnswer := record.decoder "TradeCheckResponse"

def toJson (a : TradeAnswer) : Json :=
  .object [("approved", .bool a.approved), ("reason", .text a.reason)]

end TradeAnswer
end TradingDesk
