import TradingDesk.Desk.Basic
import TradingDesk.Form.LimitsDialogue
import TradingDesk.Money

/-! Risk at the desk: figures, limits and calculators of a portfolio. -/

namespace TradingDesk
namespace Desk

open Text Money Number

def showRiskStatus (id : Int64) : Action Unit := do
  let s ← ask (.riskStatus id)
  line ("Equity        " ++ fixed 2 s.equity ++ " (peak " ++ fixed 2 s.peakEquity ++ ")")
  line ("Drawdown      " ++ fixed 2 (s.drawdown * 100) ++ "%")
  line ("Daily P&L     " ++ signedUsd s.dailyPnl)
  line ("Total P&L     " ++ signedUsd s.totalPnl)
  line ("Open          " ++ toString s.openPositions.toNat)
  if s.isHalted then line ("HALTED        " ++ s.haltReason)

def limitRow (l : RiskLimits) (f : LimitField) : String :=
  padRight 20 f.label ++ " " ++ padRight 24 f.key ++ " " ++ plain (f.get l)

def printLimits (l : RiskLimits) : Action Unit :=
  for f in LimitField.all do
    line (limitRow l f)

def showLimits (id : Int64) : Action Unit := do
  printLimits (← ask (.riskLimits id))

/-- Only what differs is sent, and nothing when nothing does. -/
def saveLimits (id : Int64) (current : RiskLimits) (e : LimitsEditor) : Action Unit := do
  match e.save current with
  | some update =>
    let saved ← ask (.updateLimits id update)
    line "Risk limits updated"
    printLimits saved
  | none => line "No changes"

/-- The assignments one after the other; the first that is rejected ends them. -/
def assignAll (assignments : List (LimitField × String)) (e : LimitsEditor) :
    Except Rejection LimitsEditor :=
  assignments.foldlM (fun e (f, value) => e.setField f value) e

def setLimits (id : Int64) (assignments : List (LimitField × String)) : Action Unit := do
  let current ← ask (.riskLimits id)
  match assignAll assignments (LimitsEditor.start current) with
  | .ok e => saveLimits id current e
  | .error r => throw (.rejection r)

def editLimits (id : Int64) : Action Unit := do
  let current ← ask (.riskLimits id)
  line "Enter a new value, leave empty to keep it, or q to cancel."
  let dialogue := LimitsDialogue.run current (LimitsEditor.start current) (← get).input
  modify fun d => { d with input := dialogue.rest }
  write dialogue.output
  if dialogue.ranOut then runOut
  if dialogue.editor.isEditing then saveLimits id current dialogue.editor else line "Cancelled"

def showValueAtRisk (id : Int64) (method : String) : Action Unit := do
  let v ← ask (.valueAtRisk id method)
  line (v.method ++ " VaR over " ++ toString v.windowDays.toNat ++ " days: 95% " ++ fixed 2 v.var95
    ++ "  99% " ++ fixed 2 v.var99 ++ "  CVaR 95% " ++ fixed 2 v.cvar95 ++ "  99% " ++ fixed 2 v.cvar99)

def showHeatCheck (id : Int64) : Action Unit := do
  let h ← ask (.heatCheck id)
  line (if h.healthy then "Healthy" else "Issues found")
  for issue in h.issues do
    line ("  - " ++ issue)
  line ("Drawdown " ++ fixed 2 (h.drawdown * 100) ++ "%  daily P&L " ++ signedUsd h.dailyPnl
    ++ "  open " ++ toString h.openPositions.toNat ++ "  max corr " ++ fixed 2 h.maxCorrelation
    ++ "  max conc " ++ fixed 2 h.maxConcentration)

def resetDaily (id : Int64) : Action Unit := do
  let s ← ask (.resetDaily id)
  line ("Daily counters reset – daily P&L " ++ signedUsd s.dailyPnl)

def showPositionSize (id : Int64) (q : SizeQuestion) : Action Unit := do
  let a ← ask (.positionSize id q)
  line ("Size " ++ fixed 6 a.size ++ "  risk " ++ fixed 2 a.riskAmount
    ++ "  position value " ++ fixed 2 a.positionValue)

def showTradeCheck (id : Int64) (q : TradeQuestion) : Action Unit := do
  let a ← ask (.checkTrade id q)
  line ((if a.approved then "Approved" else "Rejected") ++ ": " ++ a.reason)

end Desk
end TradingDesk
