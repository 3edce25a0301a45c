import TradingDesk.CommandLine.Grammar
import TradingDesk.Form.Limits
import TradingDesk.Payload.Risk

/-! The commands of the program and the words that they are given by. -/

namespace TradingDesk

inductive Command where
  | watch
  | portfolios
  | portfolio (id : Int64)
  | createPortfolio (name : String) (exchangeId : Option String)
  /-- `sure` leaves out the question. -/
  | deletePortfolio (id : Int64) (sure : Bool)
  | placeOrder (symbol amount side : String) (price exchangeId : Option String)
  | orders
  | order (id : Int64)
  | bars (symbol timeframe : String) (limit : Nat)
  | riskStatus (id : Int64)
  | riskLimits (id : Int64)
  | setLimits (id : Int64) (assignments : List (LimitField × String))
  | editLimits (id : Int64)
  | valueAtRisk (id : Int64) (method : String)
  | heatCheck (id : Int64)
  | resetDaily (id : Int64)
  | positionSize (id : Int64) (question : SizeQuestion)
  | checkTrade (id : Int64) (question : TradeQuestion)
  | workflows (assetClass : Option AssetClass)
  | workflow (id : String)
  | trigger (id : String)
  | enable (id : String)
  | disable (id : String)
  | runs (id : String) (limit : Option Nat)
  | run (id : String)
  | cancelRun (id : String)
  | stepKinds
  /-- `whole` shows all there is. -/
  | headline (assetClass : Option AssetClass) (whole : Bool)
  | tickers
  | exchanges
  | selections
  | saveAssetClass (c : AssetClass)
  | toggleTheme
  | forgetSelections

structure Launch where
  config : String
  noDashboard : Bool
  deriving DecidableEq, Repr

namespace Command

open CommandLine CommandLine.Form

def wholeWord : Reader Int := fun w =>
  match Number.readInt w with
  | some n =>
    if Int64.maxValue.toInt < n then .error "number too large to fit in target type"
    else if n < Int64.minValue.toInt then .error "number too small to fit in target type"
    else .ok n
  | none =>
    .error (if w = "" then "cannot parse integer from empty string" else "invalid digit found in string")

def idWord : Reader Int64 := fun w =>
  (wholeWord w).map Int64.ofInt

def countWord (low high : Nat) : Reader Nat := fun w => do
  let n ← wholeWord w
  if (low : Int) ≤ n ∧ n ≤ high then return n.toNat
  throw (toString n ++ " is not in " ++ toString low ++ "..=" ++ toString high)

def numberWord : Reader Float := fun w =>
  (Number.read w).mapError Number.Unreadable.message

def classWord : Reader AssetClass := fun w =>
  (AssetClass.ofName w).mapError UnknownName.message

def sideWord : Reader Side := fun w =>
  (Side.ofName w).mapError UnknownName.message

/-- The key of a limit, an equals sign and what is assigned. -/
def assignmentWord : Reader (LimitField × String) := fun w =>
  match splitAssignment w with
  | (key, some value) => do
    return (← (LimitField.ofKey (Text.trim key)).mapError UnknownName.message, Text.trim value)
  | (_, none) => .error ("expected field=value, got '" ++ w ++ "'")

def withId (f : Int64 → Command) (name : String) : Form Command :=
  .pure f <*> place name idWord

def withName (f : String → Command) (name : String) : Form Command :=
  .pure f <*> place name anyWord

def portfolioForms : List (String × Form Command) :=
  [("list", .pure portfolios), ("show", withId portfolio "id"),
    ("create", .pure createPortfolio <*> place "name" anyWord <*> optional "exchange" anyWord),
    ("delete", .pure deletePortfolio <*> place "id" idWord <*> switch "yes" (some 'y'))]

def orderForm : Form Command :=
  .pure placeOrder <*> place "symbol" anyWord <*> place "amount" anyWord
    <*> default "side" anyWord "buy" <*> optional "price" anyWord <*> optional "exchange" anyWord

def barsForm : Form Command :=
  .pure bars <*> place "symbol" anyWord <*> default "timeframe" anyWord "1h"
    <*> default "limit" (countWord 1 1000) 100

def sizeForm : Form Command :=
  .pure (fun id entry stop risk => positionSize id ⟨entry, stop, risk⟩) <*> place "portfolio" idWord
    <*> required "entry" numberWord <*> required "stop" numberWord <*> optional "risk" numberWord

def tradeForm : Form Command :=
  .pure (fun id symbol side size entry stop => checkTrade id ⟨symbol, side, size, entry, stop⟩)
    <*> place "portfolio" idWord <*> place "symbol" anyWord <*> default "side" sideWord .buy
    <*> required "size" numberWord <*> required "entry" numberWord <*> optional "stop" numberWord

def riskForms : List (String × Form Command) :=
  [("status", withId riskStatus "portfolio"), ("limits", withId riskLimits "portfolio"),
    ("set-limits", .pure setLimits <*> place "portfolio" idWord <*> repeated "set" assignmentWord),
    ("edit-limits", withId editLimits "portfolio"),
    ("var", .pure valueAtRisk <*> place "portfolio" idWord <*> default "method" anyWord "historical"),
    ("heat-check", withId heatCheck "portfolio"), ("reset-daily", withId resetDaily "portfolio"),
    ("position-size", sizeForm), ("check-trade", tradeForm)]

def workflowForms : List (String × Form Command) :=
  [("list", .pure workflows <*> optional "asset-class" classWord), ("show", withName workflow "id"),
    ("trigger", withName trigger "id"), ("enable", withName enable "id"), ("disable", withName disable "id"),
    ("runs", .pure runs <*> place "id" anyWord <*> optional "limit" (countWord 0 0xFFFFFFFF)),
    ("run", withName run "run-id"), ("cancel-run", withName cancelRun "run-id"), ("steps", .pure stepKinds)]

def selectionForms : List (String × Form Command) :=
  [("show", .pure selections), ("asset-class", .pure saveAssetClass <*> place "value" classWord),
    ("toggle-theme", .pure toggleTheme), ("reset", .pure forgetSelections)]

def launchForm : Form Launch :=
  .pure Launch.mk <*> default "config" anyWord "config.yaml" <*> switch "no-dashboard" none

def grammar : Grammar Launch Command where
  options := launchForm
  entries :=
    [("watch", .command (.pure watch)), ("portfolios", .family none portfolioForms),
      ("order", .command orderForm),
      ("orders", .family (some orders) [("list", .pure orders), ("show", withId order "id")]),
      ("ohlcv", .command barsForm), ("risk", .family none riskForms),
      ("workflows", .family none workflowForms),
      ("kpis", .command (.pure headline <*> optional "asset-class" classWord <*> switch "json" none)),
      ("tickers", .command (.pure tickers)), ("exchanges", .command (.pure exchanges)),
      ("prefs", .family none selectionForms)]

end Command
end TradingDesk
