import TradingDesk.Api.Client
import TradingDesk.Payload.Market
import TradingDesk.Payload.Portfolio
import TradingDesk.Payload.Risk
import TradingDesk.Payload.Trade
import TradingDesk.Payload.Workflow

/-! The endpoints of the trading backend. Identifiers and symbols go into the path as they are. -/

namespace TradingDesk

def orderHistoryLimit : Nat := 50

namespace Endpoint

def shownId (id : Int64) : String := toString id.toInt

def portfolios : Endpoint (List Portfolio) :=
  fetch "/portfolios/" [] (.list Portfolio.decoder)

def portfolio (id : Int64) : Endpoint Portfolio :=
  fetch ("/portfolios/" ++ shownId id) [] Portfolio.decoder

def createPortfolio (p : NewPortfolio) : Endpoint Portfolio :=
  send .post "/portfolios/" (some p.toJson) Portfolio.decoder

def deletePortfolio (id : Int64) : Endpoint Unit :=
  { verb := .delete, path := "/portfolios/" ++ shownId id, read := Reply.confirm }

def tickers (symbols : List String) : Endpoint (List Ticker) :=
  fetch "/market/tickers" [("symbols", String.intercalate "," symbols)] (.list Ticker.decoder)

def bars (symbol timeframe : String) (limit : Nat) : Endpoint (List Bar) :=
  fetch ("/market/ohlcv/" ++ symbol) [("timeframe", timeframe), ("limit", toString limit)]
    (.list Bar.decoder)

def ofClass (c : Option AssetClass) : List (String × String) :=
  c.toList.map fun c => ("asset_class", c.name)

def headline (c : Option AssetClass) : Endpoint Headline :=
  fetch "/dashboard/kpis/" (ofClass c) Headline.decoder

def exchanges : Endpoint (List Exchange) :=
  fetch "/exchanges/" [] (.list Exchange.decoder)

def riskPath (id : Int64) (part : String) : String :=
  "/risk/" ++ shownId id ++ "/" ++ part ++ "/"

def riskStatus (id : Int64) : Endpoint RiskStatus :=
  fetch (riskPath id "status") [] RiskStatus.decoder

def riskLimits (id : Int64) : Endpoint RiskLimits :=
  fetch (riskPath id "limits") [] RiskLimits.decoder

def updateLimits (id : Int64) (u : LimitsUpdate) : Endpoint RiskLimits :=
  send .put (riskPath id "limits") (some u.toJson) RiskLimits.decoder

def valueAtRisk (id : Int64) (method : String) : Endpoint ValueAtRisk :=
  fetch (riskPath id "var") [("method", method)] ValueAtRisk.decoder

def heatCheck (id : Int64) : Endpoint HeatCheck :=
  fetch (riskPath id "heat-check") [] HeatCheck.decoder

def positionSize (id : Int64) (q : SizeQuestion) : Endpoint SizeAnswer :=
  send .post (riskPath id "position-size") (some q.toJson) SizeAnswer.decoder

def checkTrade (id : Int64) (q : TradeQuestion) : Endpoint TradeAnswer :=
  send .post (riskPath id "check-trade") (some q.toJson) TradeAnswer.decoder

def resetDaily (id : Int64) : Endpoint RiskStatus :=
  send .post (riskPath id "reset-daily") none RiskStatus.decoder

def workflows (c : Option AssetClass) : Endpoint (List Workflow) :=
  fetch "/workflows/" (ofClass c) (.list Workflow.decoder)

def workflow (id : String) : Endpoint WorkflowDetail :=
  fetch ("/workflows/" ++ id ++ "/") [] WorkflowDetail.decoder

def stepKinds : Endpoint (List StepKind) :=
  fetch "/workflow-steps/" [] (.list StepKind.decoder)

def trigger (id : String) : Endpoint Triggered :=
  send .post ("/workflows/" ++ id ++ "/trigger/") none Triggered.decoder

def enable (id : String) : Endpoint StatusAnswer :=
  send .post ("/workflows/" ++ id ++ "/enable/") none StatusAnswer.decoder

def disable (id : String) : Endpoint StatusAnswer :=
  send .post ("/workflows/" ++ id ++ "/disable/") none StatusAnswer.decoder

def runs (id : String) (limit : Option Nat) : Endpoint (List WorkflowRun) :=
  fetch ("/workflows/" ++ id ++ "/runs/") (limit.toList.map fun n => ("limit", toString n))
    (.list WorkflowRun.decoder)

def run (id : String) : Endpoint RunDetail :=
  fetch ("/workflow-runs/" ++ id ++ "/") [] RunDetail.decoder

def cancelRun (id : String) : Endpoint StatusAnswer :=
  send .post ("/workflow-runs/" ++ id ++ "/cancel/") none StatusAnswer.decoder

def orders : Endpoint (List Order) :=
  fetch "/trading/orders" [("limit", toString orderHistoryLimit)] (.list Order.decoder)

def order (id : Int64) : Endpoint Order :=
  fetch ("/trading/orders/" ++ shownId id) [] Order.decoder

def createOrder (o : NewOrder) : Endpoint Order :=
  send .post "/trading/orders" (some o.toJson) Order.decoder

end Endpoint

/-- The tickers of some symbols. Nothing is sent for no symbols. -/
def Client.tickers (b : Backend) (past : List Request) (symbols : List String) (c : Client) :
    List Request × Except Failure (List Ticker) :=
  if symbols.isEmpty then (past, .ok []) else c.call b past (.tickers symbols)

end TradingDesk
