import TradingDesk.CommandLine.Command
import TradingDesk.Desk.Market
import TradingDesk.Desk.Risk
import TradingDesk.Desk.Selections
import TradingDesk.Desk.Workflows

/-! Carrying out one command. -/

namespace TradingDesk

/-- Carries the command out at the asset class that was saved. Watching is no single command. -/
def Command.action (k : Command) (c : AssetClass) : Action Unit :=
  match k with
  | .watch => throw .notOneShot
  | .portfolios => Desk.listPortfolios
  | .portfolio id => Desk.showPortfolio c id
  | .createPortfolio name exchangeId => Desk.createPortfolio name exchangeId
  | .deletePortfolio id sure => Desk.deletePortfolio id sure
  | .placeOrder symbol amount side price exchangeId =>
    Desk.placeOrder { symbol, side, amount, price := price.getD "", exchangeId }
  | .orders => Desk.listOrders c
  | .order id => Desk.showOrder c id
  | .bars symbol timeframe limit => Desk.showBars c symbol timeframe limit
  | .riskStatus id => Desk.showRiskStatus id
  | .riskLimits id => Desk.showLimits id
  | .setLimits id assignments => Desk.setLimits id assignments
  | .editLimits id => Desk.editLimits id
  | .valueAtRisk id method => Desk.showValueAtRisk id method
  | .heatCheck id => Desk.showHeatCheck id
  | .resetDaily id => Desk.resetDaily id
  | .positionSize id question => Desk.showPositionSize id question
  | .checkTrade id question => Desk.showTradeCheck id question
  | .workflows c => Desk.listWorkflows c
  | .workflow id => Desk.showWorkflow id
  | .trigger id => Desk.triggerWorkflow id
  | .enable id => Desk.showStatus (.enable id)
  | .disable id => Desk.showStatus (.disable id)
  | .runs id limit => Desk.listRuns id limit
  | .run id => Desk.showRun id
  | .cancelRun id => Desk.showStatus (.cancelRun id)
  | .stepKinds => Desk.listStepKinds
  | .headline chosen whole => Desk.showHeadline (chosen.getD c) whole
  | .tickers => Desk.listTickers c
  | .exchanges => Desk.listExchanges
  | .selections => Desk.showSelections
  | .saveAssetClass c => Desk.saveAssetClass c
  | .toggleTheme => Desk.toggleTheme
  | .forgetSelections => Desk.forgetSelections

def Desk.carryOut (k : Command) : Action Unit := do
  k.action (← Desk.assetClass)

end TradingDesk
