import TradingDesk.Dashboard.Basic

/-! What a system event does: it is kept or recorded, and told by a toast and in the log. -/

namespace TradingDesk
namespace Dashboard

/-- Only a halt in force can be lifted; other news that trading goes on is no news. -/
def observeHalt (now : Nat) (h : HaltStatus) (d : Dashboard) (s : Session) :
    Dashboard × Session × List LogLine :=
  let (d, s, lines) :=
    if h.isHalted then
      (d.record now ("HALT: " ++ h.haltReason),
        s.toast now .error ("Trading halted: " ++ h.haltReason),
        [LogLine.warn ("Trading halted: " ++ h.haltReason)])
    else if d.isHalted then
      (d.record now "Trading resumed", s.toast now .success "Trading resumed", [])
    else (d, s, [])
  ({ d with halt := some h }, s, lines)

def orderNews (o : Order) : String :=
  "Order #" ++ toString o.id.toInt ++ " " ++ o.side.name ++ " " ++ Number.plain o.amount ++ " " ++ o.symbol
    ++ " – " ++ o.status

/-- The toast of an alert; the two gravest kinds are shown as errors. -/
def alertLevel (a : RiskAlert) : ToastLevel :=
  if a.severity = "critical" || a.severity = "high" then .error else .info

def observe (now : Nat) (e : SystemEvent) (d : Dashboard) (s : Session) :
    Dashboard × Session × List LogLine :=
  match e with
  | .halt h => d.observeHalt now h s
  | .orderUpdate o => (d.record now (orderNews o), s, [])
  | .riskAlert a =>
    (d.record now ("Risk alert [" ++ a.severity ++ "]: " ++ a.message),
      s.toast now (alertLevel a) a.message,
      [.warn ("Risk alert (" ++ a.severity ++ "): " ++ a.message)])

end Dashboard
end TradingDesk
