import TradingDesk.Payload.Market
import TradingDesk.Payload.Trade

/-! Messages of the market feed. A message is an object with a type and data; messages of other types
are well formed and of no interest. -/

namespace TradingDesk

structure HaltStatus where
  isHalted : Bool
  haltReason : String
  deriving DecidableEq

structure RiskAlert where
  severity : String
  message : String
  deriving DecidableEq

inductive SystemEvent where
  | halt (status : HaltStatus)
  | orderUpdate (order : Order)
  | riskAlert (alert : RiskAlert)

inductive FeedMessage where
  | ticker (ticker : Ticker)
  | system (event : SystemEvent)

open Json Json.Record

namespace HaltStatus

def record : Record HaltStatus :=
  .pure HaltStatus.mk <*> required "is_halted" .bool <*> default "halt_reason" .text ""

def decoder : Decoder HaltStatus := record.decoder "HaltStatus"

def toJson (s : HaltStatus) : Json :=
  .object [("is_halted", .bool s.isHalted), ("halt_reason", .text s.haltReason)]

end HaltStatus

namespace RiskAlert

def record : Record RiskAlert :=
  .pure RiskAlert.mk <*> default "severity" .text "" <*> required "message" .text

def decoder : Decoder RiskAlert := record.decoder "RiskAlert"

def toJson (a : RiskAlert) : Json :=
  .object [("severity", .text a.severity), ("message", .text a.message)]

end RiskAlert

namespace FeedMessage

def knownTypes : List String :=
  ["ticker", "halt_status", "order_update", "risk_alert"]

/-- The readers of the data, by the name that stands for them. -/
def kinds : List (String × Decoder FeedMessage) :=
  [("ticker", fun p n => (Ticker.decoder p n).map .ticker),
    ("halt_status", fun p n => (HaltStatus.decoder p n).map fun s => .system (.halt s)),
    ("order_update", fun p n => (Order.decoder p n).map fun o => .system (.orderUpdate o)),
    ("risk_alert", fun p n => (RiskAlert.decoder p n).map fun a => .system (.riskAlert a))]

/-- The type of a value, empty if it names none. -/
def typeOf (v : Json) : String :=
  ((v.member? "type").bind text?).getD ""

/-- A message of that type. Its data are read after the whole value has been seen. -/
def ofData (type : String) (v : Json) : Except Json.Error FeedMessage := do
  let decoder ← Decoder.choose kinds type
  match v.member? "data" with
  | none => .error (.missing "data")
  | some data => decoder.ofAside data

def ofJson (v : Json) : Except Json.Error (Option FeedMessage) :=
  if typeOf v ∈ knownTypes then (ofData (typeOf v) v).map some else .ok none

def ofText (text : String) : Except Json.Error (Option FeedMessage) := do
  ofJson (← Json.parse text)

def type : FeedMessage → String
  | .ticker _ => "ticker"
  | .system (.halt _) => "halt_status"
  | .system (.orderUpdate _) => "order_update"
  | .system (.riskAlert _) => "risk_alert"

def data : FeedMessage → Json
  | .ticker t => t.toJson
  | .system (.halt s) => s.toJson
  | .system (.orderUpdate o) => o.toJson
  | .system (.riskAlert a) => a.toJson

def toJson (m : FeedMessage) : Json :=
  .object [("data", m.data), ("type", .text m.type)]

end FeedMessage
end TradingDesk
