import TradingDesk.Form.Rejection
import TradingDesk.Payload.Trade
import TradingDesk.Text.Upper

/-! An order as it is typed in, and the order that comes of it. -/

namespace TradingDesk

/-- A blank price stands for a market order. -/
structure OrderDraft where
  symbol : String
  side : String
  amount : String
  price : String
  exchangeId : Option String

namespace OrderDraft

def positive (label input : String) : Except Rejection Float :=
  match Number.read (Text.trim input) with
  | .error cause => .error (.notNumber label cause)
  | .ok x => if !x.isFinite || x ≤ 0 then .error (.notPositive label) else .ok x

def priceOf (input : String) : Except Rejection (Option Float) :=
  if Text.isBlankText input then .ok none else (positive "Price" input).map some

def sideOf (input : String) : Except Rejection Side :=
  match Side.ofName (Text.trim input) with
  | .ok side => .ok side
  | .error name => .error (.unknown name)

/-- Symbol, side, amount and price are checked in this order. -/
def build (d : OrderDraft) : Except Rejection NewOrder := do
  if Text.isBlankText d.symbol then throw .noSymbol
  let side ← sideOf d.side
  let amount ← positive "Amount" d.amount
  let price ← priceOf d.price
  let kind := if price.isSome then OrderKind.limit else .market
  return ⟨Text.upper (Text.trim d.symbol), side, some kind, amount, price, d.exchangeId⟩

end OrderDraft
end TradingDesk
