import TradingDesk.Payload.Choice

/-! Orders as the backend keeps them and as they are placed. -/

namespace TradingDesk

structure Order where
  id : Int64
  exchangeId : String
  exchangeOrderId : String
  symbol : String
  side : Side
  kind : String
  amount : Float
  price : Float
  filled : Float
  status : String
  timestamp : String
  createdAt : String
  updatedAt : String
  deriving DecidableEq

structure NewOrder where
  symbol : String
  side : Side
  kind : Option OrderKind
  amount : Float
  price : Option Float
  exchangeId : Option String
  deriving DecidableEq

open Json Json.Record

namespace Order

def record : Record Order :=
  .pure Order.mk <*> required "id" .int64 <*> default "exchange_id" .text ""
    <*> default "exchange_order_id" .text "" <*> required "symbol" .text
    <*> required "side" Side.decoder <*> default "order_type" .text "market"
    <*> required "amount" .double <*> default "price" .double 0 <*> default "filled" .double 0
    <*> default "status" .text "" <*> default "timestamp" .text "" <*> default "created_at" .text ""
    <*> default "updated_at" .text ""

def decoder : Decoder Order := record.decoder "Order"

def toJson (o : Order) : Json :=
  .object [("id", .integer o.id.toInt), ("exchange_id", .text o.exchangeId),
    ("exchange_order_id", .text o.exchangeOrderId), ("symbol", .text o.symbol),
    ("side", o.side.toJson), ("order_type", .text o.kind), ("amount", .double o.amount),
    ("price", .double o.price), ("filled", .double o.filled), ("status", .text o.status),
    ("timestamp", .text o.timestamp), ("created_at", .text o.createdAt),
    ("updated_at", .text o.updatedAt)]

end Order

/-- Fields without a value are left out. -/
def NewOrder.toJson (o : NewOrder) : Json :=
  .object ([("symbol", .text o.symbol), ("side", o.side.toJson)]
    ++ Json.some? "order_type" (o.kind.map OrderKind.toJson) ++ [("amount", .double o.amount)]
    ++ Json.some? "price" (o.price.map .double) ++ Json.some? "exchange_id" (o.exchangeId.map .text))

end TradingDesk
