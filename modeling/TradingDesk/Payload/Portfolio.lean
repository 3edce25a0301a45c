import TradingDesk.Payload.Choice

/-! Portfolios and what they hold. Times are the backend's own texts; they are shown and never
compared. -/

namespace TradingDesk

structure Holding where
  id : Int64
  portfolioId : Int64
  symbol : String
  amount : Float
  avgBuyPrice : Float
  createdAt : String
  updatedAt : String
  deriving DecidableEq

structure Portfolio where
  id : Int64
  name : String
  exchangeId : String
  description : String
  holdings : List Holding
  createdAt : String
  updatedAt : String
  deriving DecidableEq

structure NewPortfolio where
  name : String
  exchangeId : Option String

open Json Json.Record

namespace Holding

def cost (h : Holding) : Float :=
  h.amount * h.avgBuyPrice

def record : Record Holding :=
  .pure Holding.mk <*> default "id" .int64 0 <*> default "portfolio_id" .int64 0
    <*> required "symbol" .text <*> default "amount" .double 0 <*> default "avg_buy_price" .double 0
    <*> default "created_at" .text "" <*> default "updated_at" .text ""

def decoder : Decoder Holding := record.decoder "Holding"

def toJson (h : Holding) : Json :=
  .object [("id", .integer h.id.toInt), ("portfolio_id", .integer h.portfolioId.toInt),
    ("symbol", .text h.symbol), ("amount", .double h.amount), ("avg_buy_price", .double h.avgBuyPrice),
    ("created_at", .text h.createdAt), ("updated_at", .text h.updatedAt)]

end Holding

namespace Portfolio

def record : Record Portfolio :=
  .pure Portfolio.mk <*> required "id" .int64 <*> required "name" .text
    <*> default "exchange_id" .text "" <*> default "description" .text ""
    <*> default "holdings" (.list Holding.decoder) [] <*> default "created_at" .text ""
    <*> default "updated_at" .text ""

def decoder : Decoder Portfolio := record.decoder "Portfolio"

def toJson (p : Portfolio) : Json :=
  .object [("id", .integer p.id.toInt), ("name", .text p.name), ("exchange_id", .text p.exchangeId),
    ("description", .text p.description), ("holdings", .list (p.holdings.map Holding.toJson)),
    ("created_at", .text p.createdAt), ("updated_at", .text p.updatedAt)]

end Portfolio

def NewPortfolio.toJson (p : NewPortfolio) : Json :=
  .object (("name", .text p.name) :: Json.some? "exchange_id" (p.exchangeId.map .text))

end TradingDesk
