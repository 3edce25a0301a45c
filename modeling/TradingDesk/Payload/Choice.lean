import TradingDesk.Json.Record

/-! The enumerations of the trading backend: which side an order takes, of which kind it is, which class
of assets is shown, and in which theme. -/

namespace TradingDesk

inductive Side where
  | buy
  | sell
  deriving DecidableEq, Repr

inductive OrderKind where
  | market
  | limit
  deriving DecidableEq, Repr

inductive AssetClass where
  | crypto
  | equity
  | forex
  deriving DecidableEq, Repr, Inhabited

inductive Theme where
  | dark
  | light
  deriving DecidableEq, Repr, Inhabited

inductive UnknownName where
  | side (given : String)
  | assetClass (given : String)
  | riskLimit (given : String)
  deriving DecidableEq, Repr

def UnknownName.message : UnknownName → String
  | .side given => "Unknown side: " ++ given
  | .assetClass given => "Unknown asset class: " ++ given
  | .riskLimit given => "Unknown risk limit: " ++ given

namespace Side

def name : Side → String
  | .buy => "buy"
  | .sell => "sell"

def choices : List (String × Side) :=
  [("buy", .buy), ("sell", .sell)]

def decoder : Json.Decoder Side := .choice choices

def toJson (s : Side) : Json := .text s.name

/-- The side of that name in any case. -/
def ofName (given : String) : Except UnknownName Side :=
  match choices.lookup (Text.lowerAscii given) with
  | some s => .ok s
  | none => .error (.side given)

end Side

namespace OrderKind

def name : OrderKind → String
  | .market => "market"
  | .limit => "limit"

def choices : List (String × OrderKind) :=
  [("market", .market), ("limit", .limit)]

def decoder : Json.Decoder OrderKind := .choice choices

def toJson (k : OrderKind) : Json := .text k.name

end OrderKind

namespace AssetClass

def name : AssetClass → String
  | .crypto => "crypto"
  | .equity => "equity"
  | .forex => "forex"

def choices : List (String × AssetClass) :=
  [("crypto", .crypto), ("equity", .equity), ("forex", .forex)]

def decoder : Json.Decoder AssetClass := .choice choices

def toJson (c : AssetClass) : Json := .text c.name

def ofName (given : String) : Except UnknownName AssetClass :=
  match choices.lookup (Text.lowerAscii given) with
  | some c => .ok c
  | none => .error (.assetClass given)

/-- The next class of the selector, which wraps around. -/
def next : AssetClass → AssetClass
  | .crypto => .equity
  | .equity => .forex
  | .forex => .crypto

end AssetClass

namespace Theme

def name : Theme → String
  | .dark => "dark"
  | .light => "light"

def title : Theme → String
  | .dark => "Dark"
  | .light => "Light"

def choices : List (String × Theme) :=
  [("dark", .dark), ("light", .light)]

def decoder : Json.Decoder Theme := .choice choices

def toJson (t : Theme) : Json := .text t.name

def toggled : Theme → Theme
  | .dark => .light
  | .light => .dark

end Theme
end TradingDesk
