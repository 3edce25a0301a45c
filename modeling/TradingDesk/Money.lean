import TradingDesk.Number.Written
import TradingDesk.Payload.Choice

/-! Texts of prices, volumes and changes. -/

namespace TradingDesk
namespace Money

/-- A comma stands before every third digit from the right, not before the first digit. -/
def grouped : List Char → List Char
  | [] => []
  | d :: rest =>
    if !rest.isEmpty && rest.length % 3 == 0 then d :: ',' :: grouped rest
    else d :: grouped rest

def groupedFixed (x : Float) : String :=
  let text := (Number.fixed 2 x).toList
  let whole := text.takeWhile (· != '.')
  let fraction := text.dropWhile (· != '.')
  String.ofList (grouped whole ++ fraction)

/-- A dollar amount such as `$25,000.00` or `-$80.10`. -/
def usd (value : Float) : String :=
  (if value < 0 then "-" else "") ++ "$" ++ groupedFixed value.abs

def signedUsd (value : Float) : String :=
  (if value < 0 then "-" else "+") ++ "$" ++ groupedFixed value.abs

/-- Foreign exchange has five places, a price below one unit six, and all else is a dollar amount. -/
def price (value : Float) (c : AssetClass) : String :=
  if c = .forex then Number.fixed 5 value
  else if value.abs < 1 then Number.fixed 6 value
  else usd value

def thousand : Float := 1000
def million : Float := 1000000
def billion : Float := 1000000000

/-- A volume in billions, millions or thousands with one place, or as a whole number. -/
def volume (value : Float) : String :=
  let size := value.abs
  if billion ≤ size then Number.fixed 1 (value / billion) ++ "B"
  else if million ≤ size then Number.fixed 1 (value / million) ++ "M"
  else if thousand ≤ size then Number.fixed 1 (value / thousand) ++ "K"
  else Number.fixed 0 value

def percent (value : Float) : String :=
  Number.signedFixed 2 value ++ "%"

end Money
end TradingDesk
