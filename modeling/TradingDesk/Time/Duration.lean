import TradingDesk.Number.Written

/-! Spans of time in nanoseconds, and their texts. -/

namespace TradingDesk
namespace Duration

def second : Nat := 1000000000
def millisecond : Nat := 1000000
def microsecond : Nat := 1000

/-- Seconds as a span, to the nearest nanosecond; a half goes to the even neighbour. What is negative, endless or
undefined is no span, nor are seconds that do not fit 64 bits. -/
def ofSeconds? (seconds : Float) : Option Nat :=
  match Exact.ofFloat seconds with
  | .finite negative m e =>
    let n := Exact.units second m e
    if (negative && m != 0) || UInt64.size * second ≤ n then none else some n
  | _ => none

/-- `n` in units of `10 ^ places`, without zeros at the end of the fraction. -/
def inUnits (places n : Nat) : String :=
  let fraction := (Number.wide places (n % Nat.pow 10 places)).toList.reverse.dropWhile (· == '0')
  toString (n / Nat.pow 10 places) ++
    (if places = 0 || fraction.isEmpty then "" else "." ++ String.ofList fraction.reverse)

/-- In the greatest unit of which there is at least one. -/
def text (n : Nat) : String :=
  if second ≤ n then inUnits 9 n ++ "s"
  else if millisecond ≤ n then inUnits 6 n ++ "ms"
  else if microsecond ≤ n then inUnits 3 n ++ "µs"
  else toString n ++ "ns"

end Duration
end TradingDesk
