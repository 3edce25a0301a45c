import TradingDesk.Number.Exact

/-! The fewest decimal digits that read back as the same double. A decimal grid of step `10 ^ k` is
tried from coarse to fine; the first grid with a point among the reals that round to the double
wins. Of a grid only the two neighbours of the value can be such points. -/

namespace TradingDesk

structure Digits where
  digits : Nat
  exponent : Int
  deriving Repr, DecidableEq

namespace Digits

inductive Tie where
  | up
  | even
  deriving Repr, DecidableEq

/-- Below a power of two the doubles are twice as dense. -/
def halfBelow (m : Nat) (e : Int) : Bool :=
  m == 0x10000000000000 && e > -1074

/-- The neighbour of `m * 2 ^ e` on the grid of step `10 ^ k` that rounds to it. -/
def onGrid (tie : Tie) (m : Nat) (e k : Int) : Option Nat :=
  let scale := Nat.pow 2 (e - 2).toNat * Nat.pow 10 (-k).toNat
  let den := Nat.pow 2 (2 - e).toNat * Nat.pow 10 k.toNat
  let value := 4 * m * scale
  let low := (4 * m - (if halfBelow m e then 1 else 2)) * scale
  let high := (4 * m + 2) * scale
  let below := value / den
  let above := below + 1
  let fits (d : Nat) : Bool :=
    0 < d && (low < d * den && d * den < high || m % 2 == 0 && (low == d * den || d * den == high))
  match fits below, fits above with
  | false, false => none
  | true, false => some below
  | false, true => some above
  | true, true =>
    let mid := (below + above) * den
    if 2 * value < mid then some below
    else if mid < 2 * value then some above
    else match tie with
      | .up => some above
      | .even => some (if below % 2 == 0 then below else above)

/-- Tries at most `steps` grids, from `10 ^ k` to finer ones. -/
def search (tie : Tie) (m : Nat) (e : Int) : Nat → Int → Option Digits
  | 0, _ => none
  | steps + 1, k =>
    match onGrid tie m e k with
    | some d => some ⟨d, k⟩
    | none => search tie m e steps (k - 1)

/-- Seventeen digits always suffice; the first grid lies above the value. -/
def shortest (tie : Tie) (m : Nat) (e : Int) : Digits :=
  if m == 0 then ⟨0, 0⟩
  else
    let estimate := ((m.log2 + e) * 30103) / 100000
    (search tie m e 24 (estimate + 2)).getD ⟨m, 0⟩

end Digits
end TradingDesk
