/-! The exact value of a double: a whole significand times a power of two. Every text of a number in
this library is made from it in whole arithmetic, so no digit is lost on the way. -/

namespace TradingDesk

inductive Exact where
  | undefined
  | endless (negative : Bool)
  | finite (negative : Bool) (significand : Nat) (exponent : Int)
  deriving Repr, DecidableEq

namespace Exact

open Float.Model in
/-- A zero has significand 0 and keeps its sign. -/
def ofFloat (x : Float) : Exact :=
  match x.toModel.unpack with
  | .notANumber => .undefined
  | .infinity s => .endless (s == .negative)
  | .zero s => .finite (s == .negative) 0 0
  | .finite s m e _ => .finite (s == .negative) m e

/-- The whole number nearest to `num / den`; a half goes to the even neighbour. -/
def roundHalfEven (num den : Nat) : Nat :=
  let q := num / den
  let r := num % den
  if 2 * r < den then q else if den < 2 * r then q + 1 else q + q % 2

/-- The magnitude `m * 2 ^ e` times `scale`, as a quotient of whole numbers. -/
def quotient (scale m : Nat) (e : Int) : Nat × Nat :=
  (m * scale * Nat.pow 2 e.toNat, Nat.pow 2 (-e).toNat)

/-- The magnitude `m * 2 ^ e` in units of `1 / scale`, rounded. -/
def units (scale m : Nat) (e : Int) : Nat :=
  let (num, den) := quotient scale m e
  roundHalfEven num den

def whole (m : Nat) (e : Int) : Nat :=
  let (num, den) := quotient 1 m e
  num / den

def isWhole (m : Nat) (e : Int) : Bool :=
  let (num, den) := quotient 1 m e
  num % den == 0

end Exact

/-- The double has no fraction; an endless or undefined one has one. -/
def Number.hasNoFraction (x : Float) : Bool :=
  match Exact.ofFloat x with
  | .finite _ m e => Exact.isWhole m e
  | _ => false

end TradingDesk
