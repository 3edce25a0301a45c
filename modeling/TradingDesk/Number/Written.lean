import TradingDesk.Number.Shortest

/-! How numbers are written: with fixed places, in full with the fewest digits, or as a member of a
JSON document. -/

namespace TradingDesk
namespace Number

def zeros (n : Nat) : String :=
  String.ofList (List.replicate n '0')

/-- The number in decimal digits, filled up with leading zeros to `width` digits. -/
def wide (width n : Nat) : String :=
  let text := toString n
  zeros (width - text.length) ++ text

/-- `n` in units of `10 ^ -places`. -/
def withPoint (places n : Nat) : String :=
  if places == 0 then toString n
  else toString (n / Nat.pow 10 places) ++ "." ++ wide places (n % Nat.pow 10 places)

def minus (negative : Bool) : String :=
  if negative then "-" else ""

/-- A fixed number of places; a half goes to the even neighbour, a negative zero keeps its sign. -/
def fixed (places : Nat) (x : Float) : String :=
  match Exact.ofFloat x with
  | .undefined => "NaN"
  | .endless negative => minus negative ++ "inf"
  | .finite negative m e => minus negative ++ withPoint places (Exact.units (Nat.pow 10 places) m e)

def signedFixed (places : Nat) (x : Float) : String :=
  match Exact.ofFloat x with
  | .undefined => "NaN"
  | .endless negative => (if negative then "-" else "+") ++ "inf"
  | .finite negative m e =>
    (if negative then "-" else "+") ++ withPoint places (Exact.units (Nat.pow 10 places) m e)

/-- Digits without an exponent; `whole` is what follows a number without a fraction. -/
def positional (whole : String) (d : Digits) : String :=
  let text := toString d.digits
  if 0 ≤ d.exponent then text ++ zeros d.exponent.toNat ++ whole
  else
    let places := (-d.exponent).toNat
    if places < text.length then
      (text.take (text.length - places)).toString ++ "." ++ (text.drop (text.length - places)).toString
    else "0." ++ zeros (places - text.length) ++ text

def scientific (d : Digits) : String :=
  let text := toString d.digits
  let power := d.exponent + (text.length - 1 : Nat)
  let rest := if text.length == 1 then "" else "." ++ (text.drop 1).toString
  let sign := if power < 0 then "-" else "+"
  (text.take 1).toString ++ rest ++ "e" ++ sign ++ toString power.natAbs

/-- The fewest digits that read back, never with an exponent. -/
def plain (x : Float) : String :=
  match Exact.ofFloat x with
  | .undefined => "NaN"
  | .endless negative => minus negative ++ "inf"
  | .finite negative m e => minus negative ++ positional "" (Digits.shortest .up m e)

/-- The fewest digits that read back, always with a fraction or an exponent. The exponent is written
when the power of the first digit is below -5 or above 15. -/
def finiteMember (negative : Bool) (m : Nat) (e : Int) : String :=
  let d := Digits.shortest .even m e
  let power := d.exponent + ((toString d.digits).length - 1 : Nat)
  minus negative ++ (if power < -5 || 15 < power then scientific d else positional ".0" d)

def member? (x : Float) : Option String :=
  match Exact.ofFloat x with
  | .finite negative m e => some (finiteMember negative m e)
  | _ => none

end Number
end TradingDesk
