/-! Reading a double from text: an optional sign, then digits with at most one point and an optional
exponent, or one of the words `inf`, `infinity` and `nan` in any case. The double nearest to the
number is taken. -/

namespace TradingDesk
namespace Number

inductive Unreadable where
  | empty
  | malformed
  deriving Repr, DecidableEq

def Unreadable.message : Unreadable → String
  | .empty => "cannot parse float from empty string"
  | .malformed => "invalid float literal"

def digit (c : Char) : Nat :=
  c.toNat - '0'.toNat

def digitsValue (cs : List Char) : Nat :=
  cs.foldl (fun n c => 10 * n + digit c) 0

/-- The double nearest to `± digits * 10 ^ exponent`; a tie goes to the even significand. -/
def nearest (negative : Bool) (digits : Nat) (exponent : Int) : Float :=
  let x := Float.ofScientific digits (exponent < 0) exponent.natAbs
  if negative then -x else x

def endless (negative : Bool) : Float :=
  let x := Float.ofBits 0x7FF0000000000000
  if negative then -x else x

def undefined : Float :=
  Float.ofBits 0x7FF8000000000000

/-- Takes one leading sign; the first part tells whether it was a minus. -/
def sign : List Char → Bool × List Char
  | '-' :: cs => (true, cs)
  | '+' :: cs => (false, cs)
  | cs => (false, cs)

/-- The exponent part: nothing, or a mark, an optional sign and at least one digit. -/
def exponentPart : List Char → Option Int
  | [] => some 0
  | c :: cs =>
    if c == 'e' || c == 'E' then
      let (negative, ds) := sign cs
      if ds.isEmpty || !ds.all Char.isDigit then none
      else some (if negative then -(digitsValue ds : Int) else digitsValue ds)
    else none

def mantissa (cs : List Char) : Option (List Char × List Char × List Char) :=
  let before := cs.takeWhile Char.isDigit
  let rest := cs.dropWhile Char.isDigit
  let (after, rest) := match rest with
    | '.' :: r => (r.takeWhile Char.isDigit, r.dropWhile Char.isDigit)
    | r => ([], r)
  if before.isEmpty && after.isEmpty then none else some (before, after, rest)

def word (negative : Bool) (cs : List Char) : Option Float :=
  match String.ofList (cs.map Char.toLower) with
  | "inf" | "infinity" => some (endless negative)
  | "nan" => some undefined
  | _ => none

def unsigned (negative : Bool) (cs : List Char) : Option Float :=
  match mantissa cs with
  | none => word negative cs
  | some (before, after, rest) =>
    (exponentPart rest).map fun power =>
      nearest negative (digitsValue (before ++ after)) (power - after.length)

def read (text : String) : Except Unreadable Float :=
  match text.toList with
  | [] => .error .empty
  | cs =>
    let (negative, rest) := sign cs
    match unsigned negative rest with
    | some x => .ok x
    | none => .error .malformed

def readInt (text : String) : Option Int :=
  let (negative, ds) := sign text.toList
  if ds.isEmpty || !ds.all Char.isDigit then none
  else some (if negative then -(digitsValue ds : Int) else digitsValue ds)

end Number
end TradingDesk
