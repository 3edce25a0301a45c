import TradingDesk.Number.Written
import TradingDesk.Table

/-! JSON values. The members of an object keep the order in which they were put; a document read from
text has them sorted by key. -/

namespace TradingDesk

inductive Json where
  | null
  | bool (b : Bool)
  | integer (n : Int)
  | double (x : Float)
  | text (s : String)
  | list (items : List Json)
  | object (members : List (String × Json))
  deriving Inhabited

namespace Json

def member? (key : String) : Json → Option Json
  | .object members => members.lookup key
  | _ => none

def text? : Json → Option String
  | .text s => some s
  | _ => none

def bool? : Json → Option Bool
  | .bool b => some b
  | _ => none

def items? : Json → Option (List Json)
  | .list items => some items
  | _ => none

def members? : Json → Option (List (String × Json))
  | .object members => some members
  | _ => none

def number? : Json → Option Float
  | .integer n => some (Float.ofInt n)
  | .double x => some x
  | _ => none

/-- A member that is left out when there is no value. -/
def some? (key : String) (value : Option Json) : List (String × Json) :=
  match value with
  | some v => [(key, v)]
  | none => []

def ofOption (encode : α → Json) : Option α → Json
  | some a => encode a
  | none => .null

def ofNat (n : Nat) : Json :=
  .integer n

end Json
end TradingDesk
