import TradingDesk.Dashboard.Keyboard

/-! The characters that a terminal sends for keys. An escape opens a sequence that ends with a letter, or
stands for itself. -/

namespace TradingDesk
namespace Keyboard

inductive Reading where
  | plain
  | escape
  | sequence
  deriving DecidableEq, Repr

def pressed (s : Stroke) (control : Bool) : Input :=
  .key s control true

/-- A character outside a sequence; the first ones of all are letters with the control key. -/
def ofChar (c : Char) : Input :=
  let n := c.toNat
  if c = '\t' then pressed .tab false
  else if c = '\r' || c = '\x7f' then pressed .other false
  else if 1 ≤ n && n ≤ 26 then pressed (.letter (Char.ofNat (n + 96))) true
  else if n < 32 then pressed .other true
  else pressed (.letter c) false

/-- The key that the last character of a sequence names. -/
def ofLast (c : Char) : Input :=
  match c with
  | 'C' => pressed .right false
  | 'D' => pressed .left false
  | 'Z' => pressed .backTab false
  | _ => pressed .other false

def inputsFrom : Reading → List Char → List Input
  | .plain, [] => []
  | .escape, [] => [pressed .escape false]
  | .sequence, [] => []
  | .plain, c :: cs => if c = '\x1b' then inputsFrom .escape cs else ofChar c :: inputsFrom .plain cs
  | .escape, c :: cs =>
    if c = '[' || c = 'O' then inputsFrom .sequence cs
    else if c = '\x1b' then pressed .escape false :: inputsFrom .plain cs
    else ofChar c :: inputsFrom .plain cs
  | .sequence, c :: cs =>
    if c.isAlpha || c = '~' then ofLast c :: inputsFrom .plain cs else inputsFrom .sequence cs

def inputs (typed : String) : List Input :=
  inputsFrom .plain typed.toList

end Keyboard
end TradingDesk
