import TradingDesk.Json.Document

/-! Typed readers of a JSON tree. A value is read from a text, from a JSON value, or from a value that
was set aside while its object was read to the end; the three differ in a few messages only. -/

namespace TradingDesk
namespace Json

inductive Source where
  | text
  | value
  | setAside
  deriving DecidableEq

/-- Where a reader stands: what it reads from and how many more levels may be opened. -/
structure Place where
  source : Source
  room : Nat

def Decoder (α : Type) : Type := Place → Node → Except Error α

/-- Opens a list or an object. Only a text has a limit of depth. -/
def Place.enter (p : Place) : Except Error Place :=
  match p.source, p.room with
  | .text, 0 => .error .tooDeep
  | _, n => .ok { p with room := n - 1 }

namespace Decoder

def mismatch (n : Node) (wanted : String) : Except Error α := do
  let found ← n.found
  .error (.wrongType found wanted)

def text : Decoder String := fun _ n =>
  match n with
  | .text s => .ok s
  | n => mismatch n "a string"

def bool : Decoder Bool := fun _ n =>
  match n with
  | .bool b => .ok b
  | n => mismatch n "a boolean"

def double : Decoder Float := fun _ n =>
  match n with
  | .double x => .ok x
  | .integer k => .ok (Float.ofInt k)
  | n => mismatch n "f64"

def bounded (low high : Int) (wanted : String) : Decoder Int := fun _ n =>
  match n with
  | .integer k =>
    if low ≤ k ∧ k ≤ high then .ok k else .error (.wrongValue (.integer k) wanted)
  | n => mismatch n wanted

def int64 : Decoder Int64 := fun p n =>
  (bounded (-0x8000000000000000) 0x7FFFFFFFFFFFFFFF "i64" p n).map Int64.ofInt

def nat32 : Decoder UInt32 := fun p n =>
  (bounded 0 0xFFFFFFFF "u32" p n).map fun k => UInt32.ofNat k.toNat

def nat64 : Decoder UInt64 := fun p n =>
  (bounded 0 0xFFFFFFFFFFFFFFFF "u64" p n).map fun k => UInt64.ofNat k.toNat

/-- A value that is read already is taken however deep it is. -/
def value : Decoder Json := fun p n =>
  n.value (match p.source with
    | .text => p.room
    | _ => n.levels)

def optional (d : Decoder α) : Decoder (Option α) := fun p n =>
  match n with
  | .null => .ok none
  | n => (d p n).map some

def each (d : Decoder α) (p : Place) : List Node → Except Error (List α)
  | [] => .ok []
  | n :: rest => do
    let a ← d p n
    let others ← each d p rest
    return a :: others

def list (d : Decoder α) : Decoder (List α) := fun p n =>
  match n with
  | .list items ending => do
    let inside ← p.enter
    let found ← each d inside items
    match ending.used? with
    | some e => .error e
    | none => return found
  | n => mismatch n "a sequence"

def choose (choices : List (String × α)) (name : String) : Except Error α :=
  match choices.lookup name with
  | some a => .ok a
  | none => .error (.unknownChoice name (choices.map Prod.fst))

/-- What follows the only member of an object that names a choice. -/
def afterChoice (others : List (Except Error String × Node)) (ending : Ending) : Option Error :=
  match others, ending.used? with
  | [], none => none
  | [], some .endInObject => some .endInObject
  | _, _ => some .notValue

def isUnit (source : Source) : Node → Bool
  | .null => true
  | .object [] .closed => source == .setAside
  | _ => false

/-- A choice in a text: its name, or an object with the name as only key and null behind it. -/
def choiceInText (choices : List (String × α)) : Decoder α := fun p n =>
  match n with
  | .text s => choose choices s
  | .unusable e => .error (if e = .outOfRange then .notValue else e)
  | .broken scalar fault => .error (if scalar then .notValue else fault.used)
  | .object found ending => do
    let _ ← p.enter
    match found with
    | [] => match ending.used? with
      | some .endInObject => .error .endInValue
      | some .keyNotText | none => .error .notValue
      | some e => .error e
    | (key, n) :: others =>
      let name ← key
      let a ← choose choices name
      if isUnit p.source n then
        match afterChoice others ending with
        | some e => .error e
        | none => return a
      else mismatch n "unit"
  | _ => .error .notValue

def choiceInValue (choices : List (String × α)) : Decoder α := fun p n =>
  match n with
  | .text s => choose choices s
  | .object [(key, n)] _ => do
    let name ← key
    let a ← choose choices name
    if isUnit p.source n then return a else mismatch n "unit"
  | .object _ _ => .error (.wrongValue .object "map with a single key")
  | n => mismatch n "string or map"

def choice (choices : List (String × α)) : Decoder α := fun p n =>
  match p.source with
  | .text => choiceInText choices p n
  | _ => choiceInValue choices p n

def ofText (d : Decoder α) (text : String) : Except Error α := do
  let document := Document.ofText text
  let a ← d ⟨.text, maxDepth⟩ document.root
  if document.trailing then .error .trailingCharacters else return a

def ofValue (d : Decoder α) (v : Json) : Except Error α :=
  d ⟨.value, maxDepth⟩ (Node.ofJson v)

/-- Reads a value that was set aside. -/
def ofAside (d : Decoder α) (v : Json) : Except Error α :=
  d ⟨.setAside, maxDepth⟩ (Node.ofJson v)

end Decoder
end Json
end TradingDesk
