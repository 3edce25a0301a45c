import TradingDesk.Json.Decoder

/-! Records of named fields. A record is read from an object, whose members may come in any order and
may be more than the fields, or from a list of the fields' values. Every field is looked up by itself;
of all problems the one that comes first in the document is reported, and a missing field is found
only at the end. -/

namespace TradingDesk
namespace Json

/-- A result, or a problem with its place in the document. -/
abbrev Placed (α : Type) : Type := Except (Nat × Error) α

namespace Placed

def both (f : Placed (α → β)) (a : Placed α) : Placed β :=
  match f, a with
  | .ok f, .ok a => .ok (f a)
  | .error e, .ok _ => .error e
  | .ok _, .error e => .error e
  | .error (i, e), .error (j, e') => .error (if j < i then (j, e') else (i, e))

def put (place : Nat) : Except Error α → Placed α
  | .ok a => .ok a
  | .error e => .error (place, e)

/-- A problem, if there is one, beside a result. -/
def beside (problem : Option (Nat × Error)) (a : Placed α) : Placed α :=
  match problem with
  | some e => both (.error e) a
  | none => a

def result : Placed α → Except Error α
  | .ok a => .ok a
  | .error (_, e) => .error e

end Placed

inductive Fields where
  | members (found : List (Except Error String × Node))
  | items (found : List Node) (ending : Ending) (whole : String)

inductive Absent (α : Type) where
  | refused
  | inObjects (value : α)
  | allowed (value : α)

/-- A reader of fields; `index` is the position of its first field in the record. -/
structure Record (α : Type) where
  keys : List String
  read : Place → Fields → Nat → Placed α

def isKey (key : String) : Except Error String × Node → Bool
  | (.ok k, _) => k == key
  | (.error _, _) => false

namespace Record

def field (key : String) (d : Decoder α) (absent : Absent α) : Record α where
  keys := [key]
  read p fields index :=
    match fields with
    | .members found =>
      match found.findIdx? (isKey key), found.find? (isKey key) with
      | some i, some (_, n) => .put i (d p n)
      | _, _ => match absent with
        | .refused => .error (found.length + 1, .missing key)
        | .inObjects a | .allowed a => .ok a
    | .items found ending whole =>
      match found[index]?, ending.used?, absent with
      | some n, _, _ => .put index (d p n)
      | none, some e, _ => .error (index, e)
      | none, none, .allowed a => .ok a
      | none, none, _ => .error (index, .wrongLength index whole)

def required (key : String) (d : Decoder α) : Record α :=
  field key d .refused

/-- A field with a value that stands for it when it is left out. -/
def default (key : String) (d : Decoder α) (value : α) : Record α :=
  field key d (.allowed value)

/-- A field that an object may leave out, but a list may not. -/
def mayBe (key : String) (d : Decoder α) : Record (Option α) :=
  field key (.optional d) (.inObjects none)

def pure (a : α) : Record α where
  keys := []
  read _ _ _ := .ok a

def map (f : α → β) (r : Record α) : Record β where
  keys := r.keys
  read p fields index := (r.read p fields index).map f

def and (r : Record (α → β)) (s : Record α) : Record β where
  keys := r.keys ++ s.keys
  read p fields index :=
    (r.read p fields index).both (s.read p fields (index + r.keys.length))

instance : Functor Record where
  map := Record.map

instance : Seq Record where
  seq r s := r.and (s ())

/-- The first member that is no field's first value: a broken key, a field given twice, or a fault in
a member that is passed over. -/
def strayProblem (keys : List String) :
    Nat → List String → List (Except Error String × Node) → Option (Nat × Error)
  | _, _, [] => none
  | i, _, (.error e, _) :: _ => some (i, e)
  | i, seen, (.ok key, n) :: rest =>
    if key ∈ keys then
      if key ∈ seen then some (i, .duplicate key)
      else strayProblem keys (i + 1) (key :: seen) rest
    else match n.skipped? with
      | some e => some (i, e)
      | none => strayProblem keys (i + 1) seen rest

def objectProblem (keys : List String) (found : List (Except Error String × Node))
    (ending : Ending) : Option (Nat × Error) :=
  match strayProblem keys 0 [] found with
  | some problem => some problem
  | none => ending.used?.map (found.length, ·)

def ofMembers (r : Record α) (p : Place) (found : List (Except Error String × Node))
    (ending : Ending) : Except Error α :=
  (Placed.beside (objectProblem r.keys found ending) (r.read p (.members found) 0)).result

def leftover (source : Source) (width : Nat) (found : List Node) (ending : Ending) : Option Error :=
  if found.length ≤ width then
    match ending.used? with
    | none => none
    | some .trailingComma => some .trailingComma
    | some .endInList => some .endInList
    | some _ => some .trailingCharacters
  else match source with
    | .text => some .trailingCharacters
    | .value => some (.wrongLength found.length "fewer elements in array")
    | .setAside =>
      let noun := if width == 1 then " element in sequence" else " elements in sequence"
      some (.wrongLength found.length (toString width ++ noun))

def ofItems (name : String) (r : Record α) (p : Place) (found : List Node)
    (ending : Ending) : Except Error α := do
  let width := r.keys.length
  let noun := if width == 1 then " element" else " elements"
  let whole := "struct " ++ name ++ " with " ++ toString width ++ noun
  let a ← (r.read p (.items found ending whole) 0).result
  match leftover p.source width found ending with
  | some e => .error e
  | none => .ok a

def decoder (name : String) (r : Record α) : Decoder α := fun p n =>
  match n with
  | .object found ending => do
    let inside ← p.enter
    r.ofMembers inside found ending
  | .list found ending => do
    let inside ← p.enter
    r.ofItems name inside found ending
  | n => Decoder.mismatch n ("struct " ++ name)

/-- The members that are not set aside, in order, and those that are, as values. -/
def setAside (keys : List String) (p : Place) :
    Nat → List (Except Error String × Node) → Placed (List (Except Error String × Node))
  | _, [] => .ok []
  | i, (key, n) :: rest =>
    match key with
    | .error e => .error (i, e)
    | .ok k =>
      if k ∈ keys then setAside keys p (i + 1) rest
      else match Decoder.value p n with
        | .error e => .error (i, e)
        | .ok v => (setAside keys p (i + 1) rest).map ((.ok k, Node.ofJson v) :: ·)

/-- Two records in one object: `own` is read on the way, the other members are set aside and `base` is
read from them at the end. -/
def joined (name : String) (base : Record α) (own : Record β) : Decoder (α × β) := fun p n =>
  match n with
  | .object found ending => do
    let inside ← p.enter
    let kept := found.map fun (key, n) =>
      match key with
      | .ok k => if k ∈ own.keys then (key, n) else (key, .null)
      | .error _ => (key, n)
    let aside := setAside own.keys inside 0 found
    let problem := objectProblem own.keys kept ending
    let both := Placed.both (aside.map fun others (b : β) => (others, b))
      (own.read inside (.members found) 0)
    let (others, b) ← (Placed.beside problem both).result
    let named := others.filter fun (key, _) =>
      match key with
      | .ok k => k ∈ base.keys
      | .error _ => false
    let a ← base.ofMembers ⟨.setAside, maxDepth⟩ named .closed
    return (a, b)
  | n => Decoder.mismatch n ("struct " ++ name)

end Record
end Json
end TradingDesk
