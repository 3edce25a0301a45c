import TradingDesk.Table
import TradingDesk.Text.Blank

/-! Files of environment variables: lines of a name, an equals sign and a value, which may be quoted and may
refer to other variables. A variable that is set already is left alone; reading ends at the first line
that is malformed. -/

namespace TradingDesk
namespace EnvFile

/-- Where a logical line stands: a quote may keep it open over several lines. -/
inductive Fold where
  | plain
  | blank
  | escape
  | double
  | doubleEscape
  | single
  | singleEscape
  | comment
  deriving DecidableEq

def Fold.next (f : Fold) (c : Char) : Fold :=
  let plainly : Fold :=
    if c == '\\' then .escape else if c == '"' then .double else if c == '\'' then .single else .plain
  match f with
  | .plain => if Text.isBlank c && c != '\n' && c != '\r' then .blank else plainly
  | .blank => if c == '#' then .comment else plainly
  | .escape => .plain
  | .double => if c == '\\' then .doubleEscape else if c == '"' then .plain else .double
  | .doubleEscape => .double
  | .single => if c == '\\' then .singleEscape else if c == '\'' then .plain else .single
  | .singleEscape => .single
  | .comment => .comment

def physicalLines (text : String) : List (List Char) :=
  let parts := (text.splitOn "\n").map String.toList
  parts.dropLast.map (· ++ ['\n']) ++ (parts.getLast?.toList.filter fun l => !l.isEmpty)

/-- A line read up to a comment: the state behind it and, if there is a comment, what stands before it. -/
def scanLine (f : Fold) : List Char → List Char → Fold × List Char
  | read, [] => (f, read.reverse)
  | read, c :: rest =>
    match f.next c with
    | .comment => (.comment, read.reverse)
    | f => scanLine f (c :: read) rest

def withoutEnd (cs : List Char) : List Char :=
  match cs.reverse with
  | '\n' :: '\r' :: rest => rest.reverse
  | '\n' :: rest => rest.reverse
  | _ => cs

/-- The logical lines; `none` stands for one that never ends. -/
def logicalLines (f : Fold) (held : List Char) : List (List Char) → List (Option (List Char))
  | [] => if f = .plain then [] else [none]
  | line :: rest =>
    if (Text.trimLeftChars (held ++ line)).head? == some '#' then
      some [] :: logicalLines .plain [] rest
    else
      let (f, read) := scanLine f [] line
      match f with
      | .plain => some (withoutEnd (held ++ read)) :: logicalLines .plain [] rest
      | .comment => some (held ++ read) :: logicalLines .plain [] rest
      | f => logicalLines f (held ++ read) rest

/-- The variables known so far: those that were set, and those of the file. -/
structure Scope where
  set : Table String
  file : Table String := []

def Scope.value (name : String) (s : Scope) : String :=
  ((s.set.get? name).or (s.file.get? name)).getD ""

/-- Letters and digits, and every character beyond ASCII. -/
def inName (c : Char) : Bool :=
  c.isAlphanum || 128 ≤ c.toNat

/-- A reference in a value: none, a bare name, or a name between braces. -/
inductive Reference where
  | none
  | bare (name : List Char)
  | braced (name : List Char)

/-- How far a value is read. `output` is reversed, as are the names. -/
structure Value where
  output : List Char := []
  single : Bool := false
  double : Bool := false
  escaped : Bool := false
  ending : Bool := false
  reference : Reference := .none

def Value.add (c : Char) (v : Value) : Value :=
  { v with output := c :: v.output }

def Value.refer (s : Scope) (name : List Char) (v : Value) : Value :=
  { v with output := (s.value (String.ofList name.reverse)).toList.reverse ++ v.output, reference := .none }

/-- One more character; `none` when it cannot stand there. -/
def Value.step (s : Scope) (c : Char) (v : Value) : Option Value :=
  if v.ending then
    if c == ' ' || c == '\t' then some v else none
  else if v.escaped then
    let v := { v with escaped := false }
    if ['\\', '\'', '"', '$', ' '].contains c then some (v.add c)
    else if c == 'n' then some (v.add '\n')
    else none
  else if v.single then
    if c == '\'' then some { v with single := false } else some (v.add c)
  else match v.reference with
  | .bare name =>
    if inName c then some { v with reference := .bare (c :: name) }
    else if c == '\x7b' && name.isEmpty then some { v with reference := .braced [] }
    else
      let v := v.refer s name
      if c == '$' then some { v with reference := .bare [] } else some (v.add c)
  | .braced name =>
    if c == '\x7d' then some (v.refer s name)
    else some { v with reference := .braced (c :: name) }
  | .none =>
    if c == '$' then some { v with reference := .bare [] }
    else if v.double then
      if c == '"' then some { v with double := false }
      else if c == '\\' then some { v with escaped := true }
      else some (v.add c)
    else if c == '\'' then some { v with single := true }
    else if c == '"' then some { v with double := true }
    else if c == '\\' then some { v with escaped := true }
    else if c == ' ' || c == '\t' then some { v with ending := true }
    else some (v.add c)

/-- A value up to the end of its line or to a comment. -/
def readValue (s : Scope) : Value → List Char → Option String
  | v, [] =>
    match v.reference with
    | .braced _ => none
    | .bare name => if v.single || v.double then none else some (String.ofList (v.refer s name).output.reverse)
    | .none => if v.single || v.double then none else some (String.ofList v.output.reverse)
  | v, c :: rest =>
    if v.ending && c == '#' then readValue s v []
    else match v.step s c with
      | some v => readValue s v rest
      | none => none

def name? (cs : List Char) : Option (String × List Char) :=
  match cs with
  | c :: _ =>
    if c.isAlpha || c == '_' then
      let inKey := fun (ch : Char) => ch.isAlphanum || ch == '_' || ch == '.'
      some (String.ofList (cs.takeWhile inKey), Text.trimLeftChars (cs.dropWhile inKey))
    else none
  | [] => none

def afterEquals? : List Char → Option (List Char)
  | '=' :: rest => some (Text.trimLeftChars rest)
  | _ => none

/-- The variable of a line. The word `export` may stand before it. -/
def assignment? (cs : List Char) : Option (String × List Char) := do
  let (name, rest) ← name? cs
  if name = "export" && (afterEquals? rest).isNone then
    let (name, rest) ← name? rest
    return (name, ← afterEquals? rest)
  else return (name, ← afterEquals? rest)

def readLines (s : Scope) : List (Option (List Char)) → Scope
  | [] => s
  | none :: _ => s
  | some line :: rest =>
    let line := Text.trimChars line
    if line.isEmpty || line.head? == some '#' then readLines s rest
    else match assignment? line with
      | none => s
      | some (name, value) =>
        let value := if value.head? == some '#' then some "" else readValue s {} value
        match value with
        | none => s
        | some text =>
          let known := s.set.has name
          readLines { set := if known then s.set else s.set.put name text, file := s.file.put name text } rest

def load (text : String) (environment : Table String) : Table String :=
  (readLines { set := environment } (logicalLines .plain [] (physicalLines text))).set

end EnvFile
end TradingDesk
