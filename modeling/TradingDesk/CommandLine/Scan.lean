import TradingDesk.CommandLine.Form

/-! One level of a command line: its words are read from the left until they end or name a command of the
level. An argument is checked when the next one begins, so that of two faults the earlier one is told, but
for a name that nobody knows, which is told at once. -/

namespace TradingDesk
namespace CommandLine

structure Level where
  arguments : List Argument
  commands : List String := []

inductive Shape where
  | plain
  | separator
  | long (name : String) (value : Option String)
  | letters (cs : List Char)
  deriving DecidableEq, Repr

/-- The parts before and after the first equals sign, if there is one. -/
def splitAssignment (text : String) : String × Option String :=
  let name := text.toList.takeWhile (· != '=')
  match text.toList.dropWhile (· != '=') with
  | _ :: value => (String.ofList name, some (String.ofList value))
  | [] => (String.ofList name, none)

def Shape.ofWord (word : String) : Shape :=
  match word.toList with
  | ['-', '-'] => .separator
  | '-' :: '-' :: rest =>
    let (name, value) := splitAssignment (String.ofList rest)
    .long name value
  | '-' :: c :: rest => .letters (c :: rest)
  | _ => .plain

/-- How far a level has been read. `pending` is the last argument, still to be checked, with its word;
`places` are those still empty; after a separator words are `literal`. -/
structure Scan where
  given : Given := []
  pending : Option (Argument × Option String) := none
  places : List Argument
  literal : Bool := false

namespace Level

def start (l : Level) : Scan :=
  { places := l.arguments.filter Argument.isPlace }

def long? (name : String) (l : Level) : Option Argument :=
  l.arguments.find? fun a => !a.isPlace && a.name == name

def letter? (c : Char) (l : Level) : Option Argument :=
  l.arguments.find? fun a => a.letter == some c

end Level

namespace Scan

def awaiting (s : Scan) : Bool :=
  match s.pending with
  | some (_, none) => true
  | _ => false

/-- Takes an argument for good; only some may come again. -/
def take (a : Argument) (word : String) (s : Scan) : Except UsageError Scan :=
  if !a.repeats && s.given.has a.name then .error (.repeated a.usage)
  else match a.check word with
    | .ok _ => .ok { s with given := s.given ++ [(a.name, word)], pending := none }
    | .error reason => .error (.badValue word a.usage reason)

def settle (s : Scan) : Except UsageError Scan :=
  match s.pending with
  | none => .ok s
  | some (a, none) => .error (.missingValue a.usage)
  | some (a, some word) => s.take a word

/-- A switch or a notice takes effect at once. -/
def react (a : Argument) (s : Scan) : Except UsageError Scan := do
  let s ← s.settle
  match a.kind with
  | .notice e => .error e
  | _ => s.take a ""

def long (l : Level) (name : String) (value : Option String) (s : Scan) : Except UsageError Scan :=
  match l.long? name with
  | none => .error (.unknownArgument ("--" ++ name))
  | some a =>
    match a.takesValue, value with
    | true, some word => do (← s.settle).take a word
    | true, none => do return { ← s.settle with pending := some (a, none) }
    | false, some word => .error (.unexpectedValue word a.usage)
    | false, none => s.react a

/-- A run of letters behind one dash. No letter takes a value. -/
def letters (l : Level) : List Char → Scan → Except UsageError Scan
  | [], s => .ok s
  | c :: cs, s =>
    match l.letter? c with
    | none => .error (.unknownArgument ("-" ++ c.toString))
    | some a => do letters l cs (← s.react a)

def fill (l : Level) (word : String) (s : Scan) : Except UsageError Scan :=
  match s.places with
  | a :: places => do return { ← s.settle with pending := some (a, some word), places }
  | [] =>
    if l.commands.isEmpty || (s.literal && word ∈ l.commands) then .error (.unknownArgument word)
    else .error (.unknownCommand word)

def plain (l : Level) (word : String) (s : Scan) : Except UsageError Scan :=
  match s.pending with
  | some (a, none) => .ok { s with pending := some (a, some word) }
  | _ => s.fill l word

def word (l : Level) (word : String) (s : Scan) : Except UsageError Scan :=
  if s.literal then s.fill l word
  else match Shape.ofWord word with
    | .separator => .ok { s with literal := true }
    | .long name value => s.long l name value
    | .letters cs => s.letters l cs
    | .plain => s.plain l word

def enters (l : Level) (word : String) (s : Scan) : Bool :=
  !s.literal && !s.awaiting && word ∈ l.commands

/-- Reads words until they end or name a command; the second part is the command and what follows it. -/
def words (l : Level) : List String → Scan → Except UsageError (Scan × Option (String × List String))
  | [], s => .ok (s, none)
  | w :: ws, s => if s.enters l w then .ok (s, some (w, ws)) else do words l ws (← s.word l w)

end Scan
end CommandLine
end TradingDesk
