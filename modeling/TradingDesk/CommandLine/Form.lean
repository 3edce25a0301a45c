/-! Typed forms of a command: which places and options it has, and the value that comes of the words given
for them. -/

namespace TradingDesk
namespace CommandLine

/-- Why a command line is not carried out. A plea for help and the version count among them. -/
inductive UsageError where
  | unknownArgument (word : String)
  | unknownCommand (word : String)
  | missingCommand
  | missingArguments (usages : List String)
  | missingValue (usage : String)
  | badValue (word usage reason : String)
  | unexpectedValue (word usage : String)
  | repeated (usage : String)
  | help
  | version
  deriving DecidableEq, Repr

namespace UsageError

/-- What is told; nothing for help and the version, which are no faults. -/
def message : UsageError → String
  | .unknownArgument word => "unexpected argument '" ++ word ++ "' found"
  | .unknownCommand word => "unrecognized subcommand '" ++ word ++ "'"
  | .missingCommand => "a command is missing"
  | .missingArguments usages =>
    "the following required arguments were not provided:" ++ String.join (usages.map ("\n  " ++ ·))
  | .missingValue usage => "a value is required for '" ++ usage ++ "' but none was supplied"
  | .badValue word usage reason => "invalid value '" ++ word ++ "' for '" ++ usage ++ "': " ++ reason
  | .unexpectedValue word usage =>
    "unexpected value '" ++ word ++ "' for '" ++ usage ++ "' found; no more were expected"
  | .repeated usage => "the argument '" ++ usage ++ "' cannot be used multiple times"
  | .help | .version => ""

end UsageError

/-- A place takes a word by its position, an option the word after its name, a switch none, and a notice
ends the reading. -/
inductive ArgumentKind where
  | place
  | option
  | switch
  | notice (e : UsageError)
  deriving DecidableEq, Repr

structure Argument where
  name : String
  kind : ArgumentKind
  letter : Option Char := none
  required : Bool := false
  repeats : Bool := false
  check : String → Except String Unit := fun _ => .ok ()

namespace Argument

def isPlace (a : Argument) : Bool :=
  a.kind = .place

def takesValue (a : Argument) : Bool :=
  a.kind = .option || a.kind = .place

def valueName (a : Argument) : String :=
  "<" ++ (a.name.replace "-" "_").toUpper ++ ">"

def usage (a : Argument) : String :=
  match a.kind with
  | .place => a.valueName
  | .option => "--" ++ a.name ++ " " ++ a.valueName
  | _ => "--" ++ a.name

def helpNotice : Argument :=
  { name := "help", kind := .notice .help, letter := some 'h' }

def versionNotice : Argument :=
  { name := "version", kind := .notice .version, letter := some 'V' }

end Argument

/-- The words given for the arguments of a command, by their names and in their order. -/
abbrev Given := List (String × String)

namespace Given

def has (name : String) (g : Given) : Bool :=
  g.any fun (n, _) => n == name

def all (name : String) (g : Given) : List String :=
  (g.filter fun (n, _) => n == name).map Prod.snd

end Given

abbrev Reader (α : Type) := String → Except String α

def anyWord : Reader String := .ok

/-- The arguments of a command and the value that the given words make. -/
structure Form (α : Type) where
  arguments : List Argument
  read : Given → Option α

namespace Form

protected def pure (a : α) : Form α :=
  ⟨[], fun _ => some a⟩

protected def seq (f : Form (α → β)) (x : Unit → Form α) : Form β :=
  ⟨f.arguments ++ (x ()).arguments, fun g => do return (← f.read g) (← (x ()).read g)⟩

instance : Pure Form := ⟨Form.pure⟩
instance : Seq Form := ⟨Form.seq⟩

def one (name : String) (reader : Reader α) (g : Given) : Option α :=
  (g.lookup name).bind fun word => (reader word).toOption

def checked (reader : Reader α) (word : String) : Except String Unit :=
  (reader word).map fun _ => ()

def place (name : String) (reader : Reader α) : Form α where
  arguments := [{ name, kind := .place, required := true, check := checked reader }]
  read := one name reader

def required (name : String) (reader : Reader α) : Form α where
  arguments := [{ name, kind := .option, required := true, check := checked reader }]
  read := one name reader

def optional (name : String) (reader : Reader α) : Form (Option α) where
  arguments := [{ name, kind := .option, check := checked reader }]
  read g := if g.has name then (one name reader g).map some else some none

def default (name : String) (reader : Reader α) (a : α) : Form α where
  arguments := [{ name, kind := .option, check := checked reader }]
  read g := if g.has name then one name reader g else some a

/-- An option that may be given again and again, once at least. -/
def repeated (name : String) (reader : Reader α) : Form (List α) where
  arguments := [{ name, kind := .option, required := true, repeats := true, check := checked reader }]
  read g := (g.all name).mapM fun word => (reader word).toOption

def switch (name : String) (letter : Option Char) : Form Bool where
  arguments := [{ name, kind := .switch, letter }]
  read g := some (g.has name)

end Form
end CommandLine
end TradingDesk
