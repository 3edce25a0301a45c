import TradingDesk.CommandLine.Scan

/-! A whole command line: options of the program, a command, perhaps a command within it, and their
arguments. -/

namespace TradingDesk
namespace CommandLine

/-- A command with a form of its own, or a family of commands. `absent` stands for the family's name
alone. -/
inductive Entry (α : Type) where
  | command (form : Form α)
  | family (absent : Option α) (commands : List (String × Form α))

structure Grammar (ω α : Type) where
  options : Form ω
  entries : List (String × Entry α)

def helpWord : String := "help"

namespace Form

/-- The required arguments that were not given, options before places. -/
def missing (f : Form α) (g : Given) : List Argument :=
  let wanted := f.arguments.filter fun a => a.required && !g.has a.name
  wanted.filter (fun a => !a.isPlace) ++ wanted.filter Argument.isPlace

def finish (f : Form α) (s : Scan) : Except UsageError α := do
  let s ← s.settle
  match f.missing s.given, f.read s.given with
  | [], some a => return a
  | missing, _ => throw (.missingArguments (missing.map Argument.usage))

def level (f : Form α) : Level :=
  { arguments := f.arguments ++ [Argument.helpNotice] }

def parse (f : Form α) (words : List String) : Except UsageError α := do
  let (s, _) ← Scan.words f.level words f.level.start
  f.finish s

end Form

namespace Entry

def help (e : Entry α) (words : List String) : UsageError :=
  match e, words with
  | _, [] => .help
  | .family _ commands, w :: rest =>
    if w == helpWord || (commands.lookup w).isSome then rest.head?.elim .help .unknownCommand
    else .unknownCommand w
  | .command _, w :: _ => .unknownCommand w

def level (commands : List (String × Form α)) : Level :=
  { arguments := [Argument.helpNotice], commands := commands.map Prod.fst ++ [helpWord] }

def parse (e : Entry α) (words : List String) : Except UsageError α :=
  match e with
  | .command form => form.parse words
  | .family absent commands => do
    let l := level commands
    match ← Scan.words l words l.start with
    | (_, some (w, rest)) =>
      match commands.lookup w with
      | some form => form.parse rest
      | none => throw (e.help rest)
    | (_, none) => absent.elim (throw .missingCommand) pure

end Entry

namespace Grammar

def level (g : Grammar ω α) : Level :=
  { arguments := g.options.arguments ++ [Argument.helpNotice, Argument.versionNotice]
    commands := g.entries.map Prod.fst ++ [helpWord] }

def help (g : Grammar ω α) (words : List String) : UsageError :=
  match words with
  | [] => .help
  | w :: rest =>
    match g.entries.lookup w with
    | some e => e.help rest
    | none => if w == helpWord then rest.head?.elim .help .unknownCommand else .unknownCommand w

/-- Faults of a command come before those of an option still pending in front of it. -/
def parse (g : Grammar ω α) (words : List String) : Except UsageError (ω × Option α) := do
  match ← Scan.words g.level words g.level.start with
  | (s, some (w, rest)) =>
    match g.entries.lookup w with
    | some e =>
      let a ← e.parse rest
      return (← g.options.finish s, some a)
    | none => throw (g.help rest)
  | (s, none) => return (← g.options.finish s, none)

end Grammar
end CommandLine
end TradingDesk
