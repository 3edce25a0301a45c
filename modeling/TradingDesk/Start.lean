import TradingDesk.CommandLine.Command
import TradingDesk.Disk
import TradingDesk.Http.Message
import TradingDesk.LogFilter
import TradingDesk.Session.PreferencesFile
import TradingDesk.Settings.Load

/-! The start of the program: the command line is read, then the settings, and then the files that the
program keeps are opened. -/

namespace TradingDesk

/-- What the program is started with. `filterVariable` names the variable that takes the place of the level
of the log that the settings ask for. -/
structure Surroundings where
  arguments : List String
  environment : Table String := []
  filterVariable : String := "LOG_FILTER"
  disk : Disk := {}
  input : String := ""
  backend : Backend

inductive StartError where
  | usage (e : CommandLine.UsageError)
  | settings (e : SettingsError)
  | noLogFile (name : String)
  | preferences (e : PreferencesError)
  deriving DecidableEq

def StartError.message : StartError → String
  | .usage e => e.message
  | .settings e => e.message
  | .noLogFile name => "opening log file " ++ name
  | .preferences e => e.message

/-- What is known once everything is open. Without a command the portfolios are watched. -/
structure Start where
  settings : Settings
  command : Option Command
  hasDashboard : Bool
  filter : LogFilter
  preferences : Preferences

/-- What was opened before a failure stays. -/
abbrev Opening (α : Type) := ExceptT StartError (StateM Disk) α

namespace Surroundings

def environmentFile : String := ".env"

/-- The environment's variables, and those of the file that it does not have. -/
def fullEnvironment (s : Surroundings) : Table String :=
  EnvFile.load ((s.disk.read? environmentFile).getD "") s.environment

def launch (s : Surroundings) : Except StartError (Launch × Option Command) :=
  match Command.grammar.parse s.arguments with
  | .ok read => .ok read
  | .error e => .error (.usage e)

def settings (config : String) (s : Surroundings) : Except StartError Settings :=
  let loaded := if s.disk.has config && (s.disk.read? config).isNone then .error .unreadableFile
    else Settings.load (s.disk.read? config) s.fullEnvironment
  match loaded with
  | .ok settings => .ok settings
  | .error e => .error (.settings e)

def logFilter (settings : Settings) (s : Surroundings) : LogFilter :=
  .ofText ((s.fullEnvironment.get? s.filterVariable).getD settings.app.logLevel)

end Surroundings

namespace Start

def openLog (name : String) : Opening Unit := do
  match (← get).open? name with
  | some (_, disk) => set disk
  | none => throw (.noLogFile name)

/-- Preferences of these names are kept in no file. -/
def keepsNothing (name : String) : Bool :=
  name = "" || name = ":memory:"

def openPreferences (name : String) : Opening Preferences := do
  if keepsNothing name then return {}
  match (← get).open? name with
  | none => throw (.preferences .cannotOpen)
  | some (text, disk) =>
    match Preferences.ofText text with
    | some p => set disk; return p
    | none => throw (.preferences .notPreferences)

def oneShot : Option Command → Option Command
  | some .watch => none
  | command => command

/-- The log has a file of its own while a dashboard has the screen. -/
def opened (s : Surroundings) : Opening Start := do
  let (launch, given) ← s.launch
  let settings ← s.settings launch.config
  let command := oneShot given
  let hasDashboard := command.isNone && !launch.noDashboard
  if hasDashboard then openLog settings.app.logFile
  let preferences ← openPreferences settings.app.prefsPath
  return { settings, command, hasDashboard, filter := s.logFilter settings, preferences }

end Start
end TradingDesk
