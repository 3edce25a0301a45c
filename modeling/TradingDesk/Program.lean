import TradingDesk.Desk.Run
import TradingDesk.Start
import TradingDesk.Text.Lines
import TradingDesk.Watch.Stage

/-! A whole run of the program: what it prints, sends and leaves behind. -/

namespace TradingDesk

/-- `pause` is where the run would have gone on otherwise with more input. -/
structure Report where
  exitCode : Nat := 0
  output : String := ""
  errors : String := ""
  sent : List Request := []
  pause : Option Pause := none
  disk : Disk

namespace Program

def version : String := "investor-desk 0.1.0\n"

def help : String :=
  "Usage: investor-desk [--config FILE] [--no-dashboard] [COMMAND]\n\nCommands:\n" ++
    String.join (Command.grammar.entries.map fun (name, _) => "  " ++ name ++ "\n")

/-- Help and the version are no failures; other misuse has an exit code of its own. -/
def refused (e : StartError) (disk : Disk) : Report :=
  match e with
  | .usage .help => { output := help, disk }
  | .usage .version => { output := version, disk }
  | .usage e => { exitCode := 2, errors := "error: " ++ e.message ++ "\n", disk }
  | e => { exitCode := 1, errors := "Error: " ++ e.message ++ "\n", disk }

def keep (start : Start) (p : Preferences) (disk : Disk) : Disk :=
  let name := start.settings.app.prefsPath
  if Start.keepsNothing name then disk else disk.write name p.toText

def client (start : Start) : Client :=
  .new start.settings.api.baseUrl start.settings.token

def carryOut (start : Start) (k : Command) (s : Surroundings) (disk : Disk) : Report :=
  let desk : Desk :=
    { backend := s.backend, client := client start, input := Text.lines s.input
      preferences := start.preferences }
  let (result, d) := Desk.run (Desk.carryOut k) desk
  let (exitCode, failure) := match result with
    | .ok _ => (0, "")
    | .error e => (1, "Error: " ++ e.message ++ "\n")
  { exitCode
    output := d.output
    errors := start.filter.text d.log ++ failure
    sent := d.sent
    pause := d.pause
    disk := keep start d.preferences disk }

def stage (start : Start) (b : Backend) : Stage :=
  let baseUrl := (client start).baseUrl
  { watch := Watch.start start.settings baseUrl start.preferences (!start.hasDashboard)
    client := client start
    backend := b }

/-- What a watch leaves behind; a dashboard has its log in a file. -/
def watched (start : Start) (s : Stage) (disk : Disk) : Report :=
  let told := start.filter.text s.watch.log
  let disk := keep start s.watch.preferences disk
  let name := start.settings.app.logFile
  if start.hasDashboard then
    { sent := s.sent, disk := disk.write name ((disk.read? name).getD "" ++ told) }
  else { errors := told, sent := s.sent, disk }

def run (s : Surroundings) : Report :=
  match StateT.run (ExceptT.run (Start.opened s)) s.disk with
  | (.error e, disk) => refused e disk
  | (.ok start, disk) => match start.command with
    | some k => carryOut start k s disk
    | none => watched start (stage start s.backend).rest disk

end Program
end TradingDesk
