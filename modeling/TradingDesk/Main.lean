import TradingDesk.Dashboard.View
import TradingDesk.Http.Routes
import TradingDesk.Http.Wire
import TradingDesk.Program
import TradingDesk.Screen.Runs

/-! The command line. Requests and replies pass through two files, which are pipes as a rule, a line for each;
a run is taken up again whenever there is a reply or a line of input that it has not seen. -/

namespace TradingDesk
namespace Shell

structure Wire where
  requests : IO.FS.Handle
  replies : IO.FS.Handle

def wire : IO (Option Wire) := do
  match ← IO.getEnv "DESK_REQUESTS", ← IO.getEnv "DESK_REPLIES" with
  | some requests, some replies =>
    return some ⟨← IO.FS.Handle.mk requests .append, ← IO.FS.Handle.mk replies .read⟩
  | _, _ => return none

/-- Nobody replies when there is no wire. -/
def exchange (w : Option Wire) (r : Request) : IO (Option Reply) := do
  match w with
  | none => return none
  | some w =>
    w.requests.putStrLn r.toLine
    w.requests.flush
    return Reply.ofLine (← w.replies.getLine)

def environment : IO (Table String) := do
  let names := ["DESK_API_URL", "DESK_WS_URL", "LOG_LEVEL", "DESK_API_TOKEN", "LOG_FILTER"]
  let found ← names.mapM fun name => do return (name, ← IO.getEnv name)
  return Table.ofList (found.filterMap fun (name, value) => value.map (name, ·))

def isDirectory (name : String) : IO Bool := do
  try
    let _ ← IO.FS.Handle.mk (name ++ "/.") .read
    return true
  catch _ => return false

/-- What is found under the names, and which directories there are among them and around them. -/
def look (names : List String) (d : Disk) : IO Disk :=
  names.foldlM (fun d name => do
    let around ← [Disk.plainName name, Disk.parent name].filterM isDirectory
    let d := { d with directories := around ++ d.directories }
    try return d.write name (← IO.FS.readFile name) catch _ => return d) d

/-- Files whose text is another one than before are written. -/
def save (before after : Disk) : IO Unit := do
  for (name, text) in after.files do
    if before.files.get? name ≠ some text then IO.FS.writeFile name text

def surroundings (arguments : List String) (b : Backend) : IO Surroundings := do
  let s : Surroundings := { arguments, environment := ← environment, backend := b }
  let config := (s.launch.toOption.map fun (l, _) => l.config).toList
  let s := { s with disk := ← look (Surroundings.environmentFile :: config) s.disk }
  match config.head?.bind fun name => (s.settings name).toOption with
  | none => return s
  | some settings => return { s with disk := ← look [settings.app.logFile, settings.app.prefsPath] s.disk }

def nextLine : IO (Option String) := do
  let line ← (← IO.getStdin).getLine
  return if line.isEmpty then none else some line

/-- Repeats a run until it has sent nothing that is not replied to. -/
partial def replied (w : Option Wire) (replies : List (Option Reply)) (sent : β → List Request)
    (run : Backend → β) : IO (β × List (Option Reply)) := do
  let result := run (.inOrder replies)
  match (sent result)[replies.length]? with
  | none => return (result, replies)
  | some r => replied w (replies ++ [← exchange w r]) sent run

def print (text : String) (shown : Nat) : IO Unit := do
  let out ← IO.getStdout
  out.putStr (String.ofList (text.toList.drop shown))
  out.flush

/-- Carries out a command. Where it waits for a line, one is read, unless the input has ended. -/
partial def command (w : Option Wire) (s : Surroundings) (hasEnded : Bool) (replies : List (Option Reply))
    (shown : Nat) : IO UInt32 := do
  let pause (r : Report) : Option Pause := if hasEnded then none else r.pause
  let sent (r : Report) : List Request := (pause r).elim r.sent Pause.sent
  let (r, replies) ← replied w replies sent fun b => Program.run { s with backend := b }
  match pause r with
  | some p =>
    print p.output shown
    match ← nextLine with
    | some line => command w { s with input := s.input ++ line } false replies p.output.length
    | none => command w s true replies p.output.length
  | none =>
    print r.output shown
    (← IO.getStderr).putStr r.errors
    save s.disk r.disk
    return r.exitCode.toUInt32

def draw (s : Stage) : IO Unit := do
  let size (name : String) (usual : Nat) : IO Nat := do
    return ((← IO.getEnv name).bind String.toNat?).getD usual
  let w := s.watch
  let picture := w.dashboard.render w.now (← size "COLUMNS" 140) (← size "LINES" 30) w.session
  print ("\x1b[H\x1b[2J" ++ String.intercalate "\n" (picture.map Screen.Picture.shownText)) 0

/-- Watches until the input ends or the watch does. -/
partial def watch (w : Option Wire) (start : Start) (s : Stage) (replies : List (Option Reply)) (told : Nat) :
    IO Stage := do
  let (s, replies) ← replied w replies Stage.sent fun b => { s with backend := b }.rest
  if start.hasDashboard then draw s
  else (← IO.getStderr).putStr (start.filter.text (s.watch.log.drop told))
  if s.watch.ended then return s
  let line ← nextLine
  let events := [.clock (← IO.monoMsNow), .pollerRuns] ++ WatchEvent.ofLine line
  if line.isNone && start.hasDashboard then return s
  watch w start { s with watch := s.watch.run events } replies s.watch.log.length

end Shell
end TradingDesk

open TradingDesk in
def main (arguments : List String) : IO UInt32 := do
  let w ← Shell.wire
  let s ← Shell.surroundings arguments (.inOrder [])
  match StateT.run (ExceptT.run (Start.opened s)) s.disk with
  | (.ok start, disk) =>
    if start.command.isSome then Shell.command w s false [] 0
    else
      let stage := Program.stage start (.inOrder [])
      let started := { stage with watch := stage.watch.run [.clock (← IO.monoMsNow), .feedOpened] }
      let stage ← Shell.watch w start started [] 0
      Shell.save s.disk (Program.watched start stage disk).disk
      return 0
  | _ => Shell.command w s false [] 0
