import TradingDesk.Api.Endpoints
import TradingDesk.Form.Rejection
import TradingDesk.Session.Basic

/-! The desk at which commands are carried out: the backend that answers, the lines that can still be read,
and what was sent, written, logged and kept. An action works on the desk and may fail; what it did before it
failed stays done. -/

namespace TradingDesk

/-- What had been written and sent when a line was asked for and there was none. -/
structure Pause where
  output : String
  sent : List Request

/-- `pause` is the first one. -/
structure Desk where
  backend : Backend
  client : Client
  sent : List Request := []
  input : List String := []
  pause : Option Pause := none
  output : String := ""
  log : List LogLine := []
  preferences : Preferences := {}

inductive CommandError where
  | failure (f : Failure)
  | rejection (r : Rejection)
  | noOrder (id : Int64)
  | noPortfolio (id : Int64)
  | blankName
  | notOneShot
  deriving DecidableEq

namespace CommandError

def message : CommandError → String
  | .failure f => f.message
  | .rejection r => r.message
  | .noOrder id => "Order #" ++ Endpoint.shownId id ++ " not found"
  | .noPortfolio id => "Portfolio #" ++ Endpoint.shownId id ++ " not found"
  | .blankName => "Portfolio name is required"
  | .notOneShot => "watch is handled by the main loop"

/-- The text with the causes behind it. -/
def chain : CommandError → String
  | .rejection r => r.chain
  | e => e.message

end CommandError

abbrev Action (α : Type) := ExceptT CommandError (StateM Desk) α

namespace Desk

def write (text : String) : Action Unit :=
  modify fun d => { d with output := d.output ++ text }

def line (text : String) : Action Unit :=
  write (text ++ "\n")

def note (l : LogLine) : Action Unit :=
  modify fun d => { d with log := d.log ++ [l] }

def runOut : Action Unit :=
  modify fun d => { d with pause := d.pause.or (some ⟨d.output, d.sent⟩) }

/-- The next line of the input; its end counts as an empty line. -/
def readLine : Action String := do
  let d ← get
  if d.input.isEmpty then runOut else set { d with input := d.input.tail }
  return d.input.headD ""

/-- Takes over what a call sent; its result is left to the caller. -/
def attempt (call : Backend → List Request → Client → List Request × Except Failure α) :
    Action (Except Failure α) := do
  let d ← get
  let (sent, result) := call d.backend d.sent d.client
  set { d with sent }
  return result

def orFail (result : Except Failure α) : Action α :=
  match result with
  | .ok a => return a
  | .error f => throw (.failure f)

def ask (e : Endpoint α) : Action α := do
  orFail (← attempt fun b past c => c.call b past e)

/-- As `ask`; a status of 404 is told as another error. -/
def find (missing : CommandError) (e : Endpoint α) : Action α := do
  match ← attempt fun b past c => c.call b past e with
  | .error (.status 404 _) => throw missing
  | result => orFail result

def askTickers (symbols : List String) : Action (Except Failure (List Ticker)) :=
  attempt fun b past c => c.tickers b past symbols

def assetClass : Action AssetClass := do
  let p := (← get).preferences
  for l in p.complaints AssetClass.decoder Selections.assetClassKey do
    note l
  return p.get AssetClass.decoder Selections.assetClassKey .crypto

def theme : Action Theme := do
  let p := (← get).preferences
  for l in p.complaints Theme.decoder Selections.themeKey do
    note l
  return p.get Theme.decoder Selections.themeKey .dark

def run (a : Action α) (d : Desk) : Except CommandError α × Desk :=
  StateT.run (ExceptT.run a) d

end Desk
end TradingDesk
