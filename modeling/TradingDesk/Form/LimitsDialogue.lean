import TradingDesk.Form.Limits

/-! The limits are asked for one by one. An empty answer keeps a limit, a rejected one is asked for again, and
`q` or the end of the input gives the edit up. -/

namespace TradingDesk

/-- What was written, the editor afterwards, the lines that were not read, and whether there were too few. -/
structure LimitsDialogue where
  output : String := ""
  editor : LimitsEditor
  rest : List String
  ranOut : Bool := false

namespace LimitsDialogue

def prompt (f : LimitField) (current : RiskLimits) : String :=
  f.label ++ " [" ++ Number.plain (f.get current) ++ "]: "

def after (text : String) (d : LimitsDialogue) : LimitsDialogue :=
  { d with output := text ++ d.output }

def askField (f : LimitField) (current : RiskLimits) (e : LimitsEditor) : List String → LimitsDialogue
  | [] => { output := prompt f current, editor := e.cancel, rest := [], ranOut := true }
  | line :: rest =>
    let answer := Text.trim line
    if answer = "" then { output := prompt f current, editor := e, rest }
    else if answer = "q" then { output := prompt f current, editor := e.cancel, rest }
    else match e.setField f answer with
      | .ok edited => { output := prompt f current, editor := edited, rest }
      | .error r =>
        after (prompt f current ++ "  " ++ r.chain ++ "\n") (askField f current e rest)

/-- Asks for limits in turn while the edit is not given up. -/
def ask (current : RiskLimits) : List LimitField → LimitsEditor → List String → LimitsDialogue
  | [], e, lines => { editor := e, rest := lines }
  | f :: fields, e, lines =>
    let first := askField f current e lines
    if first.editor.isEditing then after first.output (ask current fields first.editor first.rest)
    else first

def run (current : RiskLimits) (e : LimitsEditor) (lines : List String) : LimitsDialogue :=
  ask current LimitField.all e lines

end LimitsDialogue
end TradingDesk
