import TradingDesk.Desk.Basic
import TradingDesk.Number.Written

/-! Workflows at the desk, and the runs of their steps. -/

namespace TradingDesk
namespace Desk

open Text

def schedule (w : Workflow) : String :=
  match w.scheduleEnabled, w.scheduleSeconds with
  | true, some seconds => "every " ++ toString seconds.toNat ++ "s"
  | true, none => "scheduled"
  | false, _ => "manual"

def workflowRow (w : Workflow) : String :=
  padRight 36 w.id ++ " " ++ padRight 28 w.name ++ " " ++ padLeft 2 (toString w.stepCount.toNat)
    ++ " steps  " ++ padLeft 4 (toString w.runCount.toNat) ++ " runs  " ++ schedule w

def listWorkflows (c : Option AssetClass) : Action Unit := do
  for w in ← ask (.workflows c) do
    line (workflowRow w)

def stepRow (s : WorkflowStep) : String :=
  let condition := match s.condition with
    | some text => if text = "" then "" else "  if: " ++ text
    | none => ""
  "  " ++ padLeft 2 (toString s.order.toNat) ++ ". " ++ padRight 28 s.name ++ " " ++ s.stepType ++ condition

def showWorkflow (id : String) : Action Unit := do
  let w ← ask (.workflow id)
  line (w.summary.id ++ " – " ++ w.summary.name)
  if w.summary.description ≠ "" then line w.summary.description
  for s in w.ordered do
    line (stepRow s)

def triggerWorkflow (id : String) : Action Unit := do
  let t ← ask (.trigger id)
  line ("Run " ++ t.runId ++ " queued (job " ++ t.jobId ++ ")")

def showStatus (e : Endpoint StatusAnswer) : Action Unit := do
  line (← ask e).status

def progress (r : WorkflowRun) : String :=
  toString r.currentStep.toNat ++ "/" ++ toString r.totalSteps.toNat

def runRow (r : WorkflowRun) : String :=
  let error := if r.error = "" then "" else "  error: " ++ r.error
  padRight 36 r.id ++ " " ++ padRight 10 r.status ++ " " ++ progress r ++ "  "
    ++ r.startedAt.getD "—" ++ error

def listRuns (id : String) (limit : Option Nat) : Action Unit := do
  for r in ← ask (.runs id limit) do
    line (runRow r)

def stepRunRow (s : StepRun) : String :=
  let duration := (s.durationSeconds.map fun x => Number.fixed 1 x ++ "s").getD ""
  let remark := if s.conditionMet then s.error else "skipped"
  "  " ++ padRight 10 s.status ++ " " ++ padRight 28 s.name ++ " " ++ padRight 16 s.stepType ++ " "
    ++ padLeft 7 duration ++ "  " ++ remark

def showRun (id : String) : Action Unit := do
  let r ← ask (.run id)
  line (r.summary.id ++ " " ++ r.summary.status ++ " (" ++ r.summary.trigger ++ ") step "
    ++ progress r.summary)
  for s in r.ordered do
    line (stepRunRow s)
  if r.summary.error ≠ "" then line ("Error: " ++ r.summary.error)

def listStepKinds : Action Unit := do
  for k in ← ask .stepKinds do
    line (padRight 24 k.stepType ++ " " ++ k.description)

end Desk
end TradingDesk
