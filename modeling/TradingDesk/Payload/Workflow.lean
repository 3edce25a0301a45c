import TradingDesk.Payload.Choice

/-! Workflows of the backend, their runs, and the answers to commands about them. A detail is one
object that holds a summary's fields beside its steps. -/

namespace TradingDesk

structure Workflow where
  id : String
  name : String
  description : String
  assetClass : Option AssetClass
  scheduleEnabled : Bool
  scheduleSeconds : Option UInt64
  stepCount : UInt32
  runCount : UInt32
  lastRunAt : Option String
  deriving DecidableEq

structure WorkflowStep where
  order : UInt32
  name : String
  stepType : String
  condition : Option String
  deriving DecidableEq

structure WorkflowDetail where
  summary : Workflow
  steps : List WorkflowStep
  deriving DecidableEq

structure WorkflowRun where
  id : String
  workflowId : String
  status : String
  trigger : String
  currentStep : UInt32
  totalSteps : UInt32
  startedAt : Option String
  completedAt : Option String
  error : String
  deriving DecidableEq

/-- A step of a run; `conditionMet` is false when its condition skipped it. -/
structure StepRun where
  order : UInt32
  name : String
  stepType : String
  status : String
  durationSeconds : Option Float
  error : String
  conditionMet : Bool
  deriving DecidableEq

structure RunDetail where
  summary : WorkflowRun
  stepRuns : List StepRun
  deriving DecidableEq

structure StepKind where
  stepType : String
  description : String
  deriving DecidableEq

structure Triggered where
  runId : String
  jobId : String
  deriving DecidableEq

structure StatusAnswer where
  status : String
  deriving DecidableEq

open Json Json.Record

namespace Workflow

def record : Record Workflow :=
  .pure Workflow.mk <*> required "id" .text <*> required "name" .text
    <*> default "description" .text "" <*> default "asset_class" (.optional AssetClass.decoder) none
    <*> default "schedule_enabled" .bool false
    <*> default "schedule_interval_seconds" (.optional .nat64) none
    <*> default "step_count" .nat32 0 <*> default "run_count" .nat32 0
    <*> default "last_run_at" (.optional .text) none

def decoder : Decoder Workflow := record.decoder "WorkflowListItem"

def members (w : Workflow) : List (String × Json) :=
  [("id", .text w.id), ("name", .text w.name), ("description", .text w.description),
    ("asset_class", .ofOption AssetClass.toJson w.assetClass),
    ("schedule_enabled", .bool w.scheduleEnabled),
    ("schedule_interval_seconds", .ofOption (fun n => .ofNat n.toNat) w.scheduleSeconds),
    ("step_count", .ofNat w.stepCount.toNat), ("run_count", .ofNat w.runCount.toNat),
    ("last_run_at", .ofOption .text w.lastRunAt)]

def toJson (w : Workflow) : Json := .object w.members

end Workflow

namespace WorkflowStep

def record : Record WorkflowStep :=
  .pure WorkflowStep.mk <*> required "order" .nat32 <*> required "name" .text
    <*> required "step_type" .text <*> default "condition" (.optional .text) none

def decoder : Decoder WorkflowStep := record.decoder "WorkflowStep"

def toJson (s : WorkflowStep) : Json :=
  .object [("order", .ofNat s.order.toNat), ("name", .text s.name), ("step_type", .text s.stepType),
    ("condition", .ofOption .text s.condition)]

end WorkflowStep

namespace WorkflowDetail

def own : Record (List WorkflowStep) :=
  default "steps" (.list WorkflowStep.decoder) []

def decoder : Decoder WorkflowDetail := fun p n =>
  (joined "WorkflowDetail" Workflow.record own p n).map fun (summary, steps) => ⟨summary, steps⟩

def toJson (d : WorkflowDetail) : Json :=
  .object (d.summary.members ++ [("steps", .list (d.steps.map WorkflowStep.toJson))])

/-- The steps by their order numbers; equal numbers keep their places. -/
def ordered (d : WorkflowDetail) : List WorkflowStep :=
  d.steps.mergeSort fun a b => a.order ≤ b.order

end WorkflowDetail

namespace WorkflowRun

def record : Record WorkflowRun :=
  .pure WorkflowRun.mk <*> required "id" .text <*> default "workflow_id" .text ""
    <*> required "status" .text <*> default "trigger" .text "" <*> default "current_step" .nat32 0
    <*> default "total_steps" .nat32 0 <*> default "started_at" (.optional .text) none
    <*> default "completed_at" (.optional .text) none <*> default "error" .text ""

def decoder : Decoder WorkflowRun := record.decoder "WorkflowRunListItem"

def members (r : WorkflowRun) : List (String × Json) :=
  [("id", .text r.id), ("workflow_id", .text r.workflowId), ("status", .text r.status),
    ("trigger", .text r.trigger), ("current_step", .ofNat r.currentStep.toNat),
    ("total_steps", .ofNat r.totalSteps.toNat), ("started_at", .ofOption .text r.startedAt),
    ("completed_at", .ofOption .text r.completedAt), ("error", .text r.error)]

def toJson (r : WorkflowRun) : Json := .object r.members

end WorkflowRun

namespace StepRun

def record : Record StepRun :=
  .pure StepRun.mk <*> required "order" .nat32 <*> required "step_name" .text
    <*> default "step_type" .text "" <*> required "status" .text
    <*> default "duration_seconds" (.optional .double) none <*> default "error" .text ""
    <*> default "condition_met" .bool true

def decoder : Decoder StepRun := record.decoder "WorkflowStepRun"

def toJson (s : StepRun) : Json :=
  .object [("order", .ofNat s.order.toNat), ("step_name", .text s.name),
    ("step_type", .text s.stepType), ("status", .text s.status),
    ("duration_seconds", .ofOption .double s.durationSeconds), ("error", .text s.error),
    ("condition_met", .bool s.conditionMet)]

end StepRun

namespace RunDetail

def own : Record (List StepRun) :=
  default "step_runs" (.list StepRun.decoder) []

def decoder : Decoder RunDetail := fun p n =>
  (joined "WorkflowRunDetail" WorkflowRun.record own p n).map fun (summary, runs) => ⟨summary, runs⟩

def toJson (d : RunDetail) : Json :=
  .object (d.summary.members ++ [("step_runs", .list (d.stepRuns.map StepRun.toJson))])

def ordered (d : RunDetail) : List StepRun :=
  d.stepRuns.mergeSort fun a b => a.order ≤ b.order

end RunDetail

namespace StepKind

def record : Record StepKind :=
  .pure StepKind.mk <*> required "step_type" .text <*> default "description" .text ""

def decoder : Decoder StepKind := record.decoder "StepType"

def toJson (k : StepKind) : Json :=
  .object [("step_type", .text k.stepType), ("description", .text k.description)]

end StepKind

namespace Triggered

def record : Record Triggered :=
  .pure Triggered.mk <*> required "workflow_run_id" .text <*> required "job_id" .text

def decoder : Decoder Triggered := record.decoder "WorkflowTrigger"

def toJson (t : Triggered) : Json :=
  .object [("workflow_run_id", .text t.runId), ("job_id", .text t.jobId)]

end Triggered

namespace StatusAnswer

def record : Record StatusAnswer :=
  .pure StatusAnswer.mk <*> required "status" .text

def decoder : Decoder StatusAnswer := record.decoder "StatusResponse"

def toJson (a : StatusAnswer) : Json :=
  .object [("status", .text a.status)]

end StatusAnswer
end TradingDesk
