import DeviceFleet.Protocol.Canonical
import DeviceFleet.Job.Progress

/-!
# Jobs

A job runs a list of steps against targets of one tenant, started as executions of which at
most one runs at a time; start options may narrow the targets, restart from a step, or queue.
-/

namespace DeviceFleet

namespace Job

/-- The request a step sends, before it is addressed to a target. -/
structure RequestTemplate where
  appName : String
  appVersion : String := "1.0.0"
  method : Method
  resourcePath : List String := []
  body : String := ""
  metrics : Metrics := []
  deriving DecidableEq, Repr

def RequestTemplate.build (t : RequestTemplate) (tenantId deviceId : String) (now : Int) :
    CanonicalRequest :=
  { tenantId, deviceId, appName := t.appName, appVersion := t.appVersion, method := t.method,
    resourcePath := t.resourcePath, body := t.body.toUTF8.toList, metrics := t.metrics,
    capturedOn := now }

/-- One step of a job. -/
structure StepDefinition where
  name : String
  processor : String
  template : RequestTemplate
  timeoutMs : Option Nat := none
  deriving DecidableEq, Repr

end Job

/-- A job definition. -/
structure Job where
  jobId : String
  tenantId : String
  name : String
  steps : List Job.StepDefinition
  targetIds : List String
  deriving DecidableEq, Repr

namespace Job

def stepCount (j : Job) : Nat :=
  j.steps.length

/-- A target of a job and how far it got. -/
structure JobTarget where
  jobId : String
  tenantId : String
  targetId : String
  progress : TargetProgress := TargetProgress.queued 0
  lastException : Option String := none
  operationId : Option Uuid := none
  againPasses : Nat := 0
  version : Nat := 0
  deriving DecidableEq, Repr

namespace JobTarget

def fresh (j : Job) (targetId : String) : JobTarget :=
  { jobId := j.jobId, tenantId := j.tenantId, targetId }

def reset (t : JobTarget) (stepIndex : Nat) : JobTarget :=
  { t with progress := TargetProgress.queued stepIndex, lastException := none,
           operationId := none, againPasses := 0 }

end JobTarget

/-- Where an execution is. -/
inductive ExecutionStatus where
  | queued
  | running
  | stopped
  | completed
  deriving DecidableEq, Repr, Inhabited

namespace ExecutionStatus

def name : ExecutionStatus → String
  | .queued => "QUEUED"
  | .running => "RUNNING"
  | .stopped => "STOPPED"
  | .completed => "COMPLETED"

def shown : ExecutionStatus → String
  | .queued => "Queued"
  | .running => "Running"
  | .stopped => "Stopped"
  | .completed => "Completed"

def ofName? : String → Option ExecutionStatus
  | "QUEUED" => some .queued
  | "RUNNING" => some .running
  | "STOPPED" => some .stopped
  | "COMPLETED" => some .completed
  | _ => none

end ExecutionStatus

/-- How to start a job. -/
structure StartOptions where
  targetIdSublist : List String := []
  resetStepIndex : Bool := false
  fromStepIndex : Option Nat := none
  enqueue : Bool := false
  deriving DecidableEq, Repr, Inhabited

/-- Whether the options include a target: all do when the sublist is empty. -/
def StartOptions.includes (o : StartOptions) (targetId : String) : Bool :=
  o.targetIdSublist.isEmpty || o.targetIdSublist.contains targetId

/-- One run of a job. Instants are milliseconds. -/
structure Execution where
  executionId : Uuid
  jobId : String
  tenantId : String
  status : ExecutionStatus
  options : StartOptions
  ownerNode : String
  enqueuedOn : Int
  startedOn : Option Int := none
  endedOn : Option Int := none
  version : Nat := 0
  deriving DecidableEq, Repr

/-- A new execution at instant `now`; a running one starts at once. -/
def Execution.create (executionId : Uuid) (tenantId jobId : String) (options : StartOptions)
    (ownerNode : String) (status : ExecutionStatus) (now : Int) : Execution :=
  { executionId, jobId, tenantId, status, options, ownerNode, enqueuedOn := now,
    startedOn := if status = .running then some now else none }

end Job

end DeviceFleet
