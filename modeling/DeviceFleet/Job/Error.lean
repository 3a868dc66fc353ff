import DeviceFleet.Job.Model
import DeviceFleet.Events.Error

/-!
# Job engine errors

Each failure of the job engine maps to an HTTP status and a stable error code: missing jobs
and executions are 404, invalid definitions and options 400, conflicts with the running state
409 (a concurrent modification too), and storage and event failures 500.
-/

namespace DeviceFleet.Job

open Store Events

/-- A failure of the job engine. -/
inductive JobError where
  | jobNotFound (tenantId jobId : String)
  | invalidJob (jobId reason : String)
  | unknownProcessor (jobId : String) (stepIndex : Nat) (processor : String)
  | invalidStartOptions (jobId reason : String)
  | jobNotRunning (jobId : String)
  | jobRunning (jobId : String)
  | executionNotFound (jobId : String) (executionId : Uuid)
  | executionNotResumable (jobId : String) (executionId : Uuid) (status : ExecutionStatus)
  | store (e : StoreError)
  | events (e : EventStoreError)
  deriving DecidableEq, Repr

namespace JobError

/-- The message of a failure. -/
def message : JobError → String
  | .jobNotFound t j => "Job " ++ j ++ " not found in scope " ++ t
  | .invalidJob j r => "Job " ++ j ++ " is invalid: " ++ r
  | .unknownProcessor j i p =>
    "Step " ++ Text.natText i ++ " of job " ++ j ++ " uses unknown processor '" ++ p ++ "'"
  | .invalidStartOptions j r => "Invalid start options for job " ++ j ++ ": " ++ r
  | .jobNotRunning j => "Job " ++ j ++ " is not running"
  | .jobRunning j => "Job " ++ j ++ " is running"
  | .executionNotFound j e => "Execution " ++ e.text ++ " of job " ++ j ++ " not found"
  | .executionNotResumable j e s =>
    "Execution " ++ e.text ++ " of job " ++ j ++ " cannot be resumed from " ++ s.shown
  | .store e => "Job storage error: " ++ e.message
  | .events e => e.message

def httpStatus : JobError → Nat
  | .jobNotFound .. | .executionNotFound .. => 404
  | .invalidJob .. | .unknownProcessor .. | .invalidStartOptions .. => 400
  | .jobNotRunning .. | .jobRunning .. | .executionNotResumable .. => 409
  | .store e => if e.isConflict then 409 else 500
  | .events _ => 500

/-- The error code of a failure. -/
def errorCode : JobError → String
  | .jobNotFound .. => "JOB_NOT_FOUND"
  | .invalidJob .. => "JOB_INVALID"
  | .unknownProcessor .. => "JOB_UNKNOWN_PROCESSOR"
  | .invalidStartOptions .. => "JOB_INVALID_START_OPTIONS"
  | .jobNotRunning .. => "JOB_NOT_RUNNING"
  | .jobRunning .. => "JOB_RUNNING"
  | .executionNotFound .. => "JOB_EXECUTION_NOT_FOUND"
  | .executionNotResumable .. => "JOB_EXECUTION_NOT_RESUMABLE"
  | .store e => if e.isConflict then "JOB_CONCURRENT_MODIFICATION" else "JOB_STORAGE_ERROR"
  | .events _ => "JOB_EVENT_STORE_ERROR"

/-- The failure as its structure is shown in traces. -/
def shown : JobError → String
  | .jobNotFound t j =>
    "JobNotFound \x7b tenant_id: " ++ Text.quoteShown t ++ ", job_id: " ++ Text.quoteShown j ++ " \x7d"
  | .invalidJob j r =>
    "InvalidJob \x7b job_id: " ++ Text.quoteShown j ++ ", reason: " ++ Text.quoteShown r ++ " \x7d"
  | .unknownProcessor j i p =>
    "UnknownProcessor \x7b job_id: " ++ Text.quoteShown j ++ ", step_index: " ++ Text.natText i ++
      ", processor: " ++ Text.quoteShown p ++ " \x7d"
  | .invalidStartOptions j r =>
    "InvalidStartOptions \x7b job_id: " ++ Text.quoteShown j ++ ", reason: " ++
      Text.quoteShown r ++ " \x7d"
  | .jobNotRunning j => "JobNotRunning \x7b job_id: " ++ Text.quoteShown j ++ " \x7d"
  | .jobRunning j => "JobRunning \x7b job_id: " ++ Text.quoteShown j ++ " \x7d"
  | .executionNotFound j e =>
    "ExecutionNotFound \x7b job_id: " ++ Text.quoteShown j ++ ", execution_id: " ++ e.text ++ " \x7d"
  | .executionNotResumable j e s =>
    "ExecutionNotResumable \x7b job_id: " ++ Text.quoteShown j ++ ", execution_id: " ++ e.text ++
      ", status: " ++ s.shown ++ " \x7d"
  | .store e => "Store(" ++ e.shown ++ ")"
  | .events e => "Events(" ++ e.shown ++ ")"

def causes : JobError → List String
  | .store e => [e.message]
  | .events e => e.causes
  | _ => []

/-- The trace of a failure: how it is shown, then each cause's message. -/
def trace (e : JobError) : List String :=
  e.shown :: e.causes

end JobError

end DeviceFleet.Job
