import DeviceFleet.Engine.Run
import DeviceFleet.Control.Response
import DeviceFleet.Control.Line
import DeviceFleet.Job.Codec
import DeviceFleet.Json.Print

/-!
# The control router

A control call's method and path segments choose its route; a change answers 204 without a
body, a question 200 with its answer, and a failure its error response.
-/

namespace DeviceFleet.Engine

open Job Control

/-- The answer to a control call: an HTTP status and an optional JSON body. -/
structure ControlResponse where
  status : Nat
  body : Option Json
  deriving Inhabited

namespace ControlResponse

def noContent : ControlResponse := ⟨204, none⟩

def answer (body : Json) : ControlResponse := ⟨200, some body⟩

def failed (e : ErrorResponse) : ControlResponse := ⟨e.httpStatus, some e.toJson⟩

def isSuccess (r : ControlResponse) : Bool :=
  200 ≤ r.status && r.status < 300

/-- The response as a line: the status, then the body as compact JSON with sorted members. -/
def render (r : ControlResponse) : String :=
  match r.body with
  | some b => Text.natText r.status ++ " " ++ Json.render (Json.sortKeys b) ++ "\n"
  | none => Text.natText r.status ++ "\n"

end ControlResponse

def badLine (message : String) : ControlResponse :=
  .failed (.badRequest message)

/-- The segments of a path: its parts between slashes, empty ones left out. -/
def segments (path : String) : List String :=
  (path.splitOn "/").filter (· ≠ "")

/-- Whether a character is an ASCII blank: space, tab, line feed, form feed or carriage
return. -/
def isAsciiBlank (c : Char) : Bool :=
  c == ' ' || c == '\t' || c == '\n' || c == '\x0C' || c == '\r'

def isRunningManyShape : Json.Shape :=
  .record "IsRunningManyRequest" [("jobIds", .seq .string, none)]

/-- Read a call's body with a shape; a blank body is the default. -/
def readBody {α : Type} (shape : Json.Shape) (build : Json → α) (dflt : α) (body : String) :
    Except ErrorResponse α :=
  if body.all isAsciiBlank then .ok dflt
  else
    match Json.readAs shape body with
    | .ok j => .ok (build j)
    | .error e => .error (.badRequest ("Malformed body: " ++ e))

def readExecutionId (raw : String) : Except ErrorResponse Uuid :=
  match Uuid.parse raw with
  | .ok u => .ok u
  | .error e => .error (.badRequest ("Invalid execution id " ++ raw ++ ": " ++ e.message))

def isRunningJson (jobId : String) (running : Bool) : Json :=
  .obj [("jobId", .str jobId), ("isRunning", .bool running)]

namespace Cluster

/-- Route a control call through the coordinator in charge. -/
def route (w : Cluster) (method path body : String) : ControlResponse × Cluster :=
  let withTrace := w.config.includeStackTrace
  let unit := fun (r : Except JobError Unit × Cluster) =>
    match r with
    | (.ok (), w) => (ControlResponse.noContent, w)
    | (.error e, w) => (ControlResponse.failed (.ofJobError e withTrace), w)
  let upper := method.map Char.toUpper
  match upper, segments path with
  | "POST", ["clean-data", scope, job] => unit (w.cleanJobData scope job)
  | "GET", ["is-running", scope, job] => (.answer (isRunningJson job (w.isRunning scope job)), w)
  | "POST", ["is-running", scope] =>
    match readBody isRunningManyShape (fun j => j.strsOr "jobIds") [] body with
    | .ok ids =>
      (.answer (.obj [("results", .arr (ids.map fun j => isRunningJson j (w.isRunning scope j)))]),
        w)
    | .error e => (.failed e, w)
  | "POST", ["resume-execution", scope, job, execution] =>
    match readExecutionId execution with
    | .ok id => unit (w.resumeJobExecution scope job id)
    | .error e => (.failed e, w)
  | "POST", ["start", scope, job] => unit (w.startJob scope job {})
  | "POST", ["start-with-options", scope, job] =>
    match readBody startOptionsShape startOptionsOf {} body with
    | .ok o => unit (w.startJob scope job o)
    | .error e => (.failed e, w)
  | "POST", ["stop", scope, job] => unit (w.stopJob scope job)
  | "POST", ["stop-execution", scope, job, execution] =>
    match readExecutionId execution with
    | .ok id => unit (w.stopJobExecution scope job id)
    | .error e => (.failed e, w)
  | _, _ => (.failed (.routeNotFound upper path), w)

def serveLine (w : Cluster) (line : String) : ControlResponse × Cluster :=
  match parseLine line with
  | some (m, p, b) => w.route m p b
  | none => (badLine "Expected: METHOD path [body]", w)

end Cluster

theorem render_noContent : ControlResponse.noContent.render = "204\n" := by
  decide

end DeviceFleet.Engine
