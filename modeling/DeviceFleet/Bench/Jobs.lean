import DeviceFleet.Bench.Canonical
import DeviceFleet.Job.Codec
import DeviceFleet.Control.Response

/-!
# The bench: job errors, start options and templates

-/

namespace DeviceFleet.Bench

open Job Store Events Control

def storeErrorOfJson (j : Json) : StoreError :=
  let entity := j.strOr "entity" ""
  let id := j.strOr "id" ""
  match j.strOr "variant" "" with
  | "NotFound" => .notFound entity id
  | "Conflict" => .conflict entity id (j.intOr "expected" 0).toNat (j.intOr "found" 0).toNat
  | "Duplicate" => .duplicate entity id
  | _ => .backend (j.strOr "message" "")

def eventErrorOfJson (j : Json) : EventStoreError :=
  match j.strOr "variant" "" with
  | "EffectFailed" =>
    .effectFailed (j.strOr "context_id" "") (j.strOr "source_service" "") (j.strOr "message" "")
  | _ => .store (storeErrorOfJson ((j.field? "store").getD (.obj [])))

def jobErrorOfJson (j : Json) : Except Json JobError := do
  let job := j.strOr "job_id" ""
  let execution ← uuidOfJson j "execution_id" Uuid.nil
  match j.strOr "variant" "" with
  | "JobNotFound" => pure (.jobNotFound (j.strOr "tenant_id" "") job)
  | "InvalidJob" => pure (.invalidJob job (j.strOr "reason" ""))
  | "UnknownProcessor" =>
    pure (.unknownProcessor job (j.intOr "step_index" 0).toNat (j.strOr "processor" ""))
  | "InvalidStartOptions" => pure (.invalidStartOptions job (j.strOr "reason" ""))
  | "JobNotRunning" => pure (.jobNotRunning job)
  | "JobRunning" => pure (.jobRunning job)
  | "ExecutionNotFound" => pure (.executionNotFound job execution)
  | "ExecutionNotResumable" =>
    match ExecutionStatus.ofName? (j.strOr "status" "") with
    | some s => pure (.executionNotResumable job execution s)
    | none => throw (badInput "unknown execution status")
  | "Store" => pure (.store (storeErrorOfJson ((j.field? "store").getD (.obj []))))
  | "Events" => pure (.events (eventErrorOfJson ((j.field? "events").getD (.obj []))))
  | other => throw (badInput ("unknown variant " ++ other))

def jobErrorReport (input : Json) : Json :=
  match jobErrorOfJson input with
  | .error j => j
  | .ok e => (ErrorResponse.ofJobError e (input.boolOr "include_stack_trace" false)).toJson

def storeErrorReport (input : Json) : Json :=
  let e := storeErrorOfJson input
  .obj [("message", .str e.message), ("is_conflict", .bool e.isConflict)]

def startOptionsJson (o : StartOptions) : Json :=
  .obj [("targetIdSublist", Json.strs o.targetIdSublist), ("resetStepIndex", .bool o.resetStepIndex),
    ("fromStepIndex", Json.optInt (o.fromStepIndex.map Int.ofNat)), ("enqueue", .bool o.enqueue)]

def startOptionsReport (input : Json) : Json :=
  match readStartOptions (input.strOr "json" "") with
  | .error e => failure "Malformed" e
  | .ok o =>
    .obj [("options", startOptionsJson o),
      ("includes", .arr ((input.strsOr "targets").map fun t => .bool (o.includes t)))]

def requestJson (r : CanonicalRequest) : Json :=
  .obj [("tenant_id", .str r.tenantId), ("device_id", .str r.deviceId),
    ("app_name", .str r.appName), ("app_version", .str r.appVersion),
    ("method", .str r.method.name), ("resource_path", Json.strs r.resourcePath),
    ("body", .str (Text.hexOfBytes r.body)), ("metrics", metricsJson r.metrics),
    ("captured_on", .int r.capturedOn), ("requester", .str r.requester),
    ("username", .str r.username)]

def templateReport (now : Int) (input : Json) : Json :=
  match readTemplate (input.strOr "json" "") with
  | .error e => failure "Malformed" e
  | .ok t =>
    .obj [("request", requestJson (t.build (input.strOr "tenant_id" "") (input.strOr "device_id" "") now))]

end DeviceFleet.Bench
