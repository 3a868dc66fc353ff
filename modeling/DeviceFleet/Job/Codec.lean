import DeviceFleet.Job.Model
import DeviceFleet.Json.Read

/-!
# Jobs as JSON

Definitions, templates and start options read from camel-case JSON, checked against their
shape first for the exact message of the first fault.
-/

namespace DeviceFleet.Job

open Json (Shape)

def methodShape : Shape :=
  .variants (Method.all.map Method.name)

def metricValueShape : Shape :=
  .tagged "MetricValue" "type" "value"
    [("string", .string), ("int", .signed 32), ("long", .signed 64), ("double", .float),
     ("bool", .bool), ("bytes", .seq (.unsigned 8))]

def templateShape : Shape :=
  .record "RequestTemplate"
    [("appName", .string, none), ("appVersion", .string, some (.str "1.0.0")),
     ("method", methodShape, none), ("resourcePath", .seq .string, some (.arr [])),
     ("body", .string, some (.str "")), ("metrics", .map metricValueShape, some (.obj []))]

def stepShape : Shape :=
  .record "JobStepDefinition"
    [("name", .string, none), ("processor", .string, none), ("template", templateShape, none),
     ("timeoutMs", .option (.unsigned 64), some .null)]

def jobShape : Shape :=
  .record "Job"
    [("jobId", .string, none), ("tenantId", .string, none), ("name", .string, none),
     ("steps", .seq stepShape, none), ("targetIds", .seq .string, none)]

/-- The shape of start options; every member has a default. -/
def startOptionsShape : Shape :=
  .record "JobStartOptions"
    [("targetIdSublist", .seq .string, some (.arr [])),
     ("resetStepIndex", .bool, some (.bool false)),
     ("fromStepIndex", .option (.unsigned 32), some .null),
     ("enqueue", .bool, some (.bool false))]

/-- A metric value from a checked document. -/
def metricValueOf (j : Json) : MetricValue :=
  let v := (j.field? "value").getD .null
  match j.strOr "type" "" with
  | "int" => .int (v.int?.getD 0)
  | "long" => .long (v.int?.getD 0)
  | "double" =>
    match v with
    | .double bits => .double bits
    | _ => .double 0
  | "bool" => .bool (v.bool?.getD false)
  | "bytes" => .bytes (((v.arr?).getD []).map fun b => (b.int?.getD 0).toNat.toUInt8)
  | _ => .text (v.str?.getD "")

def methodOf (j : Json) : Method :=
  ((j.str?).bind Method.ofUpperWord?).getD .read

/-- A request template from a checked document. -/
def templateOf (j : Json) : RequestTemplate :=
  { appName := j.strOr "appName" ""
    appVersion := j.strOr "appVersion" "1.0.0"
    method := methodOf ((j.field? "method").getD .null)
    resourcePath := j.strsOr "resourcePath"
    body := j.strOr "body" ""
    metrics := Metrics.ofList ((((j.field? "metrics").bind Json.obj?).getD []).map
      fun (kv : String × Json) => (kv.1, metricValueOf kv.2)) }

def stepOf (j : Json) : StepDefinition :=
  { name := j.strOr "name" ""
    processor := j.strOr "processor" ""
    template := templateOf ((j.field? "template").getD .null)
    timeoutMs := ((j.field? "timeoutMs").bind Json.int?).map Int.toNat }

def jobOf (j : Json) : Job :=
  { jobId := j.strOr "jobId" ""
    tenantId := j.strOr "tenantId" ""
    name := j.strOr "name" ""
    steps := (((j.field? "steps").bind Json.arr?).getD []).map stepOf
    targetIds := j.strsOr "targetIds" }

def startOptionsOf (j : Json) : StartOptions :=
  { targetIdSublist := j.strsOr "targetIdSublist"
    resetStepIndex := j.boolOr "resetStepIndex" false
    fromStepIndex := ((j.field? "fromStepIndex").bind Json.int?).map Int.toNat
    enqueue := j.boolOr "enqueue" false }

def readTemplate (text : String) : Except String RequestTemplate :=
  (Json.readAs templateShape text).map templateOf

def readJob (text : String) : Except String Job :=
  (Json.readAs jobShape text).map jobOf

def readStartOptions (text : String) : Except String StartOptions :=
  (Json.readAs startOptionsShape text).map startOptionsOf

end DeviceFleet.Job
