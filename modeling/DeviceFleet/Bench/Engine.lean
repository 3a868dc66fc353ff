import DeviceFleet.Engine.Router
import DeviceFleet.Bench.Jobs
import DeviceFleet.Bench.Operations
import DeviceFleet.Bench.Agent

/-!
# The bench: the whole engine

A session runs the engine over a scripted fleet; calls sent from outside are numbered so
later steps can observe them again, answer them late, or look at their operations.
-/

namespace DeviceFleet.Bench

open Engine Job Command Conversion Fleet

def natMember? (j : Json) (key : String) : Option Nat :=
  ((j.field? key).bind Json.int?).map Int.toNat

def engineConfigOver (base : EngineConfig) (j : Json) : EngineConfig :=
  let timeouts := ((j.field? "app_timeouts").bind Json.obj?).map fun fs =>
    fs.map fun (k, v) => (Config.asciiLower k, (v.int?.getD 0).toNat)
  { nodeId := j.strOr "node_id" base.nodeId
    maxConcurrentTargets := (natMember? j "max_concurrent_targets").getD base.maxConcurrentTargets
    againDelayMs := (natMember? j "again_delay_ms").getD base.againDelayMs
    maxAgainPasses := (natMember? j "max_again_passes").getD base.maxAgainPasses
    includeStackTrace := j.boolOr "include_stack_trace" base.includeStackTrace
    dispatcher :=
      { defaultTimeoutMs := (natMember? j "default_timeout_ms").getD base.dispatcher.defaultTimeoutMs
        appTimeouts := timeouts.getD base.dispatcher.appTimeouts }
    jobCacheSize := (natMember? j "job_cache_size").getD base.jobCacheSize
    claimLeaseMs := base.claimLeaseMs }

def defaultEngineConfig : EngineConfig :=
  { nodeId := "node-1", maxConcurrentTargets := 4, againDelayMs := 1, maxAgainPasses := 3,
    includeStackTrace := false, dispatcher := { defaultTimeoutMs := 500 }, jobCacheSize := 1024,
    claimLeaseMs := 30000 }

def replyScriptOf (j : Json) : ReplyScript :=
  { code := (natMember? j "code").getD 200
    message := (j.field? "message").bind Json.str?
    app := (j.field? "app").bind Json.str?
    badMetricKind := (j.field? "bad_metric_kind").bind Json.int?
    body := (j.field? "body").bind Json.str?
    duplicate := j.boolOr "duplicate" false }

def operationJson (op : Operation) : Json :=
  match operationStateJson op with
  | .obj fs => .obj (fs ++ [("app_name", .str op.appName), ("method", .str op.method.name),
      ("resource", Json.strs op.resource)])
  | j => j

def targetJson (t : JobTarget) : Json :=
  .obj [("target_id", .str t.targetId), ("step_index", .int t.progress.stepIndex),
    ("status", .str t.progress.status.name), ("last_exception", Json.optStr t.lastException),
    ("has_operation", .bool t.operationId.isSome), ("again_passes", .int t.againPasses),
    ("version", .int t.version)]

def executionJson (e : Execution) : Json :=
  .obj [("execution_id", .str e.executionId.text), ("status", .str e.status.name),
    ("options", startOptionsJson e.options), ("owner_node", .str e.ownerNode),
    ("started", .bool e.startedOn.isSome), ("ended", .bool e.endedOn.isSome),
    ("version", .int e.version)]

def requesterJob (requester : String) : Option String :=
  if requester.startsWith "job:" then
    let parts := (requester.drop 4).toString.splitOn ":"
    if parts.length < 2 then none else some (":".intercalate parts.dropLast)
  else none

def dispatchOutcomeJson : DispatchOutcome → Json
  | .completed r => .obj [("completed", responseJson r)]
  | .conversionFailed e => .obj [("translation_failed", conversionFailure e)]
  | .timedOut id ms =>
    .obj [("timed_out", .obj [("message", .str (timeoutMessage id ms)), ("timeout_ms", .int ms)])]

/-- A call made from outside: its correlation identifier and its request. -/
structure OutsideCall where
  id : CorrelationId
  request : CanonicalRequest

/-- The engine bench: the cluster and the calls made from outside, by number. -/
structure EngineBench where
  cluster : Cluster
  calls : List OutsideCall := []

namespace EngineBench

def settleLimit : Nat := 2000000

def quietWindow : Nat := 50000

def shutdownLimit : Nat := 3600000000

def unreachable : Json :=
  failure "io" "Network is unreachable (os error 101)"

def operationOf (b : EngineBench) (id : Uuid) : Json :=
  match b.cluster.operations.find id with
  | some op => operationJson op
  | none => .null

def call? (b : EngineBench) (step : Json) : Option OutsideCall :=
  (natMember? step "call").bind fun n => b.calls[n]?

def replyTo (c : OutsideCall) (script : ReplyScript) : Option Envelope :=
  match convertRequest ⟨c.id, c.request⟩ with
  | .ok env => some (script.reply env)
  | .error _ => none

def define (b : EngineBench) (step : Json) : Json × EngineBench :=
  match readJob (Json.render ((step.field? "job").getD .null)) with
  | .error e => (badInput e, b)
  | .ok j =>
    match b.cluster.defineJob j with
    | (.ok (), w) => (.str "ok", { b with cluster := w })
    | (.error e, w) =>
      (.obj [("error", .str e.errorCode), ("http_status", .int e.httpStatus),
        ("message", .str e.message)], { b with cluster := w })

def device (b : EngineBench) (step : Json) : Json × EngineBench :=
  let mode : Option DeviceMode := match step.strOr "mode" "reply" with
    | "reply" => some (.reply (replyScriptOf step))
    | "silent" => some .silent
    | "unreachable" => some .unreachable
    | "hold" => some .hold
    | "agent" => some .agent
    | _ => none
  match mode with
  | none => (badInput ("unknown mode " ++ step.strOr "mode" ""), b)
  | some m =>
    let w := b.cluster
    (.str "ok", { b with cluster := { w with fleet := w.fleet.setMode (step.strOr "client" "") m w.nowMs } })

def route (b : EngineBench) (step : Json) : Json × EngineBench :=
  let (r, w) := b.cluster.route (step.strOr "method" "") (step.strOr "path" "") (step.strOr "body" "")
  (.obj [("status", .int r.status), ("body", r.body.getD .null), ("success", .bool r.isSuccess)],
    { b with cluster := w })

def line (b : EngineBench) (step : Json) : Json × EngineBench :=
  let text := step.strOr "line" ""
  let parsed := match Control.parseLine text with
    | some (m, p, body) => Json.arr [.str m, .str p, .str body]
    | none => .null
  let (r, w) := b.cluster.serveLine text
  (.obj [("parsed", parsed), ("rendered", .str r.render)], { b with cluster := w })

def release (b : EngineBench) (step : Json) : Json × EngineBench :=
  let w := b.cluster
  match w.fleet.takeHeld (step.strOr "client" "") with
  | none => (.bool false, b)
  | some (request, f) =>
    (.bool true, { b with cluster := { w with fleet := f }.handleReply ((replyScriptOf step).reply request) })

def targets (b : EngineBench) (step : Json) : Json :=
  .arr ((b.cluster.targets.list (step.strOr "tenant_id" "1") (step.strOr "job_id" "")).map targetJson)

def executions (b : EngineBench) (step : Json) : Json :=
  .arr ((b.cluster.executions.list (step.strOr "tenant_id" "1") (step.strOr "job_id" "")).map
    executionJson)

def operations (b : EngineBench) : Json :=
  let entry := fun (p : PublishedRequest) =>
    Json.obj [("client", .str p.client), ("app", .str p.app), ("method", .str p.method),
      ("requester_job", Json.optStr (requesterJob p.requester)),
      ("operation", match Uuid.parse p.requestId with
        | .ok u => b.operationOf u
        | .error _ => .null)]
  let keyed := b.cluster.fleet.published.map fun p =>
    let j := entry p
    (Json.render (Json.sortKeys j), j)
  let order := sortTexts (keyed.map (·.1))
  .obj [("count", .int b.cluster.operations.count),
    ("published", .arr (order.filterMap fun k => keyed.lookup k))]

def published (b : EngineBench) : Json :=
  let f := b.cluster.fleet
  let clients := sortTexts (f.published.map (·.client)).eraseDups
  .obj [("published", .obj (clients.map fun c =>
      (c, .int (f.published.filter (·.client == c)).length))),
    ("held", .int f.heldCount), ("pending", .int b.cluster.correlator.count)]

def events (b : EngineBench) : Json :=
  .obj [("records", .int b.cluster.events.records.length),
    ("tombstones", .int b.cluster.events.tombstones.length),
    ("job_cache", .int b.cluster.jobCache.size)]

def send (b : EngineBench) (step : Json) : Json × EngineBench :=
  match requestOfJson ((step.field? "request").getD (.obj [])) with
  | .error j => (j, b)
  | .ok request =>
    let n := b.calls.length
    match b.cluster.callSend request (natMember? step "timeout_ms") with
    | (.ok (id, o), w) =>
      let b := { b with cluster := w, calls := b.calls ++ [⟨id, request⟩] }
      (.obj [("call", .int n), ("correlation_id", .str id.text),
        ("outcome", dispatchOutcomeJson o), ("operation", b.operationOf id.requestId)], b)
    | (.error (.communication id reason), w) =>
      let e := DispatchError.communication id reason
      let b := { b with cluster := w, calls := b.calls ++ [⟨id, request⟩] }
      (failureWith e.kind e.message [("call", .int n), ("operation", b.operationOf id.requestId),
        ("pending", .bool (w.correlator.isPending id))], b)
    | (.error e, w) => (failure e.kind e.message, { b with cluster := w })

def reobserve (b : EngineBench) (step : Json) : Json × EngineBench :=
  let target : Except Json (CorrelationId × Option OutsideCall) :=
    match step.field? "call" with
    | some _ =>
      match b.call? step with
      | some c => .ok (c.id, some c)
      | none => .error (badInput "no such call")
    | none => (correlationOfJson ((step.field? "id").getD (.obj []))).map fun id => (id, none)
  match target with
  | .error j => (j, b)
  | .ok (id, c) =>
    let reply := match step.field? "reply", c with
      | some r, some c => replyTo c (replyScriptOf r)
      | _, _ => none
    match b.cluster.callObserve id (natMember? step "timeout_ms") reply with
    | (.ok s, w) =>
      let b := { b with cluster := w }
      (.obj [("status", .str s.name), ("operation", b.operationOf id.requestId)], b)
    | (.error e, w) => (failure e.kind e.message, { b with cluster := w })

def lateReply (b : EngineBench) (step : Json) : Json × EngineBench :=
  match b.call? step with
  | none => (badInput "no such call", b)
  | some c =>
    let w := match replyTo c (replyScriptOf step) with
      | some e => b.cluster.handleReply e
      | none => b.cluster
    let b := { b with cluster := w }
    (.obj [("operation", b.operationOf c.id.requestId)], b)

def operation (b : EngineBench) (step : Json) : Json :=
  match b.call? step with
  | some c => b.operationOf c.id.requestId
  | none => badInput "no such call"

def agentState (b : EngineBench) (step : Json) : Json :=
  match b.cluster.fleet.agents.lookup (step.strOr "client" "") with
  | some d => deviceStateJson d.state
  | none => .null

def agentReply (b : EngineBench) (step : Json) : Json × EngineBench :=
  let client := step.strOr "client" ""
  let w := b.cluster
  match w.fleet.agents.lookup client, envelopeMember step "envelope" with
  | _, .error j => (j, b)
  | none, _ => (.obj [("reply", .null)], b)
  | some d, .ok env =>
    let (reply, d) := d.execute w.nowMs env
    let agents := w.fleet.agents.map fun (k, x) => if k == client then (k, d) else (k, x)
    (.obj [("reply", match reply with
        | some r => envelopeJson r
        | none => .null)],
      { b with cluster := { w with fleet := { w.fleet with agents } } })

def step (b : EngineBench) (s : Json) : Json × EngineBench :=
  let w := b.cluster
  match s.strOr "do" "" with
  | "define" => b.define s
  | "device" => b.device s
  | "route" => b.route s
  | "line" => b.line s
  | "tcp" => (unreachable, b)
  | "settle" =>
    let (ok, w) := w.settleWithin settleLimit
    (.str (if ok then "settled" else "timeout"), { b with cluster := w })
  | "quiesce" =>
    let w := Cluster.quiesce ((natMember? s "held").getD 0) quietWindow (w.now + settleLimit)
      Cluster.wakeFuel w
    (.obj [("held", .int w.fleet.heldCount)], { b with cluster := w })
  | "release" => b.release s
  | "targets" => (b.targets s, b)
  | "executions" => (b.executions s, b)
  | "operations" => (b.operations, b)
  | "published" => (b.published, b)
  | "events" => (b.events, b)
  | "send" => b.send s
  | "reobserve" => b.reobserve s
  | "late_reply" => b.lateReply s
  | "operation" => (b.operation s, b)
  | "pending" => (.int w.correlator.count, b)
  | "shutdown" => (.str "done", { b with cluster := w.shutdown shutdownLimit })
  | "restart" =>
    let config := engineConfigOver defaultEngineConfig ((s.field? "config").getD (.obj []))
    (.str "ok", { b with cluster := w.restart config })
  | "resume_orphans" =>
    let (n, w) := w.resumeOrphans
    (.int n, { b with cluster := w })
  | "agent_state" => (b.agentState s, b)
  | "agent_reply" => b.agentReply s
  | other => (badInput ("unknown step " ++ other), b)

end EngineBench

def engineSession : Session where
  State := EngineBench
  start := fun now input =>
    let config := engineConfigOver defaultEngineConfig ((input.field? "config").getD (.obj []))
    .ok { cluster := Cluster.initial (now * 1000) 0x5eed config }
  step := fun b s =>
    let (j, b) := b.step s
    .ok (j, { b with cluster := { b.cluster with now := b.cluster.now + 1 } })

end DeviceFleet.Bench
