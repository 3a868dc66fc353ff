import DeviceFleet.Bench.Engine
import DeviceFleet.Session.Connection

/-!
# The bench: devices on the wire

The library has no network transport: a connection attempt fails as unreachable, so no
device session is registered and every request fails to reach its device.
-/

namespace DeviceFleet.Bench

open Engine Command Fleet

def operationBriefJson (op : Operation) : Json :=
  .obj [("status", .str op.status.name), ("message", Json.optStr op.message),
    ("published", .bool op.published)]

/-- The wire bench: the engine's cluster, the device side of the server, where no device is
connected, and the number of calls made. -/
structure WireBench where
  cluster : Cluster
  sessions : Session.Server := .empty
  calls : Nat := 0

namespace WireBench

def atStart (now : Int) : WireBench :=
  let w := Cluster.initial now 0x5eed defaultEngineConfig
  { cluster := { w with fleet := { defaultMode := .unreachable } } }

def operationOf (b : WireBench) (id : Uuid) : Json :=
  match b.cluster.operations.find id with
  | some op => operationBriefJson op
  | none => .null

def send (b : WireBench) (step : Json) : Json × WireBench :=
  match requestOfJson ((step.field? "request").getD (.obj [])) with
  | .error j => (j, b)
  | .ok request =>
    let n := b.calls
    match b.cluster.callSend request (natMember? step "timeout_ms") with
    | (.ok (id, o), w) =>
      let b := { b with cluster := w, calls := n + 1 }
      (.obj [("call", .int n), ("outcome", dispatchOutcomeJson o),
        ("operation", b.operationOf id.requestId)], b)
    | (.error e, w) =>
      let b := { b with cluster := w, calls := n + 1 }
      match e with
      | .communication id _ =>
        (failureWith e.kind e.message [("operation", b.operationOf id.requestId)], b)
      | _ => (failure e.kind e.message, b)

def step (b : WireBench) (s : Json) : Json × WireBench :=
  match s.strOr "do" "" with
  | "connect" => (EngineBench.unreachable, b)
  | "write" | "close" | "received" | "reply" => (badInput "no such connection", b)
  | "devices" =>
    let r := b.sessions.registry
    (.obj [("count", .int r.count),
      ("devices", .arr (r.devices.map fun (t, c) => .arr [.str t, .str c]))], b)
  | "info" =>
    match b.sessions.registry.info? (s.strOr "tenant_id" "1") (s.strOr "client_id" "") with
    | some i => (.obj [("tenant_id", .str i.handle.tenantId),
        ("client_id", .str i.handle.clientId)], b)
    | none => (.null, b)
  | "sleep" =>
    let ms := (natMember? s "ms").getD 0
    (.str "slept", { b with cluster := { b.cluster with now := b.cluster.now + ms * 1000 } })
  | "send" => b.send s
  | other => (badInput ("unknown step " ++ other), b)

end WireBench

def wireSession : Session where
  State := WireBench
  start := fun now _ => .ok (WireBench.atStart (now * 1000))
  step := fun b s =>
    let (j, b) := b.step s
    .ok (j, { b with cluster := { b.cluster with now := b.cluster.now + 1 } })

end DeviceFleet.Bench
