import DeviceFleet.Bench.Canonical
import DeviceFleet.Command.Operation
import DeviceFleet.Control.Line

/-!
# The bench: command lines and operations

-/

namespace DeviceFleet.Bench

open Command

def parseLineReport (input : Json) : Json :=
  match Control.parseLine (input.strOr "line" "") with
  | some (m, p, b) => .arr [.str m, .str p, .str b]
  | none => .null

def operationStateJson (op : Operation) : Json :=
  .obj [("status", .str op.status.name), ("message", Json.optStr op.message),
    ("published", .bool op.published), ("ended", .bool op.endedOn.isSome),
    ("version", .int op.version)]

def operationReport (now : Int) (input : Json) : Json :=
  match requestOfJson ((input.field? "request").getD (.obj [])) with
  | .error j => j
  | .ok r =>
    let op := Operation.start ⟨r.tenantId, r.deviceId, Uuid.nil⟩ r now
    let first := Json.obj [("start", .obj [("operation_id", .str op.operationId.text),
        ("tenant_id", .str op.tenantId), ("device_id", .str op.deviceId),
        ("app_name", .str op.appName), ("method", .str op.method.name),
        ("resource", Json.strs op.resource), ("is_final", .bool op.status.isFinal)]),
      ("state", operationStateJson op)]
    let calls := ((input.field? "calls").bind Json.arr?).getD []
    let step := fun (acc : List Json × Operation) (c : Json) =>
      let (out, op) := acc
      let res : Except Json (Bool × Operation) := match c.strOr "call" "" with
        | "publish" => .ok op.markPublished
        | "notify" => .ok (op.notifyTimeout (c.strOr "message" ""))
        | "finish" =>
          let raw := c.strOr "status" ""
          match OperationStatus.ofName? raw with
          | some s => .ok (op.finish s ((c.field? "message").bind Json.str?) now)
          | none => .error (badInput ("status: unknown variant `" ++ raw ++
              "`, expected one of `RUNNING`, `NOTIFIED`, `COMPLETED`, `FAILED`"))
        | other => .error (badInput ("unknown call " ++ other))
      res.map fun (changed, op') =>
        (out ++ [Json.obj [("changed", .bool changed), ("state", operationStateJson op'),
          ("is_final", .bool op'.status.isFinal)]], op')
    match calls.foldlM step ([first], op) with
    | .ok (out, _) => .arr out
    | .error j => j

end DeviceFleet.Bench
