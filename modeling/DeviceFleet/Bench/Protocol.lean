import DeviceFleet.Bench.Basic
import DeviceFleet.Protocol.Method

/-!
# The bench: methods and response codes

-/

namespace DeviceFleet.Bench

def methodReport (input : Json) : Json :=
  let raw := input.strOr "raw" ""
  match Method.normalize raw with
  | .error e => failure "UnknownMethod" e.message
  | .ok m =>
    let again := (Method.normalize m.name).toOption.map Method.name
    let fromAlias := (Method.normalize m.deviceAlias).toOption.map Method.name
    .obj [("method", .str m.name), ("device_alias", .str m.deviceAlias),
      ("display", .str m.name),
      ("name", .str ((Method.normalizeName raw).toOption.getD "")),
      ("again", Json.optStr again), ("from_alias", Json.optStr fromAlias)]

def responseCodeReport (input : Json) : Json :=
  let code := ResponseCode.ofResultCode (input.intOr "code" 0).toNat
  .obj [("code", .str code.name), ("result_code", .int code.resultCode),
    ("accepted", .bool code.isAccepted)]

end DeviceFleet.Bench
