import DeviceFleet.Bench.Basic
import DeviceFleet.Cache.Lookup
import DeviceFleet.Store.Error

/-!
# The bench: a look-aside cache session

-/

namespace DeviceFleet.Bench

open Cache

def cacheStep (c : Lookup String String) (step : Json) :
    Except String (Json × Lookup String String) :=
  let key := step.strOr "key" ""
  match step.strOr "do" "" with
  | "get" =>
    let (v, c') := c.get key
    .ok (Json.optStr v, c')
  | "load" =>
    match c.beginLoad key with
    | (.inl v, c') => .ok (.obj [("value", Json.optStr v), ("loader_called", .bool false)], c')
    | (.inr epoch, c') =>
      let c' := match step.field? "invalidate_during" with
        | some (.str k) => (c'.invalidate k).2
        | _ => c'
      match step.field? "error" with
      | some (.str e) =>
        .ok (failureWith "Backend" (Store.StoreError.backend e).message
          [("loader_called", .bool true)], c')
      | _ =>
        let loaded := (step.field? "value").bind Json.str?
        .ok (.obj [("value", Json.optStr loaded), ("loader_called", .bool true)],
          c'.finishLoad key loaded epoch)
  | "invalidate" =>
    let (had, c') := c.invalidate key
    .ok (.bool had, c')
  | "len" => .ok (.obj [("len", .int c.size), ("is_empty", .bool (c.size == 0))], c)
  | "stats" => .ok (.obj [("hits", .int c.hits), ("misses", .int c.misses)], c)
  | other => .ok (badInput ("unknown step " ++ other), c)

def cacheSession : Session where
  State := Lookup String String
  start := fun _ input => .ok (Lookup.empty (input.intOr "max_size" 1024).toNat)
  step := cacheStep

end DeviceFleet.Bench
