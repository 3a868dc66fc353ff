import DeviceFleet.Bench.Basic
import DeviceFleet.Datastore.Index

/-!
# The bench: weeks and index names

-/

namespace DeviceFleet.Bench

open Calendar Datastore

def weekReport (input : Json) : Answer :=
  match Date.ofYmd? (input.intOr "year" 0) (input.intOr "month" 0).toNat
      (input.intOr "day" 0).toNat with
  | none => .ok (badInput "no such date")
  | some d =>
    match weekOfYear d with
    | .ok (y, w) => .ok (.obj [("year", .int y), ("week", .int w)])
    | .error fatal => .error fatal

def indexNameReport (input : Json) : Answer :=
  let g := match input.field? "granularity" with
    | some (.str s) => Granularity.parse s
    | _ => .ok .week
  match g with
  | .error msg => .ok (failure "UnknownGranularity" msg)
  | .ok g =>
    match indexName (input.strOr "tenant_id" "") (input.intOr "timestamp_ms" 0) g with
    | .error fatal => .error fatal
    | .ok (.error e) => .ok (failure "IndexNameError" e.message)
    | .ok (.ok name) => .ok (.obj [("granularity", .str g.name), ("name", .str name)])

end DeviceFleet.Bench
