import DeviceFleet.Bench.Basic
import DeviceFleet.Json.Print
import DeviceFleet.Events.Housekeeping

/-!
# The bench: event store and recorder sessions

Both sessions run on a clock counted in microseconds that moves one tick per step, so every
step happens strictly after the steps before it. Claims taken by a step are numbered in
order; later steps name them by number.
-/

namespace DeviceFleet.Bench

open Events

def eventOfJson (j : Json) : Except Json ServiceEvent := do
  let action ← match j.field? "action" with
    | none => pure EventAction.updated
    | some a =>
      match a.str?.bind EventAction.ofName? with
      | some x => pure x
      | none => throw (badInput ("action: unknown variant `" ++ (a.str?.getD "") ++
          "`, expected one of `CREATED`, `UPDATED`, `DELETED`, `EXECUTED`"))
  pure
    { contextId := j.strOr "context" "", sourceService := j.strOr "source" "",
      tenantId := j.strOr "tenant_id" "1", entityType := j.strOr "entity_type" "thing",
      entityId := j.strOr "entity_id" "t-1", action,
      payload := match j.field? "payload" with
        | none | some .null => none
        | some p => some p }

def eventJson (e : ServiceEvent) : Json :=
  .obj [("context_id", .str e.contextId), ("source_service", .str e.sourceService),
    ("tenant_id", .str e.tenantId), ("entity_type", .str e.entityType),
    ("entity_id", .str e.entityId), ("action", .str e.action.name),
    ("payload", e.payload.getD .null)]

def recordJson (r : EventRecord) : Json :=
  .obj [("record_id", .str r.recordId.text), ("context_id", .str r.event.contextId),
    ("source_service", .str r.event.sourceService), ("status", .str r.status.name),
    ("in_flight", .bool r.inFlight), ("origin_node", .str r.originNode),
    ("claimed", .bool r.claimedOn.isSome), ("sequence", .int r.sequence),
    ("event", eventJson r.event)]

def storeFailure (e : Store.StoreError) : Json :=
  failure e.kind e.message

/-- The state both sessions share: the store, the id source, the claims taken by number, and
the clock. -/
structure EventBench where
  store : EventStore := {}
  ids : UuidSource := ⟨0x5eed⟩
  claims : List (Uuid × Uuid) := []
  now : Int

namespace EventBench

def atStart (now : Int) : EventBench :=
  { now := now * 1000 }

def target (b : EventBench) (step : Json) : Except Json (Uuid × Uuid) :=
  match step.field? "claim" with
  | some c =>
    match c.int? with
    | some (.ofNat k) =>
      match b.claims[k]? with
      | some t => .ok t
      | none => .error (badInput "no such claim")
    | _ => .error (badInput "no such claim")
  | none =>
    match Uuid.parse (step.strOr "record_id" "") with
    | .ok id => .ok (id, Uuid.nil)
    | .error e => .error (badInput ("record_id: " ++ e.message))

def claim (b : EventBench) (step : Json) (node : String) (lease : Nat) : Json × EventBench :=
  match eventOfJson step with
  | .error j => (j, b)
  | .ok e =>
    let (o, s, ids) := b.store.claim e node lease b.now b.ids
    let b := { b with store := s, ids }
    match o with
    | .claimed r =>
      (.obj [("claimed", recordJson r), ("claim", .int b.claims.length)],
        { b with claims := b.claims ++ [(r.recordId, r.claimToken)] })
    | .alreadyProcessed => (.str "already_processed", b)
    | .inFlight => (.str "in_flight", b)

def release (b : EventBench) (step : Json) : Json × EventBench :=
  match b.target step with
  | .error j => (j, b)
  | .ok (id, token) =>
    match b.store.release id token with
    | .ok s => (.str "ok", { b with store := s })
    | .error e => (storeFailure e, b)

def find (b : EventBench) (step : Json) : Json :=
  match b.store.find (step.strOr "context" "", step.strOr "source" "") with
  | some r => recordJson r
  | none => .null

def count (b : EventBench) : Json :=
  .obj [("records", .int b.store.records.length), ("tombstones", .int b.store.tombstones.length)]

def leaseOf (step : Json) : Nat :=
  (step.intOr "lease_ms" 30000).toNat * 1000

def storeStep (b : EventBench) (step : Json) : Json × EventBench :=
  let b := { b with now := b.now + 1 }
  match step.strOr "do" "" with
  | "claim" => b.claim step (step.strOr "node" "node-a") (leaseOf step)
  | "mark_processed" =>
    match b.target step with
    | .error j => (j, b)
    | .ok (id, _) =>
      match b.store.markProcessed id with
      | .ok (r, s) => (recordJson r, { b with store := s })
      | .error e => (storeFailure e, b)
  | "release" => b.release step
  | "find" => (b.find step, b)
  | "processed_after" =>
    (.arr ((b.store.processedAfter (step.intOr "after" 0).toNat
      (step.intOr "limit" 100).toNat).map recordJson), b)
  | "purge" =>
    let olderThan := b.now + step.intOr "older_than_offset_ms" 86400000 * 1000
    let (n, s) := b.store.purgeProcessed (step.intOr "sequence" 0).toNat olderThan
    (.int n, { b with store := s })
  | "load_cursor" => (Json.optInt ((b.store.loadCursor (step.strOr "consumer" "")).map Int.ofNat), b)
  | "save_cursor" =>
    let s := b.store.saveCursor (step.strOr "consumer" "") (step.intOr "sequence" 0).toNat
    (.str "ok", { b with store := s })
  | "min_cursor" => (Json.optInt (b.store.minCursor.map Int.ofNat), b)
  | "count" => (b.count, b)
  | other => (badInput ("unknown step " ++ other), b)

end EventBench

def eventStoreSession : Session where
  State := EventBench
  start := fun now _ => .ok (EventBench.atStart now)
  step := fun b step => .ok (b.storeStep step)

def recordOutcomeJson : Option (Except EventStoreError (RecordOutcome Json)) → Json
  | some (.ok (.applied v)) => .obj [("applied", v)]
  | some (.ok .duplicate) => .str "duplicate"
  | some (.error e) => failure e.kind e.message
  | none => .null

/-- The recorder bench: the shared store and the nodes by name. -/
structure RecorderBench where
  base : EventBench
  nodes : SortedMap Recorder := []

namespace RecorderBench

def freshNode (name : String) (lease : Nat) : Recorder :=
  { nodeId := name, claimLease := lease, listeners := [{ name := "journal", mode := .log }] }

def node (b : RecorderBench) (step : Json) : Except Json (String × Recorder) :=
  let name := step.strOr "node" "node-a"
  match b.nodes.find? name with
  | some r => .ok (name, r)
  | none => .error (badInput ("no such node " ++ name))

def effectOf (step : Json) : Effect Json :=
  let message := step.strOr "message" "effect failed"
  { result := match step.strOr "effect" "ok" with
      | "fail" => .error message
      | "store_error" => .error (Store.StoreError.backend message).message
      | _ => .ok ((step.field? "value").getD (.str "done")),
    duration := (step.intOr "delay_ms" 0).toNat * 1000 }

def record (b : RecorderBench) (step : Json) (name : String) (r : Recorder) :
    Json × RecorderBench :=
  match eventOfJson step with
  | .error j => (j, b)
  | .ok e =>
    let copies := (step.intOr "copies" 1).toNat
    let w := recordCopies b.base.store b.base.ids r e (effectOf step) (max copies 1) b.base.now
    let ended := w.pending.foldl (fun t d => max t ((d.endedAt?).getD t)) b.base.now
    let outcomes := w.pending.map fun d => recordOutcomeJson d.outcome?
    let b := { b with
      base := { b.base with store := w.store, ids := w.ids, now := ended },
      nodes := b.nodes.insert name w.recorder }
    let runs := ("effect_runs", Json.int w.effectRuns)
    if copies > 1 then
      (.obj [("outcomes", Json.strs (sortTexts (outcomes.map fun j =>
        Json.render (Json.sortKeys j)))), runs], b)
    else (.obj [("outcome", outcomes.headD .null), runs], b)

def cursors (b : RecorderBench) (step : Json) : Json :=
  .obj [("cursors", .arr ((step.strsOr "consumers").map fun c =>
      .arr [.str c, Json.optInt ((b.base.store.loadCursor c).map Int.ofNat)])),
    ("min", Json.optInt (b.base.store.minCursor.map Int.ofNat))]

def nodeStep (b : RecorderBench) (step : Json) (act : String) (name : String) (r : Recorder) :
    Json × RecorderBench :=
  match act with
  | "listener" =>
    let mode := match step.strOr "mode" "log" with
      | "fail" => ListenerMode.fail
      | "panic" => .panic
      | _ => .log
    (.str "subscribed",
      { b with nodes := b.nodes.insert name (r.subscribe { name := step.strOr "name" "", mode }) })
  | "record" => b.record step name r
  | "notify" =>
    match eventOfJson step with
    | .error j => (j, b)
    | .ok e => (.str "notified", { b with nodes := b.nodes.insert name (r.notify e) })
  | "seen" => (Json.strs ((r.listeners.head?.map (·.received)).getD []), b)
  | _ =>
    let retention := (step.intOr "retention_ms" 86400000).toNat * 1000
    let (report, keeper, s, r) := housekeep b.base.store r 0 retention b.base.now
    (.obj [("replayed", .int report.replayed), ("purged", .int report.purged),
        ("cursor", .int report.cursor), ("keeper_cursor", .int keeper)],
      { b with base := { b.base with store := s }, nodes := b.nodes.insert name r })

def step (b : RecorderBench) (step : Json) : Json × RecorderBench :=
  let b := { b with base := { b.base with now := b.base.now + 1 } }
  let act := step.strOr "do" ""
  match act with
  | "node" =>
    let name := step.strOr "node" "node-a"
    (.obj [("node", .str name)],
      { b with nodes := b.nodes.insert name (freshNode name (EventBench.leaseOf step)) })
  | "claim" =>
    let (j, base) := b.base.claim step (step.strOr "node" "node-a") (EventBench.leaseOf step)
    (j, { b with base })
  | "release" =>
    let (j, base) := b.base.release step
    (j, { b with base })
  | "find" => (b.base.find step, b)
  | "count" => (b.base.count, b)
  | "cursors" => (b.cursors step, b)
  | "listener" | "record" | "notify" | "seen" | "housekeep" =>
    match b.node step with
    | .error j => (j, b)
    | .ok (name, r) => b.nodeStep step act name r
  | other => (badInput ("unknown step " ++ other), b)

end RecorderBench

def recorderSession : Session where
  State := RecorderBench
  start := fun now _ => .ok { base := EventBench.atStart now }
  step := fun b step => .ok (b.step step)

end DeviceFleet.Bench
