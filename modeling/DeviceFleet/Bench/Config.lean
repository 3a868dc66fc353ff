import DeviceFleet.Bench.Basic
import DeviceFleet.Config.Server

/-!
# The bench: server settings

-/

namespace DeviceFleet.Bench

open Config

def configJson (c : ServerConfig) : Json :=
  .obj [("log_level", .str c.logLevel), ("node_id", .str c.nodeId),
    ("listen_addr", .str c.listenAddr), ("control_addr", .str c.controlAddr),
    ("default_request_timeout_ms", .int c.defaultRequestTimeoutMs),
    ("app_timeouts_ms", .str c.appTimeoutsMs),
    ("pending_sweep_interval_ms", .int c.pendingSweepIntervalMs),
    ("max_concurrent_targets", .int c.maxConcurrentTargets),
    ("process_again_delay_ms", .int c.processAgainDelayMs),
    ("process_again_max_passes", .int c.processAgainMaxPasses),
    ("housekeeping_interval_ms", .int c.housekeepingIntervalMs),
    ("event_claim_lease_ms", .int c.eventClaimLeaseMs),
    ("event_retention_secs", .int c.eventRetentionSecs),
    ("include_stack_trace", .bool c.includeStackTrace),
    ("index_granularity", .str c.indexGranularity), ("job_cache_size", .int c.jobCacheSize),
    ("jobs_file", Json.optStr c.jobsFile)]

def okOrError {α : Type} (f : α → Json) : Except String α → Json
  | .ok a => .obj [("ok", f a)]
  | .error e => .obj [("error", .str e)]

def timeoutsJson (ts : List (String × Nat)) : Json :=
  .arr (ts.map fun (app, ms) => .arr [.str app, .int ms])

def serverConfigReport (input : Json) : Answer :=
  let env := ((input.field? "env").bind Json.obj?).getD [] |>.map fun (k, v) => (k, v.str?.getD "")
  let apps := input.strsOr "apps"
  match settingsTree env with
  | .error fatal => .error fatal
  | .ok tree =>
  match ServerConfig.ofTree tree with
  | .error e => .ok (failure "ConfigError" e)
  | .ok c =>
    .ok <| .obj [("config", configJson c),
      ("app_timeouts", okOrError timeoutsJson c.appTimeouts),
      ("index_granularity", okOrError (fun g => .str g.name) c.granularity),
      ("timeout_for", okOrError (fun d => timeoutsJson (apps.map fun a => (a, d.timeoutFor a)))
        c.dispatcherConfig),
      ("coordinator", let k := c.coordinatorConfig
        .obj [("node_id", .str k.nodeId), ("max_concurrent_targets", .int k.maxConcurrentTargets),
          ("again_delay_ms", .int k.againDelayMs), ("max_again_passes", .int k.maxAgainPasses)])]

def dispatcherTimeoutReport (input : Json) : Json :=
  let ts := ((input.field? "app_timeouts").bind Json.obj?).getD [] |>.map
    fun (k, v) => (k, (v.int?.getD 0).toNat)
  let d : DispatcherConfig := ⟨(input.intOr "default_ms" defaultRequestTimeoutMs).toNat, ts⟩
  .arr ((input.strsOr "apps").map fun a => .int (d.timeoutFor a))

end DeviceFleet.Bench
