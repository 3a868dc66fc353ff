import DeviceFleet.Text.Blank
import DeviceFleet.Text.Decimal
import DeviceFleet.Text.Quoted
import DeviceFleet.Datastore.Index
import DeviceFleet.Config.Tree

/-!
# Server settings

Settings come from `DEVMGMT_` environment variables as text, numbers and truth values being
read from it in any letter case; a value that reads as neither is a settings error naming
the setting. Per-application timeouts are `APP=MS` pairs separated by commas.
-/

namespace DeviceFleet.Config

def defaultRequestTimeoutMs : Nat := 15000

def pendingSweepIntervalMs : Nat := 1000

def defaultJobCacheSize : Nat := 1024

/-- The server's settings. -/
structure ServerConfig where
  logLevel : String := "info"
  nodeId : String := "node-1"
  listenAddr : String := "0.0.0.0:7400"
  controlAddr : String := "127.0.0.1:7401"
  defaultRequestTimeoutMs : Nat := defaultRequestTimeoutMs
  appTimeoutsMs : String := ""
  pendingSweepIntervalMs : Nat := pendingSweepIntervalMs
  maxConcurrentTargets : Nat := 16
  processAgainDelayMs : Nat := 5000
  processAgainMaxPasses : Nat := 5
  housekeepingIntervalMs : Nat := 60000
  eventClaimLeaseMs : Nat := 30000
  eventRetentionSecs : Nat := 7 * 24 * 3600
  includeStackTrace : Bool := false
  indexGranularity : String := "week"
  jobCacheSize : Nat := defaultJobCacheSize
  jobsFile : Option String := none
  deriving DecidableEq, Repr

def asciiLower (s : String) : String :=
  String.map Char.toLower s

def typeFault (shown expected key : String) (fromEnv : Bool) : String :=
  "invalid type: " ++ shown ++ ", expected " ++ expected ++ " for key `" ++ key ++ "`" ++
    (if fromEnv then " in the environment" else "")

def shownKind : SettingValue → String
  | .table _ => "map"
  | .array _ => "sequence"
  | .nil => "unit value"
  | .text s => "string " ++ Text.quoteShown s

/-- An unsigned setting read from a value: decimal text, or one of the words `true`, `on`,
`yes` (1) and `false`, `off`, `no` (0) in any letter case. -/
def readUnsigned64 (key : String) : SettingValue → Except String Nat
  | .text raw =>
    match Text.lowercase raw with
    | "true" | "on" | "yes" => pure 1
    | "false" | "off" | "no" => pure 0
    | _ =>
      match Text.parseU64 raw with
      | .ok n => pure n
      | .error _ => throw (typeFault ("string " ++ Text.quoteShown raw) "an integer" key true)
  | v => throw (typeFault (shownKind v) "an integer" key false)

def readUnsigned (key : String) (bits : Nat) (v : SettingValue) : Except String Nat := do
  let n ← readUnsigned64 key v
  if n < Nat.pow 2 bits then pure n
  else throw (typeFault ("64-bit unsigned integer `" ++ Text.natText n ++ "`")
    ("an unsigned " ++ Text.natText bits ++ " bit integer") key false)

/-- A truth-valued setting read from a value; the text is shown in lowercase when it is
neither word. -/
def readBool (key : String) : SettingValue → Except String Bool
  | .text raw =>
    match Text.lowercase raw with
    | "1" | "true" | "on" | "yes" => .ok true
    | "0" | "false" | "off" | "no" => .ok false
    | lower => .error (typeFault ("string " ++ Text.quoteShown lower) "a boolean" key true)
  | v => .error (typeFault (shownKind v) "a boolean" key false)

def readText (key : String) : SettingValue → Except String String
  | .text s => .ok s
  | v => .error (typeFault (shownKind v) "a string" key false)

/-- The settings a settings tree gives; a missing setting keeps its default. -/
def ServerConfig.ofTree (tree : SettingValue) : Except String ServerConfig := do
  let entries := match tree with
    | .table es => es
    | _ => []
  let get := fun (key : String) => entries.lookup key
  let text := fun (key dflt : String) =>
    match get key with
    | some v => readText key v
    | none => pure dflt
  let num := fun (key : String) (bits dflt : Nat) =>
    match get key with
    | some v => readUnsigned key bits v
    | none => pure dflt
  let defaults : ServerConfig := {}
  let logLevel ← text "log_level" defaults.logLevel
  let nodeId ← text "node_id" defaults.nodeId
  let listenAddr ← text "listen_addr" defaults.listenAddr
  let controlAddr ← text "control_addr" defaults.controlAddr
  let defaultRequestTimeoutMs ← num "default_request_timeout_ms" 64
    defaults.defaultRequestTimeoutMs
  let appTimeoutsMs ← text "app_timeouts_ms" ""
  let pendingSweepIntervalMs ← num "pending_sweep_interval_ms" 64
    defaults.pendingSweepIntervalMs
  let maxConcurrentTargets ← num "max_concurrent_targets" 64 defaults.maxConcurrentTargets
  let processAgainDelayMs ← num "process_again_delay_ms" 64 defaults.processAgainDelayMs
  let processAgainMaxPasses ← num "process_again_max_passes" 32 defaults.processAgainMaxPasses
  let housekeepingIntervalMs ← num "housekeeping_interval_ms" 64
    defaults.housekeepingIntervalMs
  let eventClaimLeaseMs ← num "event_claim_lease_ms" 64 defaults.eventClaimLeaseMs
  let eventRetentionSecs ← num "event_retention_secs" 64 defaults.eventRetentionSecs
  let includeStackTrace ← match get "include_stack_trace" with
    | some v => readBool "include_stack_trace" v
    | none => pure false
  let indexGranularity ← text "index_granularity" defaults.indexGranularity
  let jobCacheSize ← num "job_cache_size" 64 defaults.jobCacheSize
  let jobsFile ← match get "jobs_file" with
    | some .nil | none => pure none
    | some v => some <$> readText "jobs_file" v
  pure { logLevel, nodeId, listenAddr, controlAddr, defaultRequestTimeoutMs, appTimeoutsMs,
         pendingSweepIntervalMs, maxConcurrentTargets, processAgainDelayMs,
         processAgainMaxPasses, housekeepingIntervalMs, eventClaimLeaseMs, eventRetentionSecs,
         includeStackTrace, indexGranularity, jobCacheSize, jobsFile }

def insertTimeout (app : String) (ms : Nat) : List (String × Nat) → List (String × Nat)
  | [] => [(app, ms)]
  | (k, v) :: rest =>
    if app = k then (app, ms) :: rest
    else if app < k then (app, ms) :: (k, v) :: rest
    else (k, v) :: insertTimeout app ms rest

def readTimeoutPair (pair : String) : Except String (String × Nat) :=
  match pair.splitOn "=" with
  | [] | [_] => .error ("app timeout '" ++ pair ++ "' is not APP=MS")
  | app :: rest =>
    match Text.parseU64 (Text.trimBlank ("=".intercalate rest)) with
    | .ok ms => .ok (asciiLower (Text.trimBlank app), ms)
    | .error e => .error ("app timeout '" ++ pair ++ "': " ++ e.message)

def ServerConfig.appTimeouts (c : ServerConfig) : Except String (List (String × Nat)) :=
  let pairs := (c.appTimeoutsMs.splitOn ",").map Text.trimBlank |>.filter (!·.isEmpty)
  pairs.foldlM (fun acc pair => do
    let (app, ms) ← readTimeoutPair pair
    pure (insertTimeout app ms acc)) []

def ServerConfig.granularity (c : ServerConfig) : Except String Datastore.Granularity :=
  Datastore.Granularity.parse c.indexGranularity

/-- How long to wait for a device's reply. -/
structure DispatcherConfig where
  defaultTimeoutMs : Nat := defaultRequestTimeoutMs
  appTimeouts : List (String × Nat) := []
  deriving DecidableEq, Repr, Inhabited

/-- The timeout of an application: its own when it has one (names compared in lowercase),
else the default. -/
def DispatcherConfig.timeoutFor (d : DispatcherConfig) (app : String) : Nat :=
  (d.appTimeouts.lookup (asciiLower app)).getD d.defaultTimeoutMs

/-- The settings a dispatcher keeps of those it is given: the application names put in
lowercase, a later name replacing an earlier one that lowercases the same. -/
def DispatcherConfig.lowercased (d : DispatcherConfig) : DispatcherConfig :=
  { d with
    appTimeouts :=
      d.appTimeouts.foldl (fun acc kv => insertTimeout (asciiLower kv.1) kv.2 acc) [] }

def ServerConfig.dispatcherConfig (c : ServerConfig) : Except String DispatcherConfig := do
  let ts ← c.appTimeouts
  pure ⟨c.defaultRequestTimeoutMs, ts⟩

/-- How the job coordinator runs. -/
structure CoordinatorConfig where
  nodeId : String := "node-1"
  maxConcurrentTargets : Nat := 16
  againDelayMs : Nat := 5000
  maxAgainPasses : Nat := 5
  deriving DecidableEq, Repr, Inhabited

def ServerConfig.coordinatorConfig (c : ServerConfig) : CoordinatorConfig :=
  ⟨c.nodeId, c.maxConcurrentTargets, c.processAgainDelayMs, c.processAgainMaxPasses⟩

end DeviceFleet.Config
