import DeviceFleet.Job.Stores
import DeviceFleet.Job.Driver
import DeviceFleet.Job.Error
import DeviceFleet.Command.OperationStore
import DeviceFleet.Command.Correlator
import DeviceFleet.Command.Dispatch
import DeviceFleet.Fleet.Scripted
import DeviceFleet.Events.Recorder
import DeviceFleet.Cache.Lookup
import DeviceFleet.Config.Server

/-!
# The job engine's cluster

Everything the engine's nodes share: stores, correlator, devices, coordinators and the work in
flight as tasks that act in atomic steps, with a clock in microseconds.
-/

namespace DeviceFleet.Engine

open Job Command Events Store

/-- Settings of the engine. Durations are milliseconds. -/
structure EngineConfig where
  nodeId : String
  maxConcurrentTargets : Nat
  againDelayMs : Nat
  maxAgainPasses : Nat
  includeStackTrace : Bool
  dispatcher : Config.DispatcherConfig
  jobCacheSize : Nat
  claimLeaseMs : Nat
  deriving Inhabited

/-- A call waiting for its reply until a deadline; `timeoutMs` is the timeout it was given. -/
structure ReplyWait where
  id : CorrelationId
  handle : Nat
  deadline : Int
  timeoutMs : Nat
  deriving Inhabited, DecidableEq

/-- A target whose processing waits on a reply: to a request sent now, or to an earlier
request observed again. -/
inductive Work where
  | sending (target : JobTarget) (wait : ReplyWait)
  | observing (target : JobTarget) (operationId : Uuid) (wait : ReplyWait)
  deriving DecidableEq

def Work.wait : Work → ReplyWait
  | .sending _ w => w
  | .observing _ _ w => w

/-- Where an execution's run stands: about to begin; at the top of a step's loop; presenting
the pending targets of a step (those still to start, those waiting, how many asked to come
again, and whether storing a result failed); pausing before presenting again; or ending with
a status. -/
inductive Phase where
  | begin
  | stepTop (index : Nat)
  | presenting (index : Nat) (queue : List JobTarget) (active : List Work) (again : Nat)
      (failed : Bool)
  | pausing (index : Nat) (wakeAt : Int)
  | ending (status : ExecutionStatus)
  deriving Inhabited, DecidableEq

/-- The run of an execution by a coordinator: the job and execution as launched, whether it
is a fresh start, and whether it was asked to stop. -/
structure ExecTask where
  coordinator : Nat
  job : Job
  execution : Execution
  fresh : Bool
  cancelled : Bool := false
  phase : Phase := .begin
  deriving DecidableEq

/-- How a call made from outside ended. -/
inductive CallEnd where
  | sent (result : Except DispatchError (CorrelationId × DispatchOutcome))
  | observed (result : Except DispatchError OperationStatus)
  | stopped (result : Except JobError Unit)

/-- A concurrent task: an execution's run, a device's reply on its way to the dispatcher, a
call made from outside waiting for its reply, or a stop by a coordinator that has looked up
what it stops (the running execution and the queued ones) and has still to end them. -/
inductive Task where
  | execution (t : ExecTask)
  | delivery (reply : Envelope)
  | sendCall (call : Nat) (wait : ReplyWait)
  | observeCall (call : Nat) (wait : ReplyWait)
  | stopping (coordinator call : Nat) (running : Execution) (queued : List Execution)
  deriving DecidableEq

/-- A coordinator: its settings, whether it was shut down, and the executions it runs here
with the tasks running them. -/
structure Coordinator where
  config : EngineConfig
  shutdown : Bool := false
  running : List (Uuid × Nat) := []
  deriving Inhabited

/-- The whole engine. The last coordinator is the one in charge. -/
structure Cluster where
  now : Int
  ids : UuidSource
  events : EventStore := {}
  jobs : List Job := []
  jobCache : Cache.Lookup (String × String) Job
  targets : TargetStore := {}
  executions : ExecutionStore := {}
  operations : OperationStore := {}
  correlator : Correlator := {}
  fleet : Fleet := {}
  coordinators : List Coordinator
  tasks : List (Nat × Task) := []
  nextTask : Nat := 0
  ended : List (Nat × CallEnd) := []

def jobEventSource : String := "job-engine"

def jobEntity : String := "job"

/-- Why recording an event failed: the event store, or the effect, failed. -/
inductive RecordFailure where
  | store (e : StoreError)
  | effect (e : StoreError)

def RecordFailure.storeError : RecordFailure → StoreError
  | .store e | .effect e => e

def RecordFailure.eventError (contextId source : String) : RecordFailure → EventStoreError
  | .store e => .store e
  | .effect e => .effectFailed contextId source e.message

namespace Cluster

def initial (now : Int) (seed : UInt64) (config : EngineConfig) : Cluster :=
  { now, ids := ⟨seed⟩, jobCache := Cache.Lookup.empty config.jobCacheSize,
    coordinators := [{ config }] }

def currentIndex (w : Cluster) : Nat :=
  w.coordinators.length - 1

def current (w : Cluster) : Coordinator :=
  w.coordinators.getLastD default

def coordinator (w : Cluster) (i : Nat) : Coordinator :=
  w.coordinators.getD i default

def mapCoordinator (w : Cluster) (i : Nat) (f : Coordinator → Coordinator) : Cluster :=
  { w with coordinators := w.coordinators.modify i f }

def config (w : Cluster) : EngineConfig :=
  w.current.config

/-- The settings the dispatcher was wired with: those the cluster started with. The dispatcher
serves every coordinator that takes charge later. -/
def dispatcherConfig (w : Cluster) : EngineConfig :=
  (w.coordinator 0).config

def nowMs (w : Cluster) : Int :=
  w.now / 1000

def freshId (w : Cluster) : Uuid × Cluster :=
  let (u, ids) := w.ids.next
  (u, { w with ids })

/-- Start a task; answers its number. -/
def spawn (w : Cluster) (t : Task) : Nat × Cluster :=
  (w.nextTask, { w with tasks := w.tasks ++ [(w.nextTask, t)], nextTask := w.nextTask + 1 })

def spawn_ (w : Cluster) (t : Task) : Cluster :=
  (w.spawn t).2

/-- What the listeners do with a recorded event: an event about a job drops the job from the
cache. -/
def heard (w : Cluster) (e : ServiceEvent) : Cluster :=
  if e.entityType == jobEntity then
    { w with jobCache := (w.jobCache.invalidate (e.tenantId, e.entityId)).2 }
  else w

/-- Record an event once on `node` and apply its effect: an event already recorded is a
duplicate and its effect does not run; a failing effect leaves the cluster as it was, with the
claim released. -/
def recordOnce {α : Type} (w : Cluster) (node : String) (e : ServiceEvent)
    (effect : Cluster → Except StoreError (α × Cluster)) :
    Except RecordFailure (RecordOutcome α) × Cluster :=
  match w.events.claim e node (w.config.claimLeaseMs * 1000) w.now w.ids with
  | (.claimed r, s, ids) =>
    let w := { w with events := s, ids }
    match effect w with
    | .ok (v, w') =>
      match w'.events.markProcessed r.recordId with
      | .ok (_, s) => (.ok (.applied v), { w' with events := s }.heard e)
      | .error err => (.error (.store err), w')
    | .error err =>
      let s := match w.events.release r.recordId r.claimToken with
        | .ok s => s
        | .error _ => w.events
      (.error (.effect err), { w with events := s })
  | (_, s, ids) => (.ok .duplicate, { w with events := s, ids })

def jobKey (tenantId jobId : String) : String × String :=
  (tenantId, jobId)

/-- A job definition, through the cache: a job found in the store is cached unless the cache
was invalidated meanwhile. -/
def findJob (w : Cluster) (tenantId jobId : String) : Option Job × Cluster :=
  match w.jobCache.beginLoad (jobKey tenantId jobId) with
  | (.inl v, c) => (v, { w with jobCache := c })
  | (.inr epoch, c) =>
    let loaded := w.jobs.find? fun j => j.tenantId == tenantId && j.jobId == jobId
    (loaded, { w with jobCache := c.finishLoad (jobKey tenantId jobId) loaded epoch })

def saveJob (w : Cluster) (j : Job) : Cluster :=
  let same := fun (x : Job) => x.tenantId == j.tenantId && x.jobId == j.jobId
  let jobs := if w.jobs.any same then w.jobs.map (fun x => if same x then j else x)
    else w.jobs ++ [j]
  { w with jobs, jobCache := (w.jobCache.invalidate (jobKey j.tenantId j.jobId)).2 }

/-- Change an operation; answers whether it changed. -/
def modifyOperation (w : Cluster) (id : Uuid) (change : Operation → Bool × Operation) :
    Except StoreError (Bool × Cluster) :=
  (w.operations.modify id change).map fun (b, s) => (b, { w with operations := s })

/-- Whether a waiting call can go on: its reply is in, or its deadline has come. -/
def replyReady (w : Cluster) (rw : ReplyWait) : Bool :=
  decide (rw.deadline ≤ w.now) ||
    match w.correlator.slots[rw.handle]? with
    | some (_, .awaiting) => false
    | _ => true

/-- Whether an execution task was asked to stop, by itself or by its coordinator's
shutdown. -/
def cancelled (w : Cluster) (t : ExecTask) : Bool :=
  t.cancelled || (w.coordinator t.coordinator).shutdown

end Cluster

theorem saveJob_finds (w : Cluster) (j : Job) :
    ((w.saveJob j).jobs.find? fun x => x.tenantId == j.tenantId && x.jobId == j.jobId).isSome =
      true := by
  unfold Cluster.saveJob
  simp only
  split
  · rename_i h
    obtain ⟨x, hx, hs⟩ := List.any_eq_true.mp h
    rw [List.find?_isSome]
    exact ⟨j, List.mem_map.mpr ⟨x, hx, by simp [hs]⟩, by simp⟩
  · simp [List.find?_append]

end DeviceFleet.Engine
