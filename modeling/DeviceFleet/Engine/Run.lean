import DeviceFleet.Engine.Coordinator

/-!
# Running executions

A run resets its targets on a fresh start, then runs the job's steps in passes over the
pending targets until none is left; at its end the execution is ended and the next queued one
promoted. The scheduler lets the tasks due act, then moves the clock.
-/

namespace DeviceFleet.Engine

open Job Command Events Store Conversion

/-- What a target's processing came to: a result, or a wait for a reply. -/
inductive Progressed where
  | result (r : Except String TargetOutcome)
  | waiting (work : Work)

def dispatchOutcome (id : CorrelationId) : DispatchOutcome → TargetOutcome
  | .completed r =>
    if r.isAccepted then ⟨.ok, some id.requestId⟩
    else ⟨.failed (r.exceptionMessage.getD ("device replied " ++ r.code.title)), some id.requestId⟩
  | .conversionFailed e => ⟨.failed e.message, some id.requestId⟩
  | .timedOut .. => ⟨.again, some id.requestId⟩

namespace Cluster

def statusOutcome (w : Cluster) (opId : Uuid) : OperationStatus → TargetOutcome
  | .completed => ⟨.ok, some opId⟩
  | .failed =>
    ⟨.failed (((w.operations.find opId).bind (·.message)).getD "device operation failed"),
      some opId⟩
  | _ => ⟨.again, some opId⟩

def participants (w : Cluster) (e : Execution) : List JobTarget :=
  (w.targets.list e.tenantId e.jobId).filter fun t => e.options.includes t.targetId

/-- Send a step's request to a target. -/
def sendFor (w : Cluster) (x : ExecTask) (step : StepDefinition) (t : JobTarget) :
    Progressed × Cluster :=
  let request := { step.template.build t.tenantId t.targetId w.nowMs with
    requester := "job:" ++ x.job.jobId ++ ":" ++ x.execution.executionId.text }
  match w.startSend request step.timeoutMs with
  | (.done (.ok (id, o)), w) => (.result (.ok (dispatchOutcome id o)), w)
  | (.done (.error (.communication id _)), w) => (.result (.ok ⟨.again, some id.requestId⟩), w)
  | (.done (.error e), w) => (.result (.error e.message), w)
  | (.waiting rw, w) => (.waiting (.sending t rw), w)

/-- Start processing a target at step `index`. -/
def startTarget (w : Cluster) (x : ExecTask) (index : Nat) (t : JobTarget) : Progressed × Cluster :=
  match x.job.steps[index]? with
  | none => (.result (.error "no such step"), w)
  | some step =>
    if step.processor == "scripted" then
      (.result ((scripted t.targetId step.name index).toResult t.targetId), w)
    else if t.progress.status != .processAgain then w.sendFor x step t
    else
      match t.operationId.bind w.operations.find with
      | none => w.sendFor x step t
      | some op =>
        if op.status.isFinal then (.result (.ok (w.statusOutcome op.operationId op.status)), w)
        else if !op.published then w.sendFor x step t
        else
          match w.startObserve op.correlationId step.timeoutMs with
          | (.done (.ok s), w) => (.result (.ok (w.statusOutcome op.operationId s)), w)
          | (.done (.error (.communication ..)), w) =>
            (.result (.ok (w.statusOutcome op.operationId .notified)), w)
          | (.done (.error e), w) => (.result (.error e.message), w)
          | (.waiting rw, w) => (.waiting (.observing t op.operationId rw), w)

/-- Go on with a work whose reply is in or whose deadline came. -/
def resumeWork (w : Cluster) : Work → JobTarget × Except String TargetOutcome × Cluster
  | .sending t rw =>
    match w.awaitSettlement rw with
    | (.ok o, w) => (t, .ok (dispatchOutcome rw.id o), w)
    | (.error e, w) => (t, .error e.message, w)
  | .observing t opId rw =>
    match w.finishObserve rw with
    | (.ok s, w) => (t, .ok (w.statusOutcome opId s), w)
    | (.error (.communication ..), w) => (t, .ok (w.statusOutcome opId .notified), w)
    | (.error e, w) => (t, .error e.message, w)

/-- Store a target's result at step `index`; answers whether it asks to come again. A target
changed meanwhile is left for a later pass. -/
def storeTarget (w : Cluster) (x : ExecTask) (index : Nat) (t : JobTarget)
    (r : Except String TargetOutcome) : Except StoreError (Bool × Cluster) :=
  let cfg := (w.coordinator x.coordinator).config
  let processed := driveTarget cfg.maxAgainPasses index x.job.stepCount t r
  match w.targets.update processed with
  | .ok (stored, s) => .ok (stored.progress.status == .processAgain, { w with targets := s })
  | .error e => if e.isConflict then .ok (false, w) else .error e

/-- Store the result of a target of the pass at step `i` and go on with the pass; a store that
fails marks the pass failed, and a pass that cannot be counted aborts the run. -/
def passStored (w : Cluster) (x : ExecTask) (i : Nat) (t : JobTarget)
    (r : Except String TargetOutcome) (queue : List JobTarget) (active : List Work) (again : Nat)
    (failed : Bool) : Option ExecTask × Cluster :=
  if countOverflows t r then (none, w)
  else
    match w.storeTarget x i t r with
    | .ok (more, w) =>
      (some { x with
        phase := .presenting i queue active (if more then again + 1 else again) failed }, w)
    | .error _ => (some { x with phase := .presenting i queue active again true }, w)

def width (w : Cluster) (x : ExecTask) : Nat :=
  max 1 (w.coordinator x.coordinator).config.maxConcurrentTargets

def resetTargets (w : Cluster) (e : Execution) (index : Nat) : Except StoreError Cluster :=
  (w.participants e).foldlM (fun w t =>
    (w.targets.update (t.reset index)).map fun (_, s) => { w with targets := s }) w

/-- The next step of an execution's run; `none` when the run is over. -/
def stepExecution (w : Cluster) (x : ExecTask) : Option ExecTask × Cluster :=
  let e := x.execution
  let count := x.job.stepCount
  let goTo := fun (p : Phase) (w : Cluster) => (some { x with phase := p }, w)
  match x.phase with
  | .begin =>
    let reset := if x.fresh && e.options.resetStepIndex then
        w.resetTargets e (e.options.fromStepIndex.getD 0)
      else .ok w
    match reset with
    | .error _ => goTo (.ending .stopped) w
    | .ok w =>
      match resumeStep ((w.participants e).map (·.progress)) count with
      | none => goTo (.ending .completed) w
      | some i => goTo (.stepTop i) w
  | .stepTop i =>
    if i ≥ count then goTo (.ending .completed) w
    else if w.cancelled x then goTo (.ending .stopped) w
    else
      match w.executions.find e.tenantId e.jobId e.executionId with
      | some current =>
        if current.status != .running then goTo (.ending .stopped) w
        else
          let pending := (w.participants e).filter (·.progress.isPendingFor i count)
          if pending.isEmpty then goTo (.stepTop (i + 1)) w
          else goTo (.presenting i pending [] 0 false) w
      | none => goTo (.ending .stopped) w
  | .presenting i queue active again failed =>
    match active.findIdx? (fun k => w.replyReady k.wait) with
    | some k =>
      match active[k]? with
      | none => goTo (.ending .stopped) w
      | some work =>
        let (t, r, w) := w.resumeWork work
        w.passStored x i t r queue (active.eraseIdx k) again failed
    | none =>
      match queue with
      | t :: rest =>
        if active.length ≥ w.width x then (some x, w)
        else if w.cancelled x then goTo (.presenting i rest active again failed) w
        else
          match w.startTarget x i t with
          | (.waiting work, w) => goTo (.presenting i rest (active ++ [work]) again failed) w
          | (.result r, w) => w.passStored x i t r rest active again failed
      | [] =>
        if !active.isEmpty then (some x, w)
        else if failed then goTo (.ending .stopped) w
        else if again > 0 then
          goTo (.pausing i (w.now + (w.coordinator x.coordinator).config.againDelayMs * 1000)) w
        else goTo (.stepTop i) w
  | .pausing i wakeAt =>
    if w.cancelled x || decide (wakeAt ≤ w.now) then goTo (.stepTop i) w else (some x, w)
  | .ending status =>
    let c := w.coordinator x.coordinator
    if c.shutdown then (none, w)
    else
      let node := c.config.nodeId
      let (_, w) := w.endExecution node e .running status
      let w := w.mapCoordinator x.coordinator fun c =>
        { c with running := c.running.filter (·.1 != e.executionId) }
      match w.executions.promoteNext e.tenantId e.jobId node w.nowMs with
      | (some next, s) => (none, { w with executions := s }.launch x.coordinator x.job next true)
      | (none, s) => (none, { w with executions := s })

/-- Whether a task can act now. -/
def taskReady (w : Cluster) : Task → Bool
  | .execution x =>
    match x.phase with
    | .presenting _ queue active _ _ =>
      active.any (fun k => w.replyReady k.wait) ||
        (!queue.isEmpty && active.length < w.width x) || (queue.isEmpty && active.isEmpty)
    | .pausing _ wakeAt => w.cancelled x || decide (wakeAt ≤ w.now)
    | _ => true
  | .delivery _ | .stopping .. => true
  | .sendCall _ rw | .observeCall _ rw => w.replyReady rw

/-- When a waiting task wakes by itself. -/
def taskWake? : Task → Option Int
  | .execution x =>
    match x.phase with
    | .presenting _ _ active _ _ => (active.map (·.wait.deadline)).min?
    | .pausing _ wakeAt => some wakeAt
    | _ => none
  | .sendCall _ rw | .observeCall _ rw => some rw.deadline
  | .delivery _ | .stopping .. => none

def replaceTask (w : Cluster) (n : Nat) (t : Task) : Cluster :=
  { w with tasks := w.tasks.map fun (m, u) => if m == n then (m, t) else (m, u) }

def removeTask (w : Cluster) (n : Nat) : Cluster :=
  { w with tasks := w.tasks.filter (·.1 != n) }

/-- Let one task act. -/
def act (w : Cluster) (n : Nat) : Task → Cluster
  | .execution x =>
    match w.stepExecution x with
    | (some x, w) => w.replaceTask n (.execution x)
    | (none, w) => w.removeTask n
  | .delivery e => (w.removeTask n).handleReply e
  | .sendCall call rw =>
    let (r, w) := (w.removeTask n).awaitSettlement rw
    { w with ended := w.ended ++ [(call, .sent (r.map fun o => (rw.id, o)))] }
  | .observeCall call rw =>
    let (r, w) := (w.removeTask n).finishObserve rw
    { w with ended := w.ended ++ [(call, .observed r)] }
  | .stopping i call r [] =>
    let (res, w) := (w.removeTask n).stopExecution i r
    { w with ended := w.ended ++ [(call, .stopped res)] }
  | .stopping i call r (q :: qs) =>
    match w.endExecution (w.coordinator i).config.nodeId q .queued .stopped with
    | (.ok (), w) => w.replaceTask n (.stopping i call r qs)
    | (.error e, w) => { w.removeTask n with ended := w.ended ++ [(call, .stopped (.error e))] }

def runNow : Nat → Cluster → Cluster
  | 0, w => w
  | fuel + 1, w =>
    match w.tasks.find? (fun (_, t) => w.taskReady t) with
    | none => w
    | some (n, t) => runNow fuel (w.act n t)

def nextWake (w : Cluster) : Option Int :=
  (w.tasks.filterMap fun (_, t) => taskWake? t).min?

def actFuel : Nat := 1000000

def wakeFuel : Nat := 1000000

/-- Run until `done` holds once the tasks due have acted; give up, with the clock at `limit`,
when no task wakes by then. Answers whether `done` held. -/
def runUntil (done : Cluster → Bool) (limit : Int) : Nat → Cluster → Bool × Cluster
  | 0, w => (done w, w)
  | fuel + 1, w =>
    let w := w.runNow actFuel
    if done w then (true, w)
    else
      match w.nextWake with
      | some t =>
        if t ≤ limit then runUntil done limit fuel { w with now := max w.now t }
        else (false, { w with now := max w.now limit })
      | none => (false, { w with now := max w.now limit })

def settled (w : Cluster) : Bool :=
  w.executions.executions.all (fun e => e.status != .running && e.status != .queued) &&
    w.coordinators.all fun c => c.shutdown || c.running.isEmpty

def settleWithin (w : Cluster) (limit : Nat) : Bool × Cluster :=
  runUntil settled (w.now + limit) wakeFuel w

/-- Run until at least `held` requests are held and nothing happens for `window`
microseconds, for at most `limit` microseconds. -/
def quiesce (held : Nat) (window limit : Int) : Nat → Cluster → Cluster
  | 0, w => w
  | fuel + 1, w =>
    let w := w.runNow actFuel
    let enough := decide (held ≤ w.fleet.heldCount)
    match w.nextWake with
    | some t =>
      if enough && t > w.now + window then { w with now := w.now + window }
      else if t > limit then { w with now := max w.now limit }
      else quiesce held window limit fuel { w with now := max w.now t }
    | none => if enough then { w with now := w.now + window } else { w with now := max w.now limit }

def runsFor (i : Nat) : Task → Bool
  | .execution x => x.coordinator == i
  | _ => false

/-- Shut the coordinator in charge down: its runs are asked to stop and waited for; the
executions they ran are left running. -/
def shutdown (w : Cluster) (limit : Nat) : Cluster :=
  let i := w.currentIndex
  let w := w.mapCoordinator i fun c => { c with shutdown := true, running := [] }
  (runUntil (fun w => !w.tasks.any (fun (_, t) => runsFor i t)) (w.now + limit) wakeFuel w).2

def restart (w : Cluster) (config : EngineConfig) : Cluster :=
  { w with coordinators := w.coordinators ++ [{ config }] }

/-- Send a request and wait for its end. -/
def callSend (w : Cluster) (request : CanonicalRequest) (timeoutMs : Option Nat) :
    Except DispatchError (CorrelationId × DispatchOutcome) × Cluster :=
  match w.startSend request timeoutMs with
  | (.done r, w) => (r, w)
  | (.waiting rw, w) =>
    let call := w.nextTask
    let w := w.spawn_ (.sendCall call rw)
    let (_, w) := runUntil (fun w => w.ended.any (·.1 == call)) rw.deadline wakeFuel w
    match w.ended.lookup call with
    | some (.sent r) => (r, { w with ended := w.ended.filter (·.1 != call) })
    | _ => (.ok (rw.id, .timedOut rw.id rw.timeoutMs), w)

/-- Observe a call again and wait for its end; a reply given is delivered once the wait is
registered. -/
def callObserve (w : Cluster) (id : CorrelationId) (timeoutMs : Option Nat)
    (reply : Option Envelope) : Except DispatchError OperationStatus × Cluster :=
  match w.startObserve id timeoutMs with
  | (.done r, w) => (r, w)
  | (.waiting rw, w) =>
    let call := w.nextTask
    let w := w.spawn_ (.observeCall call rw)
    let w := match reply with
      | some e => w.spawn_ (.delivery e)
      | none => w
    let (_, w) := runUntil (fun w => w.ended.any (·.1 == call)) rw.deadline wakeFuel w
    match w.ended.lookup call with
    | some (.observed r) => (r, { w with ended := w.ended.filter (·.1 != call) })
    | _ => (.ok .notified, w)

end Cluster

theorem runNow_zero (w : Cluster) : Cluster.runNow 0 w = w := rfl

end DeviceFleet.Engine
