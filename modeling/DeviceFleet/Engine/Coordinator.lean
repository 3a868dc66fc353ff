import DeviceFleet.Engine.Dispatch

/-!
# The job coordinator

Defining, starting, stopping, resuming and cleaning jobs, and relaunching orphaned executions;
every change that must happen once across nodes is recorded as an event. A stop first looks
up what it stops and then ends it, write by write (`stopEnds`).
-/

namespace DeviceFleet.Engine

open Job Command Events Store

def knownProcessors : List String := ["device-command", "scripted"]

/-- Check a job definition. -/
def validate (j : Job) : Except JobError Unit := do
  if j.steps.isEmpty then throw (.invalidJob j.jobId "job has no steps")
  if j.targetIds.isEmpty then throw (.invalidJob j.jobId "job has no targets")
  if j.targetIds.eraseDups.length ≠ j.targetIds.length then
    throw (.invalidJob j.jobId "target ids must be unique")
  match j.steps.zipIdx.find? (fun (s, _) => !knownProcessors.contains s.processor) with
  | some (s, i) => throw (.unknownProcessor j.jobId i s.processor)
  | none => pure ()

/-- Check start options against a job. -/
def checkOptions (j : Job) (o : StartOptions) : Except JobError Unit := do
  match o.fromStepIndex with
  | some f =>
    if f ≥ j.stepCount then
      throw (.invalidStartOptions j.jobId ("fromStepIndex " ++ Text.natText f ++
        " is beyond the last step " ++ Text.natText (j.stepCount - 1)))
    if !o.resetStepIndex then
      throw (.invalidStartOptions j.jobId "fromStepIndex requires resetStepIndex")
  | none => pure ()
  match o.targetIdSublist.find? (fun t => !j.targetIds.contains t) with
  | some t => throw (.invalidStartOptions j.jobId ("target " ++ t ++ " is not part of the job"))
  | none => pure ()

namespace Cluster

def loadJob (w : Cluster) (tenantId jobId : String) : Except JobError Job × Cluster :=
  match w.findJob tenantId jobId with
  | (some j, w) => (.ok j, w)
  | (none, w) => (.error (.jobNotFound tenantId jobId), w)

def jobEvent (contextId tenantId entityType entityId : String) (action : EventAction)
    (payload : Option Json) : ServiceEvent :=
  { contextId, sourceService := jobEventSource, tenantId, entityType, entityId, action, payload }

/-- Define (or redefine) a job. -/
def defineJob (w : Cluster) (j : Job) : Except JobError Unit × Cluster :=
  match validate j with
  | .error e => (.error e, w)
  | .ok () =>
    let (u, w) := w.freshId
    let e := jobEvent u.text j.tenantId jobEntity j.jobId .updated none
    match w.recordOnce w.config.nodeId e (fun w => .ok ((), w.saveJob j)) with
    | (.ok _, w) => (.ok (), w)
    | (.error f, w) => (.error (.events (f.eventError e.contextId e.sourceService)), w)

def launch (w : Cluster) (coordinator : Nat) (j : Job) (e : Execution) (fresh : Bool) : Cluster :=
  let (task, w) := w.spawn (.execution { coordinator, job := j, execution := e, fresh })
  w.mapCoordinator coordinator fun c => { c with running := c.running ++ [(e.executionId, task)] }

def isLocal (w : Cluster) (id : Uuid) : Bool :=
  (w.current.running.lookup id).isSome

/-- End an execution that is in status `source` with status `target`, once per version. -/
def endExecution (w : Cluster) (node : String) (e : Execution) (source target : ExecutionStatus) :
    Except JobError Unit × Cluster :=
  let ev := jobEvent ("execution:" ++ e.executionId.text ++ ":v" ++ Text.natText e.version ++ ":end")
    e.tenantId "job-execution" e.executionId.text .updated
    (some (.obj [("jobId", .str e.jobId), ("status", .str target.name)]))
  let effect := fun (w : Cluster) =>
    match w.executions.find e.tenantId e.jobId e.executionId with
    | none => .ok ((), w)
    | some current =>
      if current.status != source then .ok ((), w)
      else
        (w.executions.update { current with status := target, endedOn := some w.nowMs }).map
          fun (_, s) => ((), { w with executions := s })
  match w.recordOnce node ev effect with
  | (.ok _, w) => (.ok (), w)
  | (.error f, w) => (.error (.events (f.eventError ev.contextId ev.sourceService)), w)

/-- Start a job with options. -/
def startJob (w : Cluster) (tenantId jobId : String) (o : StartOptions) :
    Except JobError Unit × Cluster :=
  match w.loadJob tenantId jobId with
  | (.error e, w) => (.error e, w)
  | (.ok j, w) =>
    match validate j >>= fun () => checkOptions j o with
    | .error e => (.error e, w)
    | .ok () =>
      let (_, ts) := w.targets.insertMissing (j.targetIds.map (JobTarget.fresh j))
      let w := { w with targets := ts }
      let (id, w) := w.freshId
      match w.executions.tryBegin tenantId jobId o w.config.nodeId id w.nowMs with
      | (.started e, s) => (.ok (), { w with executions := s }.launch w.currentIndex j e true)
      | (_, s) => (.ok (), { w with executions := s })

/-- Stop a running execution as coordinator `i`, and ask its task there to stop. -/
def stopExecution (w : Cluster) (i : Nat) (e : Execution) : Except JobError Unit × Cluster :=
  match w.endExecution (w.coordinator i).config.nodeId e .running .stopped with
  | (.error err, w) => (.error err, w)
  | (.ok (), w) =>
    match (w.coordinator i).running.lookup e.executionId with
    | none => (.ok (), w)
    | some task =>
      (.ok (), { w with tasks := w.tasks.map fun (n, t) =>
        if n == task then
          (n, match t with
            | .execution x => .execution { x with cancelled := true }
            | other => other)
        else (n, t) })

/-- End, as coordinator `i`, what a stop looked up: the queued executions one after the other,
then the running one. -/
def stopEnds (w : Cluster) (i : Nat) (running : Execution) :
    List Execution → Except JobError Unit × Cluster
  | [] => w.stopExecution i running
  | q :: qs =>
    match w.endExecution (w.coordinator i).config.nodeId q .queued .stopped with
    | (.ok (), w) => w.stopEnds i running qs
    | (.error e, w) => (.error e, w)

/-- What a stop of a job looks up: the job, its running execution and its queued ones. -/
def stopJobLookup (w : Cluster) (tenantId jobId : String) :
    Except JobError (Execution × List Execution) × Cluster :=
  match w.loadJob tenantId jobId with
  | (.error e, w) => (.error e, w)
  | (.ok _, w) =>
    match w.executions.findRunning tenantId jobId with
    | none => (.error (.jobNotRunning jobId), w)
    | some running =>
      (.ok (running, (w.executions.list tenantId jobId).filter (·.status == .queued)), w)

/-- Stop a job: its queued executions and its running one. -/
def stopJob (w : Cluster) (tenantId jobId : String) : Except JobError Unit × Cluster :=
  match w.stopJobLookup tenantId jobId with
  | (.error e, w) => (.error e, w)
  | (.ok (running, queued), w) => w.stopEnds w.currentIndex running queued

/-- What a stop of one execution looks up: the job, and the execution, which must run. -/
def stopExecutionLookup (w : Cluster) (tenantId jobId : String) (id : Uuid) :
    Except JobError Execution × Cluster :=
  match w.loadJob tenantId jobId with
  | (.error e, w) => (.error e, w)
  | (.ok _, w) =>
    match w.executions.find tenantId jobId id with
    | none => (.error (.executionNotFound jobId id), w)
    | some e => if e.status != .running then (.error (.jobNotRunning jobId), w) else (.ok e, w)

def stopJobExecution (w : Cluster) (tenantId jobId : String) (id : Uuid) :
    Except JobError Unit × Cluster :=
  match w.stopExecutionLookup tenantId jobId id with
  | (.error e, w) => (.error e, w)
  | (.ok e, w) => w.stopEnds w.currentIndex e []

/-- Resume a stopped execution. -/
def resumeJobExecution (w : Cluster) (tenantId jobId : String) (id : Uuid) :
    Except JobError Unit × Cluster :=
  match w.loadJob tenantId jobId with
  | (.error e, w) => (.error e, w)
  | (.ok j, w) =>
    match validate j with
    | .error e => (.error e, w)
    | .ok () =>
      if w.isLocal id then (.error (.jobRunning jobId), w)
      else
        match w.executions.tryResume tenantId jobId id w.config.nodeId w.nowMs with
        | (.resumed e, s) => (.ok (), { w with executions := s }.launch w.currentIndex j e false)
        | (.alreadyRunning _, s) => (.ok (), { w with executions := s })
        | (.busy _, _) => (.error (.jobRunning jobId), w)
        | (.notResumable st, _) => (.error (.executionNotResumable jobId id st), w)
        | (.notFound, _) => (.error (.executionNotFound jobId id), w)

def isRunning (w : Cluster) (tenantId jobId : String) : Bool :=
  (w.executions.findRunning tenantId jobId).isSome

/-- Remove a job's targets and executions, unless it runs. -/
def cleanJobData (w : Cluster) (tenantId jobId : String) : Except JobError Unit × Cluster :=
  match w.loadJob tenantId jobId with
  | (.error e, w) => (.error e, w)
  | (.ok _, w) =>
    if w.isRunning tenantId jobId then (.error (.jobRunning jobId), w)
    else
      let (u, w) := w.freshId
      let ev := jobEvent u.text tenantId jobEntity jobId .deleted
        (some (.obj [("scope", .str "data")]))
      let effect := fun (w : Cluster) =>
        let (_, ts) := w.targets.deleteAll tenantId jobId
        let (_, es) := w.executions.deleteAll tenantId jobId
        .ok ((), { w with targets := ts, executions := es })
      match w.recordOnce w.config.nodeId ev effect with
      | (.ok _, w) => (.ok (), w)
      | (.error f, w) => (.error (.events (f.eventError ev.contextId ev.sourceService)), w)

/-- Relaunch the running executions the node in charge owns and does not run; answers how
many were relaunched. -/
def resumeOrphans (w : Cluster) : Nat × Cluster :=
  (w.executions.listRunningOwnedBy w.config.nodeId).foldl (fun (n, w) e =>
    if w.isLocal e.executionId then (n, w)
    else
      match w.loadJob e.tenantId e.jobId with
      | (.ok j, w) => (n + 1, w.launch w.currentIndex j e false)
      | (.error _, w) => (n, w)) (0, w)

end Cluster

theorem validate_steps (j : Job) (h : validate j = .ok ()) : j.steps ≠ [] := by
  intro hs
  simp [validate, hs] at h
  cases h

end DeviceFleet.Engine
