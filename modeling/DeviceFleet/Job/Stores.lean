import DeviceFleet.Job.Model
import DeviceFleet.Store.Error

/-!
# Job targets and executions in memory

Records are kept in creation order with versions a write must present; the execution store
also keeps at most one execution of a job running, queueing or refusing the others.
-/

namespace DeviceFleet.Job

open Store

/-- The targets of all jobs. -/
structure TargetStore where
  targets : List JobTarget := []
  deriving Inhabited

namespace TargetStore

def isTarget (tenantId jobId targetId : String) (t : JobTarget) : Bool :=
  t.tenantId == tenantId && t.jobId == jobId && t.targetId == targetId

def list (s : TargetStore) (tenantId jobId : String) : List JobTarget :=
  s.targets.filter fun t => t.tenantId == tenantId && t.jobId == jobId

/-- Add the targets a job does not have yet; answers how many were added. -/
def insertMissing (s : TargetStore) (ts : List JobTarget) : Nat × TargetStore :=
  ts.foldl (fun (n, s) t =>
    if s.targets.any (isTarget t.tenantId t.jobId t.targetId) then (n, s)
    else (n + 1, { targets := s.targets ++ [t] })) (0, s)

/-- Write a target read at its version; answers the target as stored. -/
def update (s : TargetStore) (t : JobTarget) : Except StoreError (JobTarget × TargetStore) :=
  let id := t.jobId ++ "/" ++ t.targetId
  match s.targets.find? (isTarget t.tenantId t.jobId t.targetId) with
  | none => .error (.notFound "job target" id)
  | some stored =>
    if stored.version ≠ t.version then .error (.conflict "job target" id t.version stored.version)
    else
      let t := { t with version := t.version + 1 }
      .ok (t, { targets := s.targets.map fun x =>
        if isTarget t.tenantId t.jobId t.targetId x then t else x })

/-- Remove the targets of a job; answers how many went. -/
def deleteAll (s : TargetStore) (tenantId jobId : String) : Nat × TargetStore :=
  ((s.list tenantId jobId).length,
    { targets := s.targets.filter fun t => !(t.tenantId == tenantId && t.jobId == jobId) })

end TargetStore

/-- What starting a job came to: a new running execution, a queued one, or the one already
running. -/
inductive BeginOutcome where
  | started (e : Execution)
  | queued (e : Execution)
  | alreadyRunning (e : Execution)

/-- What resuming an execution came to. -/
inductive ResumeOutcome where
  | resumed (e : Execution)
  | alreadyRunning (e : Execution)
  | busy (e : Execution)
  | notResumable (status : ExecutionStatus)
  | notFound

/-- The executions of all jobs. -/
structure ExecutionStore where
  executions : List Execution := []
  deriving Inhabited

namespace ExecutionStore

def ofJob (tenantId jobId : String) (e : Execution) : Bool :=
  e.tenantId == tenantId && e.jobId == jobId

def list (s : ExecutionStore) (tenantId jobId : String) : List Execution :=
  s.executions.filter (ofJob tenantId jobId)

def findRunning (s : ExecutionStore) (tenantId jobId : String) : Option Execution :=
  (s.list tenantId jobId).find? (·.status == .running)

def find (s : ExecutionStore) (tenantId jobId : String) (id : Uuid) : Option Execution :=
  (s.list tenantId jobId).find? (·.executionId == id)

def listRunningOwnedBy (s : ExecutionStore) (node : String) : List Execution :=
  s.executions.filter fun e => e.status == .running && e.ownerNode == node

def put (s : ExecutionStore) (e : Execution) : ExecutionStore :=
  { executions := s.executions.map fun x => if x.executionId == e.executionId then e else x }

/-- Start a job at `nowMs` under a fresh id: run it when none runs; otherwise queue it when the
options ask to, or answer the running one. -/
def tryBegin (s : ExecutionStore) (tenantId jobId : String) (options : StartOptions)
    (node : String) (id : Uuid) (nowMs : Int) : BeginOutcome × ExecutionStore :=
  match s.findRunning tenantId jobId with
  | some current =>
    if !options.enqueue then (.alreadyRunning current, s)
    else
      let e := Execution.create id tenantId jobId options node .queued nowMs
      (.queued e, { executions := s.executions ++ [e] })
  | none =>
    let e := Execution.create id tenantId jobId options node .running nowMs
    (.started e, { executions := s.executions ++ [e] })

/-- Run a stopped execution again on `node`. -/
def tryResume (s : ExecutionStore) (tenantId jobId : String) (id : Uuid) (node : String)
    (nowMs : Int) : ResumeOutcome × ExecutionStore :=
  match s.find tenantId jobId id with
  | none => (.notFound, s)
  | some e =>
    match s.findRunning tenantId jobId with
    | some current =>
      if current.executionId == id then (.alreadyRunning current, s) else (.busy current, s)
    | none =>
      if e.status != .stopped then (.notResumable e.status, s)
      else
        let e := { e with status := .running, ownerNode := node, startedOn := some nowMs,
                          endedOn := none, version := e.version + 1 }
        (.resumed e, s.put e)

def firstQueued (es : List Execution) : Option Execution :=
  es.foldl (fun best e =>
    if e.status != .queued then best
    else match best with
      | some b => if e.enqueuedOn < b.enqueuedOn then some e else some b
      | none => some e) none

/-- Run the next queued execution of a job on `node`, when none runs. -/
def promoteNext (s : ExecutionStore) (tenantId jobId : String) (node : String) (nowMs : Int) :
    Option Execution × ExecutionStore :=
  if (s.findRunning tenantId jobId).isSome then (none, s)
  else
    match firstQueued (s.list tenantId jobId) with
    | none => (none, s)
    | some e =>
      let e := { e with status := .running, ownerNode := node, startedOn := some nowMs,
                        version := e.version + 1 }
      (some e, s.put e)

/-- Write an execution read at its version; a write that would make a second execution of
the job run is a conflict. -/
def update (s : ExecutionStore) (e : Execution) : Except StoreError (Execution × ExecutionStore) :=
  let id := e.executionId.text
  let mine := s.list e.tenantId e.jobId
  if mine.isEmpty then .error (.notFound "job execution" id)
  else if e.status == .running &&
      mine.any (fun x => x.status == .running && x.executionId != e.executionId) then
    .error (.conflict "job execution" id e.version e.version)
  else
    match mine.find? (·.executionId == e.executionId) with
    | none => .error (.notFound "job execution" id)
    | some stored =>
      if stored.version ≠ e.version then
        .error (.conflict "job execution" id e.version stored.version)
      else
        let e := { e with version := e.version + 1 }
        .ok (e, s.put e)

/-- Remove the executions of a job; answers how many went. -/
def deleteAll (s : ExecutionStore) (tenantId jobId : String) : Nat × ExecutionStore :=
  ((s.list tenantId jobId).length,
    { executions := s.executions.filter fun e => !ofJob tenantId jobId e })

theorem tryBegin_started_runs (s : ExecutionStore) (tenantId jobId : String)
    (o : StartOptions) (node : String) (id : Uuid) (now : Int) (e : Execution)
    (s' : ExecutionStore) (h : s.tryBegin tenantId jobId o node id now = (.started e, s')) :
    e.status = .running := by
  unfold tryBegin at h
  split at h
  · split at h <;> simp at h
  · simp only [Prod.mk.injEq, BeginOutcome.started.injEq] at h
    rw [← h.1]
    rfl

end ExecutionStore

end DeviceFleet.Job
