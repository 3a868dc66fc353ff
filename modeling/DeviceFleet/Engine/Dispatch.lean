import DeviceFleet.Engine.Cluster
import DeviceFleet.Conversion.Request
import DeviceFleet.Conversion.Response

/-!
# Sending requests to devices

A send records a running operation, registers the call and hands the request to its device;
the wait's end settles the operation once, recorded as an event keyed by the correlation
identifier, and a reply no call waits for is reconciled with its operation.
-/

namespace DeviceFleet.Engine

open Job Command Events Store Conversion

/-- Where a send or observation stands after its first part: ended, or waiting. -/
inductive Started (α : Type) where
  | done (result : Except DispatchError α)
  | waiting (wait : ReplyWait)

def settlementEvent (id : CorrelationId) (status : OperationStatus) : ServiceEvent :=
  { contextId := id.text, sourceService := operationEventSource, tenantId := id.tenantId,
    entityType := operationEventSource, entityId := id.requestId.text, action := .updated,
    payload := some (.obj [("status", .str status.name)]) }

/-- The status and message a reply that no call waits for settles its operation with, at the
current instant `now`: as an answer when it can be converted, as a failure otherwise. -/
def lateSettlement (now : Int) (e : Envelope) : OperationStatus × Option String :=
  match convertResponse now e with
  | .ok r => settlementOf r
  | .error err => (.failed, some err.message)

namespace Cluster

/-- Settle an operation with a final status, once. -/
def settle (w : Cluster) (id : CorrelationId) (status : OperationStatus) (message : Option String) :
    Except StoreError Unit × Cluster :=
  let e := settlementEvent id status
  let effect := fun (w : Cluster) =>
    (w.modifyOperation id.requestId fun op => op.finish status message w.nowMs).map
      fun (_, w) => ((), w)
  match w.recordOnce w.dispatcherConfig.nodeId e effect with
  | (.ok _, w) => (.ok (), w)
  | (.error f, w) => (.error f.storeError, w)

def markNotified (w : Cluster) (id : CorrelationId) (timeoutMs : Nat) : Except StoreError Cluster :=
  (w.modifyOperation id.requestId fun op => op.notifyTimeout (timeoutMessage id timeoutMs)).map
    (·.2)

def cancelCall (w : Cluster) (id : CorrelationId) : Cluster :=
  { w with correlator := (w.correlator.cancel id).2 }

/-- Send a request, with a timeout in milliseconds if one is given. -/
def startSend (w : Cluster) (request : CanonicalRequest) (timeoutMs : Option Nat) :
    Started (CorrelationId × DispatchOutcome) × Cluster :=
  let timeout := timeoutMs.getD (w.dispatcherConfig.dispatcher.timeoutFor request.appName)
  let (u, w) := w.freshId
  let id : CorrelationId := ⟨request.tenantId, request.deviceId, u⟩
  match w.operations.create (Operation.start id request w.nowMs) with
  | .error e => (.done (.error (.store e)), w)
  | .ok ops =>
    let w := { w with operations := ops }
    match convertRequest ⟨id, request⟩ with
    | .error err =>
      match w.settle id .failed (some err.message) with
      | (.error e, w) => (.done (.error (.store e)), w)
      | (.ok (), w) => (.done (.ok (id, .conversionFailed err)), w)
    | .ok env =>
      match w.correlator.register id request.appName (timeout * 1000) w.now with
      | .error e => (.done (.error (.communication id e.message)), w)
      | .ok (h, c) =>
        let w := { w with correlator := c }
        match env.channel with
        | none =>
          (.done (.error (.communication id "translated request has no channel")), w.cancelCall id)
        | some ch =>
          match w.fleet.publish (Topic.request ch) env w.nowMs with
          | .error reason => (.done (.error (.communication id reason)), w.cancelCall id)
          | .ok (replies, f) =>
            let w := replies.foldl (fun w r => w.spawn_ (.delivery r)) { w with fleet := f }
            let w := match w.modifyOperation u Operation.markPublished with
              | .ok (_, w) => w
              | .error _ => w
            (.waiting ⟨id, h, w.now + timeout * 1000, timeout⟩, w)

/-- End a wait whose reply is in or whose deadline has come, settling the operation. -/
def awaitSettlement (w : Cluster) (rw : ReplyWait) : Except DispatchError DispatchOutcome × Cluster :=
  let (result, w) := match w.correlator.wait rw.handle w.now with
    | some (r, _, c) => (r, { w with correlator := c })
    | none => (.timedOut, w)
  match result with
  | .completed resp =>
    let (s, m) := settlementOf resp
    match w.settle rw.id s m with
    | (.ok (), w) => (.ok (.completed resp), w)
    | (.error e, w) => (.error (.store e), w)
  | .conversionFailed err =>
    match w.settle rw.id .failed (some err.message) with
    | (.ok (), w) => (.ok (.conversionFailed err), w)
    | (.error e, w) => (.error (.store e), w)
  | .timedOut =>
    match w.markNotified rw.id rw.timeoutMs with
    | .ok w => (.ok (.timedOut rw.id rw.timeoutMs), w)
    | .error e => (.error (.store e), w)

/-- Observe a call again, with a timeout in milliseconds if one is given. -/
def startObserve (w : Cluster) (id : CorrelationId) (timeoutMs : Option Nat) :
    Started OperationStatus × Cluster :=
  match w.operations.find id.requestId with
  | none => (.done (.error (.unknownOperation id)), w)
  | some op =>
    if op.status.isFinal || !op.published then (.done (.ok op.status), w)
    else
      let timeout := timeoutMs.getD (w.dispatcherConfig.dispatcher.timeoutFor op.appName)
      match w.correlator.register id op.appName (timeout * 1000) w.now with
      | .error _ => (.done (.ok op.status), w)
      | .ok (h, c) => (.waiting ⟨id, h, w.now + timeout * 1000, timeout⟩, { w with correlator := c })

/-- End an observation's wait: the status the operation ends in. -/
def finishObserve (w : Cluster) (rw : ReplyWait) : Except DispatchError OperationStatus × Cluster :=
  let (r, w) := w.awaitSettlement rw
  (r.map observedStatus, w)

/-- Reconcile a reply no call waits for with its operation. -/
def reconcile (w : Cluster) (id : CorrelationId) (e : Envelope) : Cluster :=
  match w.operations.find id.requestId with
  | none => w
  | some op =>
    if op.status.isFinal then w
    else
      let (s, m) := lateSettlement w.nowMs e
      (w.settle id s m).2

/-- Take a device's reply: hand it to the call waiting for it, or reconcile it. -/
def handleReply (w : Cluster) (e : Envelope) : Cluster :=
  match w.correlator.resolve w.nowMs e with
  | (.unmatched id, c) => { w with correlator := c }.reconcile id e
  | (_, c) => { w with correlator := c }

end Cluster

end DeviceFleet.Engine
