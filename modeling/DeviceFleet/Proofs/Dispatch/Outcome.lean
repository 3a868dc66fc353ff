import DeviceFleet.Proofs.Dispatch.Settle

/-!
# A sent call's outcome and its operation

An operation is finished at most once, but the send's outcome agrees with it only under the
conditions of `send_outcome_matches_operation_iff`; a reply delivered twice with two results
breaks the agreement.
-/

namespace DeviceFleet.Engine

open Command Conversion

/-- What can happen around a call while its waiter is out: a device's reply, an observation
of an operation started again, a wait ending (the send's own or an observation's), or the
clock moving. -/
inductive CallEvent where
  | reply (e : Envelope)
  | observe (id : CorrelationId) (timeoutMs : Option Nat)
  | settle (rw : ReplyWait)
  | clock (now : Int)

namespace Cluster

def onEvent (w : Cluster) : CallEvent → Cluster
  | .reply e => w.handleReply e
  | .observe id t => (w.startObserve id t).2
  | .settle rw => (w.awaitSettlement rw).2
  | .clock now => { w with now }

def runEvents (w : Cluster) (evs : List CallEvent) : Cluster :=
  evs.foldl onEvent w

variable {w : Cluster} {u : Uuid} {op : Operation}

@[simp] theorem runEvents_cons (ev : CallEvent) (evs : List CallEvent) :
    w.runEvents (ev :: evs) = (w.onEvent ev).runEvents evs :=
  rfl

theorem operations_startObserve (id : CorrelationId) (t : Option Nat) :
    (w.startObserve id t).2.operations = w.operations := by
  unfold startObserve
  split
  · rfl
  · split
    · rfl
    · dsimp only
      split <;> rfl

theorem find_onEvent_of_final (hf : w.operations.find u = some op)
    (hfin : op.status.isFinal = true) (ev : CallEvent) :
    (w.onEvent ev).operations.find u = some op := by
  have hset : ∀ s m now, (w.operations.find u).map
      (Operation.written (·.finish s m now)) = some op := by
    intro s m now
    rw [hf, Option.map_some, Operation.written_finish_of_isFinal hfin]
  cases ev with
  | reply e =>
    rw [onEvent, find_handleReply]
    split
    · split
      · exact hset _ _ _
      · exact hf
    · exact hf
  | observe id t => rw [onEvent, operations_startObserve, hf]
  | settle rw =>
    rw [onEvent]
    cases hs : (w.received rw).settlement with
    | some sm =>
      rw [find_awaitSettlement_of_settlement hs]
      split
      · exact hset _ _ _
      · exact hf
    | none =>
      rw [find_awaitSettlement_of_timedOut (CallResult.settlement_eq_none.mp hs)]
      split
      · rw [hf, Option.map_some, Operation.written_of_unchanged
          (by rw [Operation.notifyTimeout_of_isFinal _ hfin])]
      · exact hf
  | clock now => exact hf

theorem find_runEvents_of_final (hf : w.operations.find u = some op)
    (hfin : op.status.isFinal = true) (evs : List CallEvent) :
    (w.runEvents evs).operations.find u = some op := by
  induction evs generalizing w with
  | nil => exact hf
  | cons ev evs ih => exact ih (find_onEvent_of_final hf hfin ev)

theorem status_awaitSettlement_iff {rw : ReplyWait} {o : DispatchOutcome}
    (hop : w.operations.find rw.id.requestId = some op) (h : (w.awaitSettlement rw).1 = .ok o)
    (hfo : (observedStatus o).isFinal = true) :
    ((w.awaitSettlement rw).2.operations.find rw.id.requestId).map (·.status) =
        some (observedStatus o) ↔
      op.status = observedStatus o ∨ (op.status.isFinal = false ∧ w.settlementOpen rw.id = true) := by
  obtain ⟨m, hs⟩ := settlement_of_awaitSettlement_ok h hfo
  rw [find_awaitSettlement_of_settlement hs, hop]
  by_cases ho : w.settlementOpen rw.id = true
  · cases hfin : op.status.isFinal with
    | true => simp [ho, Operation.written_finish_of_isFinal hfin]
    | false => simp [ho, Operation.written_finish_of_open hfin hfo]
  · simp [ho]

end Cluster

/-- Settling is once per operation, and a send's outcome agrees with its operation exactly
when nothing settled the operation otherwise first. For the operation of a call:

* once it is final, it is as it was after any run of replies, observations, waits and clock
  moves;
* when the call's wait ends with a reply or a conversion failure, the operation ends with the
  status that outcome reports exactly when it already had it, or was still open with its
  settlement unclaimed. -/
theorem send_outcome_matches_operation_iff (w : Cluster) (rw : ReplyWait) (op : Operation)
    (hop : w.operations.find rw.id.requestId = some op) :
    (op.status.isFinal = true →
      ∀ evs : List CallEvent, (w.runEvents evs).operations.find rw.id.requestId = some op) ∧
    ∀ o : DispatchOutcome, (w.awaitSettlement rw).1 = .ok o → (observedStatus o).isFinal = true →
      (((w.awaitSettlement rw).2.operations.find rw.id.requestId).map (·.status) =
          some (observedStatus o) ↔
        op.status = observedStatus o ∨
          (op.status.isFinal = false ∧ w.settlementOpen rw.id = true)) :=
  ⟨fun hfin evs => Cluster.find_runEvents_of_final hop hfin evs,
    fun _ h hfo => Cluster.status_awaitSettlement_iff hop h hfo⟩

/-! ### A reply delivered twice -/

def callId : CorrelationId := ⟨"1", "gw-1", ⟨0, 0⟩⟩

def sentOperation : Operation :=
  { operationId := callId.requestId, correlationId := callId, tenantId := "1",
    deviceId := "gw-1", appName := "BUN-V1", method := .read, resource := ["bundles"],
    startedOn := 0, published := true }

def sentCluster : Cluster :=
  { now := 0, ids := ⟨0⟩, jobCache := Cache.Lookup.empty 8, coordinators := [default],
    operations := ⟨[sentOperation]⟩,
    correlator := ⟨[⟨callId, "BUN-V1", 500000, 0⟩], [(⟨callId, 500000⟩, .awaiting)]⟩ }

def sentWait : ReplyWait := ⟨callId, 0, 500000, 500⟩

def strayReply : Envelope :=
  { channel := some
      { messageClass := MessageClass.response.code, tenantId := "1", clientId := "gw-1",
        appName := "NOT-IT", requestId := "00000000000000000000000000000000", resultCode := 200 } }

/-- The send's wait after the reply came twice: its operation is the one the second copy
completed, which no later wait or reply changes, and the failure the wait reports is not its
status. -/
theorem send_outcome_after_duplicate_reply :
    let w := (sentCluster.handleReply strayReply).handleReply strayReply
    let completed := { sentOperation with status := .completed, endedOn := some 0, version := 1 }
    w.operations.find sentWait.id.requestId = some completed ∧
      (w.runEvents [.settle sentWait, .reply strayReply]).operations.find sentWait.id.requestId =
        some completed ∧
      (((w.awaitSettlement sentWait).2.operations.find sentWait.id.requestId).map (·.status) =
          some .failed ↔
        completed.status = .failed ∨
          (completed.status.isFinal = false ∧ w.settlementOpen sentWait.id = true)) :=
  have h := send_outcome_matches_operation_iff _ sentWait
    { sentOperation with status := .completed, endedOn := some 0, version := 1 } rfl
  ⟨rfl, h.1 rfl _, h.2 (.conversionFailed (Correlator.channelMismatch "NOT-IT" "BUN-V1")) rfl rfl⟩

/-- A reply from the wrong application delivered twice: the send answers that the reply
failed on its channel, while its operation is stored completed. -/
theorem duplicate_reply_outcome_differs :
    let w := (sentCluster.handleReply strayReply).handleReply strayReply
    (w.awaitSettlement sentWait).1 = .ok (.conversionFailed (Correlator.channelMismatch "NOT-IT" "BUN-V1")) ∧
      ((w.awaitSettlement sentWait).2.operations.find sentWait.id.requestId).map (·.status) =
        some .completed :=
  ⟨rfl, rfl⟩

end DeviceFleet.Engine
