import DeviceFleet.Proofs.Dispatch.Outcome
import DeviceFleet.Proofs.Correlator.AtMostOnce

/-!
# Replies that no call waits for

A reply changes only the operation filed under its request identifier, and the late path
settles like the in-time one except for the channel check it lacks.
-/

namespace DeviceFleet.Command.Correlator

open Conversion

variable {c : Correlator} {R : List Removal}

/-- In a reachable correlator, a reply to a pending call reaches that call's waiter: the wait
on its handle receives the reply's result for the application the call expects. -/
theorem Inv.received_after_resolve (hi : Inv c R) {p : PendingCall} (hp : p ∈ c.pending)
    {e : Envelope} (he : convertCorrelation e = .ok p.id) (stampMs now : Int) :
    (c.resolve stampMs e).1 = .delivered p.id ∧
      ((c.resolve stampMs e).2.wait p.handle now).map (·.1) =
        some (replyResult p.expectedApp stampMs e) := by
  -- the call taken out is `p` itself: identifiers of pending calls are distinct
  obtain ⟨q, c₁, ht⟩ : ∃ q c₁, c.take p.id = some (q, c₁) := by
    cases ht : c.take p.id with
    | none =>
      have := isPending_eq_false.mp (take_eq_none.mp ht) p hp
      exact absurd rfl this
    | some x => exact ⟨x.1, x.2, rfl⟩
  obtain ⟨hq, hqid, rfl⟩ := take_eq_some ht
  obtain rfl := hi.eq_of_id_eq hq hp hqid
  have hslot := hi.pending_slot q hp
  have hres : c.resolve stampMs e =
      (.delivered q.id, { c with pending := c.pending.filter (·.id != q.id) }.fill q.handle
        (.sent (replyResult q.expectedApp stampMs e))) := by
    simp [resolve, he, ht]
  refine ⟨by rw [hres], ?_⟩
  rw [hres]
  have hs : ({ c with pending := c.pending.filter (·.id != q.id) }.fill q.handle
      (.sent (replyResult q.expectedApp stampMs e))).slots[q.handle]? =
      some (⟨q.id, q.deadline⟩, .sent (replyResult q.expectedApp stampMs e)) :=
    getElem?_fill_self (c := { c with pending := c.pending.filter (·.id != q.id) }) _ _ hslot
  simp [wait, hs]

end DeviceFleet.Command.Correlator

namespace DeviceFleet.Engine

open Command Conversion

/-- The status and message a reply settles its operation with when the call's waiter
receives it in time: the reply's own settlement, a failure to convert it, or the failure of
its channel when it comes from another application than `app`. -/
def inTimeSettlement (app : String) (now : Int) (e : Envelope) : OperationStatus × Option String :=
  match convertResponse now e with
  | .ok r =>
    if r.appName != app then (.failed, some (Correlator.channelMismatch r.appName app).message)
    else settlementOf r
  | .error err => (.failed, some err.message)

theorem settlement_replyResult (app : String) (now : Int) (e : Envelope) :
    (Correlator.replyResult app now e).settlement = some (inTimeSettlement app now e) := by
  unfold Correlator.replyResult inTimeSettlement
  cases convertResponse now e with
  | ok r => by_cases h : r.appName = app <;> simp [h, CallResult.settlement]
  | error err => rfl

theorem inTimeSettlement_final (app : String) (now : Int) (e : Envelope) :
    (inTimeSettlement app now e).1.isFinal = true := by
  unfold inTimeSettlement
  cases convertResponse now e with
  | ok r =>
    by_cases h : r.appName = app
    · simp [h, settlementOf_final]
    · simp [h, OperationStatus.isFinal]
  | error err => rfl

theorem lateSettlement_final (now : Int) (e : Envelope) : (lateSettlement now e).1.isFinal = true := by
  unfold lateSettlement
  cases convertResponse now e with
  | ok r => exact settlementOf_final r
  | error err => rfl

theorem inTimeSettlement_eq_late_iff (app : String) (now : Int) (e : Envelope) :
    inTimeSettlement app now e = lateSettlement now e ↔
      ∀ r, convertResponse now e = .ok r → r.appName ≠ app →
        settlementOf r = (.failed, some (Correlator.channelMismatch r.appName app).message) := by
  unfold inTimeSettlement lateSettlement
  cases convertResponse now e with
  | ok r =>
    by_cases h : r.appName = app
    · simp [h]
    · simp only [bne_iff_ne, ne_eq, h, not_false_eq_true, if_true, Except.ok.injEq,
        forall_eq', forall_const]
      exact eq_comm
  | error err => simp

namespace Cluster

variable {w : Cluster}

theorem handleReply_of_pending {e : Envelope} {id : CorrelationId}
    (h : (w.correlator.resolve w.nowMs e).1 = .delivered id) :
    w.handleReply e = { w with correlator := (w.correlator.resolve w.nowMs e).2 } := by
  unfold handleReply
  rcases hr : w.correlator.resolve w.nowMs e with ⟨_ | _ | _, c⟩
  · rfl
  all_goals simp [hr] at h

end Cluster

/-- A reply changes no operation but the one filed under its request identifier, whatever
tenant and device that operation belongs to; and that one exactly when no call waits for the
reply, the operation is open, and its settlement can still be claimed. -/
theorem reply_changes_operation_iff (w : Cluster) (e : Envelope) (id : CorrelationId)
    (he : convertCorrelation e = .ok id) (u : Uuid) :
    (w.handleReply e).operations.find u ≠ w.operations.find u ↔
      u = id.requestId ∧ w.correlator.isPending id = false ∧ w.settlementOpen id = true ∧
        ∃ op, w.operations.find u = some op ∧ op.status.isFinal = false := by
  rw [Cluster.find_handleReply, Correlator.resolve_fst_eq, he]
  by_cases hp : w.correlator.isPending id = true
  · simp [hp]
  · have hp' : w.correlator.isPending id = false := by simpa using hp
    simp only [hp', Bool.false_eq_true, if_false]
    by_cases hc : w.settlementOpen id = true ∧ u = id.requestId
    · rw [if_pos hc]
      cases hf : w.operations.find u with
      | none => simp
      | some op =>
        cases hfin : op.status.isFinal with
        | true => simp [Operation.written_finish_of_isFinal hfin, hfin]
        | false =>
          -- the late settlement is final, so the open operation is written one version on
          refine ⟨fun _ => ⟨hc.2, trivial, hc.1, op, rfl, hfin⟩, fun _ h => ?_⟩
          have hv := congrArg (Option.map Operation.version) h
          rw [Option.map_some, Operation.written_finish_of_open hfin (lateSettlement_final _ _)] at hv
          simp at hv
    · rw [if_neg hc]
      simp only [ne_eq, not_true_eq_false, false_iff, not_and]
      intro hu _ ho
      exact absurd ⟨ho, hu⟩ hc

/-! ### A reply from another device -/

def otherDeviceOperation : Operation :=
  { sentOperation with correlationId := ⟨"1", "gw-2", callId.requestId⟩, deviceId := "gw-2" }

def otherDeviceCluster : Cluster :=
  { sentCluster with operations := ⟨[otherDeviceOperation]⟩, correlator := {} }

theorem reply_changes_operation_of_other_device :
    convertCorrelation strayReply = .ok callId ∧
      (otherDeviceCluster.handleReply strayReply).operations.find callId.requestId ≠
        otherDeviceCluster.operations.find callId.requestId :=
  ⟨rfl, (reply_changes_operation_iff _ _ _ rfl _).mpr ⟨rfl, rfl, rfl, _, rfl, rfl⟩⟩

/-- A reply from device `gw-1` completes the operation of device `gw-2` filed under the same
request identifier. -/
theorem reply_settles_other_device_operation :
    convertCorrelation strayReply = .ok callId ∧
      otherDeviceOperation.correlationId ≠ callId ∧
      otherDeviceCluster.operations.find callId.requestId = some otherDeviceOperation ∧
      ((otherDeviceCluster.handleReply strayReply).operations.find callId.requestId).map
        (·.status) = some .completed :=
  ⟨rfl, by decide, rfl, rfl⟩

/-! ### The two paths of a reply -/

namespace Cluster

variable {w : Cluster} {op : Operation} {e : Envelope}

theorem find_in_time {R : List Correlator.Removal} (hreach : Correlator.Reach w.correlator R)
    (hop : w.operations.find op.operationId = some op)
    (hid : op.correlationId.requestId = op.operationId)
    (hset : w.settlementOpen op.correlationId = true)
    {p : PendingCall} (hp : p ∈ w.correlator.pending) (hpid : p.id = op.correlationId)
    {rw : ReplyWait} (hrw : rw.id = op.correlationId) (hh : rw.handle = p.handle)
    (he : convertCorrelation e = .ok op.correlationId) :
    ((w.handleReply e).awaitSettlement rw).2.operations.find op.operationId =
      some (Operation.written
        (·.finish (inTimeSettlement p.expectedApp w.nowMs e).1
          (inTimeSettlement p.expectedApp w.nowMs e).2 w.nowMs) op) := by
  obtain ⟨hdel, hwait⟩ := hreach.inv.received_after_resolve hp (hpid ▸ he) w.nowMs w.now
  have hw : w.handleReply e = { w with correlator := (w.correlator.resolve w.nowMs e).2 } :=
    handleReply_of_pending hdel
  have hrec : (w.handleReply e).received rw = Correlator.replyResult p.expectedApp w.nowMs e := by
    obtain ⟨x, hx, hx1⟩ := Option.map_eq_some_iff.mp hwait
    rw [hw, received]
    simp only [hh, hx]
    exact hx1
  rw [find_awaitSettlement_of_settlement (by rw [hrec, settlement_replyResult]), hw]
  simp [hset, hrw, hid, hop]

theorem find_late (hop : w.operations.find op.operationId = some op)
    (hid : op.correlationId.requestId = op.operationId)
    (hset : w.settlementOpen op.correlationId = true)
    (hlate : w.correlator.isPending op.correlationId = false)
    (he : convertCorrelation e = .ok op.correlationId) :
    (w.handleReply e).operations.find op.operationId =
      some (Operation.written
        (·.finish (lateSettlement w.nowMs e).1 (lateSettlement w.nowMs e).2 w.nowMs) op) := by
  rw [find_handleReply, Correlator.resolve_fst_eq, he]
  simp [hlate, hset, hid, hop]

end Cluster

/-- A reply settles an open operation alike whether it comes in time or late, exactly when
the reply, if it converts to an answer from an application other than the operation's,
itself fails with the channel's message. In time, the reply to the operation's pending call
is received by the call's waiter; late, no call waits for it. -/
theorem late_reply_settles_like_in_time_iff (w : Cluster) (R : List Correlator.Removal)
    (hreach : Correlator.Reach w.correlator R) (op : Operation)
    (hop : w.operations.find op.operationId = some op)
    (hid : op.correlationId.requestId = op.operationId) (hopen : op.status.isFinal = false)
    (hset : w.settlementOpen op.correlationId = true)
    (p : PendingCall) (hp : p ∈ w.correlator.pending) (hpid : p.id = op.correlationId)
    (happ : p.expectedApp = op.appName)
    (rw : ReplyWait) (hrw : rw.id = op.correlationId) (hh : rw.handle = p.handle)
    (late : Correlator) (hlate : late.isPending op.correlationId = false)
    (e : Envelope) (he : convertCorrelation e = .ok op.correlationId) :
    (((w.handleReply e).awaitSettlement rw).2.operations.find op.operationId).map
        (fun (o : Operation) => (o.status, o.message)) =
      (({ w with correlator := late }.handleReply e).operations.find op.operationId).map
        (fun (o : Operation) => (o.status, o.message)) ↔
    ∀ r, convertResponse w.nowMs e = .ok r → r.appName ≠ op.appName →
      settlementOf r = (.failed, some (Correlator.channelMismatch r.appName op.appName).message) := by
  rw [Cluster.find_in_time hreach hop hid hset hp hpid hrw hh he,
    Cluster.find_late (w := { w with correlator := late }) hop hid hset hlate he,
    Operation.written_finish_of_open hopen (inTimeSettlement_final _ _ _),
    Operation.written_finish_of_open hopen (lateSettlement_final _ _), ← happ,
    ← inTimeSettlement_eq_late_iff]
  simp [Cluster.nowMs, Prod.ext_iff]

/-- The reply `strayReply` to the call of `sentCluster` settles its operation one way in time
and another late. -/
theorem stray_reply_paths_differ :
    (((sentCluster.handleReply strayReply).awaitSettlement sentWait).2.operations.find
        callId.requestId).map (fun (o : Operation) => (o.status, o.message)) ≠
      (({ sentCluster with correlator := {} }.handleReply strayReply).operations.find
        callId.requestId).map (fun (o : Operation) => (o.status, o.message)) := by
  intro h
  have hall := (late_reply_settles_like_in_time_iff sentCluster _
    (.step (.register callId "BUN-V1" 500000 0) .init) sentOperation rfl rfl rfl rfl _
    (List.mem_singleton_self _) rfl rfl sentWait rfl rfl {} rfl strayReply rfl).mp h
  exact absurd (hall _ rfl (by decide)) (by decide)

/-- A reply with result code 200 from application `NOT-IT` to a read expecting `BUN-V1`: in
time it fails the operation on its channel, late it completes it. -/
theorem stray_reply_settles_unlike_in_time :
    (((sentCluster.handleReply strayReply).awaitSettlement sentWait).2.operations.find
        callId.requestId).map (fun (o : Operation) => (o.status, o.message)) =
        some (.failed, some (Correlator.channelMismatch "NOT-IT" "BUN-V1").message) ∧
      (({ sentCluster with correlator := {} }.handleReply strayReply).operations.find
        callId.requestId).map (fun (o : Operation) => (o.status, o.message)) = some (.completed, none) :=
  ⟨rfl, rfl⟩

end DeviceFleet.Engine
