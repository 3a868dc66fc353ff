import DeviceFleet.Engine.Dispatch
import DeviceFleet.Proofs.Events.Steps

/-!
# How the dispatcher changes operations

One lemma per entry point of the dispatcher gives the operation read under any identifier
afterwards, from what a change of the operation store and a claim of a settlement do.
-/

namespace DeviceFleet.Command

namespace Operation

/-- A change that keeps what the store files an operation under and the version it checks
writes against, as every change the dispatcher makes does. -/
structure Keeps (change : Operation → Bool × Operation) : Prop where
  operationId : ∀ op, (change op).2.operationId = op.operationId
  version : ∀ op, (change op).2.version = op.version

def written (change : Operation → Bool × Operation) (op : Operation) : Operation :=
  if (change op).1 then { (change op).2 with version := op.version + 1 } else op

variable {op : Operation} {s : OperationStatus} {m : Option String} {now : Int}

theorem keeps_finish (s : OperationStatus) (m : Option String) (now : Int) :
    Keeps fun op => op.finish s m now where
  operationId op := by unfold finish; split <;> rfl
  version op := by unfold finish; split <;> rfl

theorem keeps_notifyTimeout (msg : String) : Keeps fun op => op.notifyTimeout msg where
  operationId op := by unfold notifyTimeout; split <;> rfl
  version op := by unfold notifyTimeout; split <;> rfl

theorem finish_of_isFinal (h : op.status.isFinal = true) : op.finish s m now = (false, op) := by
  simp [finish, h]

theorem notifyTimeout_of_isFinal (msg : String) (h : op.status.isFinal = true) :
    op.notifyTimeout msg = (false, op) := by
  have hr : op.status ≠ .running := fun hr => by rw [hr] at h; cases h
  simp [notifyTimeout, hr]

theorem written_of_unchanged {change : Operation → Bool × Operation} (h : (change op).1 = false) :
    written change op = op := by
  simp [written, h]

theorem written_finish_of_isFinal (h : op.status.isFinal = true) :
    written (·.finish s m now) op = op :=
  written_of_unchanged (by rw [finish_of_isFinal h])

theorem written_finish_of_open (hop : op.status.isFinal = false) (hs : s.isFinal = true) :
    written (·.finish s m now) op =
      { op with status := s, endedOn := some now, message := m, version := op.version + 1 } := by
  simp [written, finish, hop, hs]

end Operation

namespace OperationStore

variable {st st' : OperationStore} {change : Operation → Bool × Operation}

theorem find_eq_some {u : Uuid} {op : Operation} (h : st.find u = some op) :
    op ∈ st.operations ∧ op.operationId = u :=
  ⟨List.mem_of_find?_eq_some h, by simpa using List.find?_some h⟩

/-- Replacing every operation filed under `v` by `o`, itself filed under `v`, changes what is
read under `v` only. -/
theorem find_replace (st : OperationStore) {v : Uuid} {o : Operation} (ho : o.operationId = v)
    (u : Uuid) :
    ({ operations := st.operations.map fun x => if x.operationId == v then o else x } :
        OperationStore).find u =
      if u = v then (st.find v).map fun _ => o else st.find u := by
  unfold find
  rw [List.find?_map]
  by_cases hu : u = v
  · subst hu
    have hp : ((·.operationId == u) ∘ fun x => if x.operationId == u then o else x) =
        (·.operationId == u) := by
      funext x
      by_cases hx : x.operationId = u <;> simp [hx, ho]
    rw [hp, if_pos rfl]
    cases hf : st.operations.find? (·.operationId == u) with
    | none => rfl
    | some x => simp [show x.operationId = u by simpa using List.find?_some hf]
  · have hp : ((·.operationId == u) ∘ fun x => if x.operationId == v then o else x) =
        (·.operationId == u) := by
      funext x
      by_cases hx : x.operationId = v
      · simp [hx, ho]
      · simp [hx]
    rw [hp, if_neg hu]
    cases hf : st.operations.find? (·.operationId == u) with
    | none => rfl
    | some x =>
      have hx : x.operationId = u := by simpa using List.find?_some hf
      simp [hx, hu]

theorem modify_of_find (hk : Operation.Keeps change) {id : Uuid} {op : Operation}
    (hf : st.find id = some op) :
    st.modify id change = .ok ((change op).1,
      if (change op).1 then
        { operations := st.operations.map fun x =>
            if x.operationId == id then Operation.written change op else x }
      else st) := by
  obtain ⟨-, hid⟩ := find_eq_some hf
  unfold modify
  rw [hf]
  rcases hco : change op with ⟨_ | _, op'⟩
  · simp [hco]
  · have hw : op'.operationId = id := by simpa [hco, hid] using hk.operationId op
    have hv : op'.version = op.version := by simpa [hco] using hk.version op
    simp [hco, update, hw, hf, hv, Operation.written, Except.map]

theorem find_of_modify_error {id : Uuid} {e : Store.StoreError}
    (hk : Operation.Keeps change) (h : st.modify id change = .error e) : st.find id = none := by
  cases hf : st.find id with
  | none => rfl
  | some op =>
    rw [modify_of_find hk hf] at h
    cases h

theorem find_modify (hk : Operation.Keeps change) {id : Uuid} {b : Bool}
    (h : st.modify id change = .ok (b, st')) (u : Uuid) :
    st'.find u = if u = id then (st.find id).map (Operation.written change) else st.find u := by
  cases hf : st.find id with
  | none =>
    unfold modify at h
    rw [hf] at h
    cases h
  | some op =>
    rw [modify_of_find hk hf] at h
    obtain ⟨-, rfl⟩ := Prod.mk.inj (Except.ok.inj h)
    cases hc : (change op).1 with
    | false =>
      by_cases hu : u = id
      · subst hu
        simp [hf, Operation.written_of_unchanged hc]
      · simp [hu]
    | true =>
      have hwid : (Operation.written change op).operationId = id := by
        simp [Operation.written, hc, hk.operationId op, (find_eq_some hf).2]
      simp only [if_true]
      rw [find_replace st hwid u, hf]
      rfl

end OperationStore

end DeviceFleet.Command

namespace DeviceFleet.Command

def CallResult.settlement : CallResult → Option (OperationStatus × Option String)
  | .completed r => some (settlementOf r)
  | .conversionFailed err => some (.failed, some err.message)
  | .timedOut => none

theorem CallResult.settlement_eq_none {r : CallResult} : r.settlement = none ↔ r = .timedOut := by
  cases r <;> simp [CallResult.settlement]

end DeviceFleet.Command

namespace DeviceFleet.Engine

open Command Events

namespace Cluster

variable {w : Cluster}

@[simp] theorem operations_heard (e : ServiceEvent) : (w.heard e).operations = w.operations := by
  unfold heard
  split <;> rfl

/-- Recording an event runs its effect, on the cluster after the claim, exactly when the event
is claimable. The operations are then those the effect leaves, or those before when it
fails. -/
theorem operations_recordOnce {α : Type} (w : Cluster) (node : String) (e : ServiceEvent)
    (effect : Cluster → Except Store.StoreError (α × Cluster)) :
    ∃ w₁ : Cluster, w₁.operations = w.operations ∧ w₁.now = w.now ∧
      (w.recordOnce node e effect).2.operations =
        if w.events.claimable e.key (w.config.claimLeaseMs * 1000) w.now then
          match effect w₁ with
          | .ok (_, w') => w'.operations
          | .error _ => w.operations
        else w.operations := by
  rcases w.events.claim_cases e node (w.config.claimLeaseMs * 1000) w.now w.ids with
    ⟨hc, r, s', ids', hclaim⟩ | ⟨hc, o, ho, hclaim⟩
  · refine ⟨{ w with events := s', ids := ids' }, rfl, rfl, ?_⟩
    rw [if_pos hc]
    unfold recordOnce
    rw [hclaim]
    simp only
    cases heff : effect { w with events := s', ids := ids' } with
    | error err => rfl
    | ok x =>
      obtain ⟨v, w'⟩ := x
      simp only
      split <;> simp
  · refine ⟨w, rfl, rfl, ?_⟩
    rw [if_neg (by simp [hc])]
    unfold recordOnce
    rw [hclaim]
    rcases ho with rfl | rfl <;> rfl

def settlementOpen (w : Cluster) (id : CorrelationId) : Bool :=
  w.events.claimable (id.text, operationEventSource) (w.config.claimLeaseMs * 1000) w.now

@[simp] theorem settlementOpen_correlator (c : Correlator) (id : CorrelationId) :
    ({ w with correlator := c } : Cluster).settlementOpen id = w.settlementOpen id :=
  rfl

@[simp] theorem nowMs_correlator (c : Correlator) :
    ({ w with correlator := c } : Cluster).nowMs = w.nowMs :=
  rfl

@[simp] theorem settlementEvent_key (id : CorrelationId) (s : OperationStatus) :
    (settlementEvent id s).key = (id.text, operationEventSource) :=
  rfl

theorem settle_snd (w : Cluster) (id : CorrelationId) (s : OperationStatus) (m : Option String) :
    (w.settle id s m).2 = (w.recordOnce w.dispatcherConfig.nodeId (settlementEvent id s)
      fun w => (w.modifyOperation id.requestId fun op => op.finish s m w.nowMs).map
        fun (_, w) => ((), w)).2 := by
  unfold settle
  dsimp only
  split <;> rename_i heq <;> rw [heq]

/-- Settling changes only the operation under the correlation identifier's request
identifier, and that one only while the settlement can be claimed: it is then finished with
the settlement's status and message. -/
theorem find_settle (w : Cluster) (id : CorrelationId) (s : OperationStatus)
    (m : Option String) (u : Uuid) :
    (w.settle id s m).2.operations.find u =
      if w.settlementOpen id = true ∧ u = id.requestId then
        (w.operations.find u).map (Operation.written (·.finish s m w.nowMs))
      else w.operations.find u := by
  obtain ⟨w₁, hops, hnow, hrec⟩ := w.operations_recordOnce w.dispatcherConfig.nodeId
    (settlementEvent id s) fun w => (w.modifyOperation id.requestId fun op =>
      op.finish s m w.nowMs).map fun (_, w) => ((), w)
  have hms : w₁.nowMs = w.nowMs := by simp [nowMs, hnow]
  rw [settle_snd, hrec, settlementEvent_key]
  change (if w.settlementOpen id = true then _ else _ : OperationStore).find u = _
  by_cases ho : w.settlementOpen id = true
  · rw [if_pos ho]
    cases hm : w.operations.modify id.requestId (·.finish s m w.nowMs) with
    | error err =>
      simp only [modifyOperation, hops, hms, hm, Except.map]
      by_cases hu : u = id.requestId
      · subst hu
        simp [OperationStore.find_of_modify_error (Operation.keeps_finish _ _ _) hm]
      · simp [hu]
    | ok x =>
      obtain ⟨b, st'⟩ := x
      simp only [modifyOperation, hops, hms, hm, Except.map]
      simp only [OperationStore.find_modify (Operation.keeps_finish _ _ _) hm u, ho, true_and]
      by_cases hu : u = id.requestId <;> simp [hu]
  · rw [if_neg ho, if_neg (by simp [ho])]

theorem find_markNotified {id : CorrelationId} {t : Nat} {w' : Cluster}
    (h : w.markNotified id t = .ok w') (u : Uuid) :
    w'.operations.find u =
      if u = id.requestId then
        (w.operations.find u).map (Operation.written (·.notifyTimeout (timeoutMessage id t)))
      else w.operations.find u := by
  unfold markNotified modifyOperation at h
  cases hm : w.operations.modify id.requestId (·.notifyTimeout (timeoutMessage id t)) with
  | error err => simp [hm, Except.map] at h
  | ok x =>
    obtain ⟨b, st'⟩ := x
    simp only [hm, Except.map, Except.ok.injEq] at h
    subst h
    rw [OperationStore.find_modify (Operation.keeps_notifyTimeout _) hm u]
    by_cases hu : u = id.requestId
    · subst hu; simp
    · simp [hu]

theorem find_reconcile (w : Cluster) (id : CorrelationId) (e : Envelope) (u : Uuid) :
    (w.reconcile id e).operations.find u =
      if w.settlementOpen id = true ∧ u = id.requestId then
        (w.operations.find u).map (Operation.written
          (·.finish (lateSettlement w.nowMs e).1 (lateSettlement w.nowMs e).2 w.nowMs))
      else w.operations.find u := by
  unfold reconcile
  cases hf : w.operations.find id.requestId with
  | none =>
    simp only
    split
    · rename_i h
      rw [h.2, hf]
      rfl
    · rfl
  | some op =>
    simp only
    by_cases hfin : op.status.isFinal = true
    · rw [if_pos hfin]
      split
      · rename_i h
        rw [h.2, hf, Option.map_some, Operation.written_finish_of_isFinal hfin]
      · rfl
    · rw [if_neg hfin, find_settle]

theorem find_handleReply (w : Cluster) (e : Envelope) (u : Uuid) :
    (w.handleReply e).operations.find u =
      match (w.correlator.resolve w.nowMs e).1 with
      | .unmatched id =>
        if w.settlementOpen id = true ∧ u = id.requestId then
          (w.operations.find u).map (Operation.written
            (·.finish (lateSettlement w.nowMs e).1 (lateSettlement w.nowMs e).2 w.nowMs))
        else w.operations.find u
      | _ => w.operations.find u := by
  unfold handleReply
  rcases hr : w.correlator.resolve w.nowMs e with ⟨_ | id | _, c⟩
  · rfl
  · exact find_reconcile { w with correlator := c } id e u
  · rfl

def received (w : Cluster) (rw : ReplyWait) : CallResult :=
  match w.correlator.wait rw.handle w.now with
  | some (r, _, _) => r
  | none => .timedOut

variable {rw : ReplyWait}

/-- Ending a wait whose waiter received a reply or a failure settles the operation with what
it received. -/
theorem find_awaitSettlement_of_settlement {s : OperationStatus} {m : Option String}
    (h : (w.received rw).settlement = some (s, m)) (u : Uuid) :
    (w.awaitSettlement rw).2.operations.find u =
      if w.settlementOpen rw.id = true ∧ u = rw.id.requestId then
        (w.operations.find u).map (Operation.written (·.finish s m w.nowMs))
      else w.operations.find u := by
  unfold received at h
  unfold awaitSettlement
  cases hw : w.correlator.wait rw.handle w.now with
  | none => simp [hw, CallResult.settlement] at h
  | some x =>
    obtain ⟨r, t, c⟩ := x
    simp only [hw] at h ⊢
    cases r with
    | completed resp =>
      simp only [CallResult.settlement, Option.some.injEq] at h
      simp only [h]
      split <;> rename_i heq <;>
        rw [← show (({ w with correlator := c } : Cluster).settle rw.id s m).2 = _ from
          congrArg Prod.snd heq, find_settle] <;> rfl
    | conversionFailed err =>
      simp only [CallResult.settlement, Option.some.injEq, Prod.mk.injEq] at h
      obtain ⟨rfl, rfl⟩ := h
      simp only
      split <;> rename_i heq <;>
        rw [← show (({ w with correlator := c } : Cluster).settle rw.id .failed
          (some err.message)).2 = _ from congrArg Prod.snd heq, find_settle] <;> rfl
    | timedOut => simp [CallResult.settlement] at h

theorem find_awaitSettlement_of_timedOut (h : w.received rw = .timedOut) (u : Uuid) :
    (w.awaitSettlement rw).2.operations.find u =
      if u = rw.id.requestId then
        (w.operations.find u).map
          (Operation.written (·.notifyTimeout (timeoutMessage rw.id rw.timeoutMs)))
      else w.operations.find u := by
  obtain ⟨w', hops, hres⟩ : ∃ w' : Cluster, w'.operations = w.operations ∧
      (w.awaitSettlement rw).2 = ((w'.markNotified rw.id rw.timeoutMs).toOption.getD w') := by
    unfold received at h
    unfold awaitSettlement
    cases hw : w.correlator.wait rw.handle w.now with
    | none =>
      refine ⟨w, rfl, ?_⟩
      simp only
      cases w.markNotified rw.id rw.timeoutMs <;> rfl
    | some x =>
      obtain ⟨r, t, c⟩ := x
      simp only [hw] at h
      subst h
      refine ⟨{ w with correlator := c }, rfl, ?_⟩
      simp only
      cases ({ w with correlator := c } : Cluster).markNotified rw.id rw.timeoutMs <;> rfl
  rw [hres]
  cases hm : w'.markNotified rw.id rw.timeoutMs with
  | ok w'' =>
    change w''.operations.find u = _
    rw [find_markNotified hm, hops]
  | error err =>
    change w'.operations.find u = _
    rw [hops]
    by_cases hu : u = rw.id.requestId
    · subst hu
      have hnone : w.operations.find rw.id.requestId = none := by
        rw [← hops]
        unfold markNotified modifyOperation at hm
        cases hmod : w'.operations.modify rw.id.requestId
            (·.notifyTimeout (timeoutMessage rw.id rw.timeoutMs)) with
        | ok x => simp [hmod, Except.map] at hm
        | error e => exact OperationStore.find_of_modify_error (Operation.keeps_notifyTimeout _) hmod
      simp [hnone]
    · simp [hu]

theorem settlement_of_awaitSettlement_ok {o : DispatchOutcome}
    (h : (w.awaitSettlement rw).1 = .ok o) (hf : (observedStatus o).isFinal = true) :
    ∃ m, (w.received rw).settlement = some (observedStatus o, m) := by
  unfold received
  unfold awaitSettlement at h
  cases hw : w.correlator.wait rw.handle w.now with
  | none =>
    simp only [hw] at h
    split at h <;> simp at h
    subst h
    simp [observedStatus, OperationStatus.isFinal] at hf
  | some x =>
    obtain ⟨r, t, c⟩ := x
    simp only [hw] at h ⊢
    cases r with
    | completed resp =>
      simp only at h
      split at h <;> simp at h
      subst h
      refine ⟨(settlementOf resp).2, ?_⟩
      simp [CallResult.settlement, observedStatus, settlementOf]
      split <;> rfl
    | conversionFailed err =>
      simp only at h
      split at h <;> simp at h
      subst h
      exact ⟨some err.message, rfl⟩
    | timedOut =>
      simp only at h
      split at h <;> simp at h
      subst h
      simp [observedStatus, OperationStatus.isFinal] at hf

end Cluster

end DeviceFleet.Engine
