import DeviceFleet.Proofs.Operations.Lifecycle
import DeviceFleet.Proofs.Correlator.AtMostOnce

/-!
# A failed send leaves nothing behind

Each exit of a send undoes what was done before it (`startSend_exits`), so when a send returns
no pending call it registered is left (`send_leaves_nothing_dangling`).
-/

namespace DeviceFleet

open Command

/-! ### Waiting takes the waiter's own call out -/

namespace Command.Correlator

variable {c : Correlator} {R : List Removal}

theorem pending_perform_wait_subset (handle : Nat) (now : Int) {q : PendingCall}
    (hq : q ∈ (c.perform (.wait handle now)).pending) : q ∈ c.pending := by
  rcases perform_wait_cases (c := c) handle now with
    heq | ⟨k, s, -, -, -, heq⟩ | ⟨k, -, -, heq⟩ | ⟨k, -, p, -, -, heq⟩ <;>
    rw [heq] at hq
  · exact hq
  · simpa using hq
  · simpa using hq
  · simpa using (List.mem_filter.mp hq).1

theorem Inv.handle_not_pending_after_wait (hi : Inv c R) (handle : Nat) (now : Int) :
    ∀ q ∈ (c.perform (.wait handle now)).pending, q.handle ≠ handle := by
  intro q hq hqh
  have hq₀ := pending_perform_wait_subset handle now hq
  have hs : c.slots[handle]? = some (⟨q.id, q.deadline⟩, .awaiting) := hqh ▸ hi.pending_slot q hq₀
  rw [perform_wait_of_awaiting hs hq₀ rfl] at hq
  simp at hq

theorem pending_cancel_register {c c' : Correlator} {id : CorrelationId} {app : String}
    {timeout : Nat} {now : Int} {h : Nat} (hr : c.register id app timeout now = .ok (h, c')) :
    (c'.cancel id).2.pending = c.pending := by
  have hfree := isPending_eq_false.mp (register_eq_ok hr).1
  unfold register at hr
  rw [if_neg (by simp [isPending_eq_false.mpr hfree])] at hr
  cases hr
  -- the identifier had no pending call, so the cancel takes out the new one alone
  have hnone : c.pending.find? (·.id == id) = none :=
    List.find?_eq_none.mpr fun p hp => by simpa using hfree p hp
  have hkeep : c.pending.filter (·.id != id) = c.pending :=
    List.filter_eq_self.mpr fun p hp => by simpa using hfree p hp
  simp [cancel, take, List.find?_append, hnone, List.filter_append, hkeep]

theorem mem_pending_of_register {c c' : Correlator} {id : CorrelationId} {app : String}
    {timeout : Nat} {now : Int} {h : Nat} (hr : c.register id app timeout now = .ok (h, c')) :
    ∃ p ∈ c'.pending, p.id = id ∧ p.handle = h := by
  unfold register at hr
  split at hr
  · cases hr
  · cases hr
    exact ⟨_, List.mem_append_right _ (List.mem_singleton_self _), rfl, rfl⟩

theorem perform_cancel (c : Correlator) (id : CorrelationId) :
    c.perform (.cancel id) = (c.cancel id).2 :=
  rfl

theorem reach_register {c c' : Correlator} {R : List Removal} {id : CorrelationId} {app : String}
    {timeout : Nat} {now : Int} {h : Nat} (hc : Reach c R)
    (hr : c.register id app timeout now = .ok (h, c')) :
    Reach c' (R ++ c.removals (.register id app timeout now)) := by
  have hp : c.perform (.register id app timeout now) = c' := by simp [perform, hr]
  exact hp ▸ hc.step _

end Command.Correlator

/-! ### The dispatcher leaves the correlator to the waits -/

namespace Engine.Cluster

open Events

variable {w w' : Cluster}

theorem correlator_modifyOperation {u : Uuid} {change : Operation → Bool × Operation} {b : Bool}
    (h : w.modifyOperation u change = .ok (b, w')) : w'.correlator = w.correlator := by
  unfold modifyOperation at h
  cases hm : w.operations.modify u change with
  | error e => simp [hm, Except.map] at h
  | ok x =>
    simp only [hm, Except.map, Except.ok.injEq] at h
    rw [← (Prod.mk.inj h).2]

theorem correlator_recordOnce {α : Type} {node : String} {e : ServiceEvent}
    {effect : Cluster → Except Store.StoreError (α × Cluster)}
    (heff : ∀ w₁ v w₂, effect w₁ = .ok (v, w₂) → w₂.correlator = w₁.correlator) :
    (w.recordOnce node e effect).2.correlator = w.correlator := by
  unfold recordOnce
  split
  · dsimp only
    split
    · rename_i v w₂ hx
      have hc := heff _ v w₂ hx
      split
      · unfold heard
        split <;> exact hc
      · exact hc
    · rfl
  · rfl

theorem correlator_settle (id : CorrelationId) (s : OperationStatus) (m : Option String) :
    (w.settle id s m).2.correlator = w.correlator := by
  rw [settle_snd]
  refine correlator_recordOnce fun w₁ v w₂ h => ?_
  cases hm : w₁.modifyOperation id.requestId (fun op => op.finish s m w₁.nowMs) with
  | error e => simp [hm, Except.map] at h
  | ok x =>
    obtain ⟨b, w₃⟩ := x
    simp only [hm, Except.map, Except.ok.injEq, Prod.mk.injEq] at h
    rw [← h.2]
    exact correlator_modifyOperation hm

theorem correlator_of_settle_eq {id : CorrelationId} {s : OperationStatus} {m : Option String}
    {r : Except Store.StoreError Unit} (h : w.settle id s m = (r, w')) :
    w'.correlator = w.correlator := by
  have hs := correlator_settle (w := w) id s m
  rw [h] at hs
  exact hs

theorem correlator_markNotified {id : CorrelationId} {t : Nat}
    (h : w.markNotified id t = .ok w') : w'.correlator = w.correlator := by
  unfold markNotified at h
  cases hm : w.modifyOperation id.requestId (·.notifyTimeout (timeoutMessage id t)) with
  | error e => simp [hm, Except.map] at h
  | ok x =>
    simp only [hm, Except.map, Except.ok.injEq] at h
    rw [← h]
    exact correlator_modifyOperation hm

theorem correlator_awaitSettlement (rw : ReplyWait) :
    (w.awaitSettlement rw).2.correlator = w.correlator.perform (.wait rw.handle w.now) := by
  unfold awaitSettlement
  cases hwait : w.correlator.wait rw.handle w.now with
  | none =>
    have hp : w.correlator.perform (.wait rw.handle w.now) = w.correlator := by
      simp [Correlator.perform, hwait]
    rw [hp]
    simp only
    split
    · rename_i w₂ hm
      exact correlator_markNotified hm
    · rfl
  | some x =>
    obtain ⟨r, t, c⟩ := x
    have hp : w.correlator.perform (.wait rw.handle w.now) = c := by
      simp [Correlator.perform, hwait]
    rw [hp]
    simp only
    cases r with
    | completed resp =>
      simp only
      split <;> rename_i heq <;> exact correlator_of_settle_eq heq
    | conversionFailed err =>
      simp only
      split <;> rename_i heq <;> exact correlator_of_settle_eq heq
    | timedOut =>
      simp only
      split
      · rename_i w₂ hm
        exact correlator_markNotified hm
      · rfl

theorem awaitSettlement_ne_communication (rw : ReplyWait) (id : CorrelationId) (msg : String) :
    (w.awaitSettlement rw).1 ≠ .error (.communication id msg) := by
  unfold awaitSettlement
  cases hwait : w.correlator.wait rw.handle w.now with
  | none =>
    simp only
    split <;> simp
  | some x =>
    obtain ⟨r, t, c⟩ := x
    cases r <;> simp only <;> split <;> simp

theorem correlator_cancelCall (id : CorrelationId) :
    (w.cancelCall id).correlator = (w.correlator.cancel id).2 :=
  rfl

theorem correlator_spawn_deliveries (rs : List Envelope) (w : Cluster) :
    (rs.foldl (fun w r => w.spawn_ (.delivery r)) w).correlator = w.correlator := by
  induction rs generalizing w with
  | nil => rfl
  | cons r rs ih => exact ih (w.spawn_ (.delivery r))

end Engine.Cluster

/-! ### The exits of a send -/

namespace Engine.Cluster

open Conversion

def sendId (w : Cluster) (request : CanonicalRequest) : CorrelationId :=
  ⟨request.tenantId, request.deviceId, w.freshId.1⟩

def sendOperation (w : Cluster) (request : CanonicalRequest) : Operation :=
  Operation.start (w.sendId request) request w.nowMs

def sendTimeout (w : Cluster) (request : CanonicalRequest) (timeoutMs : Option Nat) : Nat :=
  timeoutMs.getD (w.dispatcherConfig.dispatcher.timeoutFor request.appName)

/-- The five ways a send ends or waits, each with what it did before: a request that cannot be
filed; one that cannot be converted, which is settled as failed; an identifier already
pending; a registered call cancelled because the request has no channel or its device cannot be
reached; and a wait on the handle of the call's own registration. `ids` is the identifier
source after the fresh identifier is drawn. -/
theorem startSend_exits (w : Cluster) (request : CanonicalRequest) (t : Option Nat) :
    ∃ ids : UuidSource,
    (∃ e, w.operations.create (w.sendOperation request) = .error e ∧
        w.startSend request t = (.done (.error (.store e)), { w with ids })) ∨
    (∃ ops err, w.operations.create (w.sendOperation request) = .ok ops ∧
        convertRequest ⟨w.sendId request, request⟩ = .error err ∧
        ((∃ e, (w.startSend request t).1 = .done (.error (.store e))) ∨
          (w.startSend request t).1 = .done (.ok (w.sendId request, .conversionFailed err))) ∧
        (w.startSend request t).2 = ({ w with ids, operations := ops }.settle
          (w.sendId request) .failed (some err.message)).2) ∨
    (∃ ops env, w.operations.create (w.sendOperation request) = .ok ops ∧
        convertRequest ⟨w.sendId request, request⟩ = .ok env ∧
        ∃ msg, w.startSend request t = (.done (.error (.communication (w.sendId request) msg)),
          { w with ids, operations := ops })) ∨
    (∃ ops env h c, w.operations.create (w.sendOperation request) = .ok ops ∧
        convertRequest ⟨w.sendId request, request⟩ = .ok env ∧
        w.correlator.register (w.sendId request) request.appName (w.sendTimeout request t * 1000)
          w.now = .ok (h, c) ∧
        ∃ msg, w.startSend request t = (.done (.error (.communication (w.sendId request) msg)),
          { w with ids, operations := ops, correlator := c }.cancelCall
            (w.sendId request))) ∨
    (∃ ops env h c rw, w.operations.create (w.sendOperation request) = .ok ops ∧
        convertRequest ⟨w.sendId request, request⟩ = .ok env ∧
        w.correlator.register (w.sendId request) request.appName (w.sendTimeout request t * 1000)
          w.now = .ok (h, c) ∧
        (w.startSend request t).1 = .waiting rw ∧ rw.id = w.sendId request ∧ rw.handle = h ∧
        (w.startSend request t).2.correlator = c) := by
  rcases hnext : w.ids.next with ⟨u, ids⟩
  have hfr : w.freshId = (u, { w with ids }) := by
    unfold freshId
    rw [hnext]
  refine ⟨ids, ?_⟩
  simp only [sendOperation, sendId, sendTimeout, hfr]
  unfold startSend
  simp only [hfr]
  split
  · rename_i e hc
    exact .inl ⟨e, hc, rfl⟩
  · rename_i ops hc
    refine .inr ?_
    split
    · rename_i err hconv
      refine .inl ⟨ops, err, hc, hconv, ?_, ?_⟩
      · split <;> simp
      · split <;> rename_i heq <;> rw [heq]
    · rename_i env hconv
      refine .inr ?_
      split
      · exact .inl ⟨ops, env, hc, hconv, _, rfl⟩
      · rename_i h c hreg
        refine .inr ?_
        split
        · exact .inl ⟨ops, env, h, c, hc, hconv, hreg, _, rfl⟩
        · split
          · exact .inl ⟨ops, env, h, c, hc, hconv, hreg, _, rfl⟩
          · rename_i replies f hp
            refine .inr ⟨ops, env, h, c, _, hc, hconv, hreg, rfl, rfl, rfl, ?_⟩
            have hsp := correlator_spawn_deliveries replies
              { w with ids, operations := ops, correlator := c, fleet := f }
            split
            · rename_i b w₃ hm
              exact (correlator_modifyOperation hm).trans hsp
            · exact hsp

end Engine.Cluster

/-! ### What each exit leaves -/

namespace Engine.Cluster

open Conversion

variable {w : Cluster} {request : CanonicalRequest} {t : Option Nat}

theorem find_sendOperation {ops : OperationStore}
    (hc : w.operations.create (w.sendOperation request) = .ok ops) :
    ops.find (w.sendId request).requestId = some (w.sendOperation request) :=
  OperationStore.find_create hc

theorem pending_of_startSend_done {r : Except DispatchError (CorrelationId × DispatchOutcome)}
    (h : (w.startSend request t).1 = .done r) :
    (w.startSend request t).2.correlator.pending = w.correlator.pending := by
  obtain ⟨ids, hx⟩ := startSend_exits w request t
  rcases hx with ⟨e, -, hs⟩ | ⟨ops, err, -, -, -, hs⟩ |
    ⟨ops, env, -, -, msg, hs⟩ | ⟨ops, env, hh, c, -, -, hreg, msg, hs⟩ |
    ⟨ops, env, hh, c, rw, -, -, -, hw, -⟩
  · simp only [hs]
  · simp only [hs, correlator_settle]
  · simp only [hs]
  · simp only [hs, correlator_cancelCall]
    exact Correlator.pending_cancel_register hreg
  · rw [hw] at h
    cases h

theorem reach_startSend {R : List Correlator.Removal} (hc : Correlator.Reach w.correlator R) :
    ∃ R', Correlator.Reach (w.startSend request t).2.correlator R' := by
  obtain ⟨ids, hx⟩ := startSend_exits w request t
  rcases hx with ⟨e, -, hs⟩ | ⟨ops, err, -, -, -, hs⟩ |
    ⟨ops, env, -, -, msg, hs⟩ | ⟨ops, env, hh, c, -, -, hreg, msg, hs⟩ |
    ⟨ops, env, hh, c, rw, -, -, hreg, -, -, -, hc'⟩
  · simp only [hs]
    exact ⟨R, hc⟩
  · simp only [hs, correlator_settle]
    exact ⟨R, hc⟩
  · simp only [hs]
    exact ⟨R, hc⟩
  · simp only [hs, correlator_cancelCall, ← Correlator.perform_cancel]
    exact ⟨_, (Correlator.reach_register hc hreg).step _⟩
  · simp only [hc']
    exact ⟨_, Correlator.reach_register hc hreg⟩

theorem startSend_waits_on_own_call {rw : ReplyWait} (h : (w.startSend request t).1 = .waiting rw) :
    rw.id = w.sendId request ∧
      ∃ p ∈ (w.startSend request t).2.correlator.pending, p.id = rw.id ∧ p.handle = rw.handle := by
  obtain ⟨ids, hx⟩ := startSend_exits w request t
  rcases hx with ⟨e, -, hs⟩ | ⟨ops, err, -, -, hr, -⟩ |
    ⟨ops, env, -, -, msg, hs⟩ | ⟨ops, env, hh, c, -, -, -, msg, hs⟩ |
    ⟨ops, env, hh, c, rw', -, -, hreg, hw, hid, hhandle, hc⟩
  · rw [hs] at h
    cases h
  · rcases hr with ⟨e, hr⟩ | hr <;> rw [hr] at h <;> cases h
  · rw [hs] at h
    cases h
  · rw [hs] at h
    cases h
  · rw [hw] at h
    cases h
    refine ⟨hid, ?_⟩
    rw [hc, hid, hhandle]
    exact Correlator.mem_pending_of_register hreg

theorem startSend_communication {id : CorrelationId} {msg : String}
    (h : (w.startSend request t).1 = .done (.error (.communication id msg))) :
    id = w.sendId request ∧
      (w.startSend request t).2.operations.find id.requestId = some (w.sendOperation request) ∧
      (w.startSend request t).2.events = w.events := by
  obtain ⟨ids, hx⟩ := startSend_exits w request t
  rcases hx with ⟨e, -, hs⟩ | ⟨ops, err, -, -, hr, -⟩ |
    ⟨ops, env, hc, -, msg', hs⟩ | ⟨ops, env, hh, c, hc, -, -, msg', hs⟩ |
    ⟨ops, env, hh, c, rw, -, -, -, hw, -⟩
  · rw [hs] at h
    cases h
  · rcases hr with ⟨e, hr⟩ | hr <;> rw [hr] at h <;> cases h
  · simp only [hs] at h ⊢
    cases h
    exact ⟨rfl, find_sendOperation hc, trivial⟩
  · simp only [hs, cancelCall] at h ⊢
    cases h
    exact ⟨rfl, find_sendOperation hc, trivial⟩
  · rw [hw] at h
    cases h

theorem startSend_of_create_error {e : Store.StoreError}
    (he : w.operations.create (w.sendOperation request) = .error e) :
    (w.startSend request t).1 = .done (.error (.store e)) ∧
      (w.startSend request t).2.correlator = w.correlator ∧
      (w.startSend request t).2.fleet = w.fleet ∧
      (w.startSend request t).2.operations = w.operations := by
  obtain ⟨ids, hx⟩ := startSend_exits w request t
  rcases hx with ⟨e', he', hs⟩ | ⟨ops, -, hc, -⟩ | ⟨ops, -, hc, -⟩ |
    ⟨ops, -, -, -, hc, -⟩ | ⟨ops, -, -, -, -, hc, -⟩
  · rw [he] at he'
    cases he'
    rw [hs]
    exact ⟨rfl, rfl, rfl, rfl⟩
  all_goals
    rw [he] at hc
    cases hc

theorem startSend_of_convert_error {ops : OperationStore} {err : ConversionError}
    (hc : w.operations.create (w.sendOperation request) = .ok ops)
    (hconv : convertRequest ⟨w.sendId request, request⟩ = .error err) :
    (w.startSend request t).2.correlator = w.correlator ∧
      (w.startSend request t).2.fleet = w.fleet ∧
      (w.settlementOpen (w.sendId request) = true →
        ∃ op, (w.startSend request t).2.operations.find (w.sendId request).requestId = some op ∧
          op.status = .failed) := by
  obtain ⟨ids, hx⟩ := startSend_exits w request t
  rcases hx with ⟨e, he, -⟩ | ⟨ops', err', hc', -, -, hs⟩ |
    ⟨-, env, -, hconv', -⟩ | ⟨-, env, -, -, -, hconv', -⟩ | ⟨-, env, -, -, -, -, hconv', -⟩
  · rw [hc] at he
    cases he
  · rw [hc] at hc'
    cases hc'
    rw [hs]
    refine ⟨correlator_settle .., (untouched_settle ..).fleet, fun hopen => ?_⟩
    rw [find_settle, if_pos ⟨hopen, rfl⟩]
    simp only [find_sendOperation hc, Option.map_some, Option.some.injEq, exists_eq_left']
    rw [Operation.written_finish_of_open rfl rfl]
  all_goals
    rw [hconv] at hconv'
    cases hconv'

/-- A send leaves nothing dangling. Its steps keep the correlator one reached by steps. When
it ends at once, the pending calls are as they were. When it waits, it waits on a call it
registered under its identifier, and ending that wait, whatever happened meanwhile, takes the
call out and never fails for want of the device. A communication failure leaves the send's
operation running, unpublished and unsettled; a request that cannot be filed registers and hands
over nothing and changes no operation; and one that cannot be converted registers and hands over
nothing and fails its operation, unless that operation's settlement was claimed already. -/
theorem send_leaves_nothing_dangling (w : Cluster) (request : CanonicalRequest) (t : Option Nat) :
    (∀ R, Correlator.Reach w.correlator R →
      ∃ R', Correlator.Reach (w.startSend request t).2.correlator R') ∧
    (∀ r, (w.startSend request t).1 = .done r →
      (w.startSend request t).2.correlator.pending = w.correlator.pending) ∧
    (∀ rw, (w.startSend request t).1 = .waiting rw →
      rw.id = w.sendId request ∧
      (∃ p ∈ (w.startSend request t).2.correlator.pending, p.id = rw.id ∧ p.handle = rw.handle) ∧
      ∀ (w₂ : Cluster) (R : List Correlator.Removal), Correlator.Reach w₂.correlator R →
        (∀ p ∈ (w₂.awaitSettlement rw).2.correlator.pending, p.handle ≠ rw.handle) ∧
        ∀ id msg, (w₂.awaitSettlement rw).1 ≠ .error (.communication id msg)) ∧
    (∀ id msg, (w.startSend request t).1 = .done (.error (.communication id msg)) →
      id = w.sendId request ∧
      (∃ op, (w.startSend request t).2.operations.find id.requestId = some op ∧
        op.status = .running ∧ op.published = false) ∧
      (w.startSend request t).2.events = w.events) ∧
    (∀ e, w.operations.create (w.sendOperation request) = .error e →
      (w.startSend request t).1 = .done (.error (.store e)) ∧
      (w.startSend request t).2.correlator = w.correlator ∧
      (w.startSend request t).2.fleet = w.fleet ∧
      (w.startSend request t).2.operations = w.operations) ∧
    (∀ ops err, w.operations.create (w.sendOperation request) = .ok ops →
      convertRequest ⟨w.sendId request, request⟩ = .error err →
      (w.startSend request t).2.correlator = w.correlator ∧
      (w.startSend request t).2.fleet = w.fleet ∧
      (w.settlementOpen (w.sendId request) = true →
        ∃ op, (w.startSend request t).2.operations.find (w.sendId request).requestId = some op ∧
          op.status = .failed)) := by
  refine ⟨fun R hc => reach_startSend hc, fun r h => pending_of_startSend_done h,
    fun rw h => ?_, fun id msg h => ?_, fun e he => startSend_of_create_error he,
    fun ops err hc hconv => startSend_of_convert_error hc hconv⟩
  · obtain ⟨hid, hown⟩ := startSend_waits_on_own_call h
    refine ⟨hid, hown, fun w₂ R hreach => ⟨?_, awaitSettlement_ne_communication rw⟩⟩
    rw [correlator_awaitSettlement]
    exact hreach.inv.handle_not_pending_after_wait rw.handle w₂.now
  · obtain ⟨rfl, hfind, hev⟩ := startSend_communication h
    exact ⟨rfl, ⟨_, hfind, rfl, rfl⟩, hev⟩

def offlineCluster : Cluster :=
  { now := 0, ids := ⟨0⟩, jobCache := Cache.Lookup.empty 8, coordinators := [default],
    fleet := { defaultMode := .unreachable } }

def bundlesRead : CanonicalRequest :=
  { tenantId := "1", deviceId := "gw-1", appName := "BUN-V1", method := .read,
    resourcePath := ["bundles"], capturedOn := 0 }

theorem unreachable_send_leaves_operation_running :
    ∃ msg, (offlineCluster.startSend bundlesRead none).1 =
        .done (.error (.communication (offlineCluster.sendId bundlesRead) msg)) ∧
      ∃ op, (offlineCluster.startSend bundlesRead none).2.operations.find
          (offlineCluster.sendId bundlesRead).requestId = some op ∧
        op.status = .running ∧ op.published = false := by
  obtain ⟨msg, hres⟩ : ∃ msg, (offlineCluster.startSend bundlesRead none).1 =
      .done (.error (.communication (offlineCluster.sendId bundlesRead) msg)) := by
    unfold sendId
    exact ⟨_, rfl⟩
  obtain ⟨-, hop, -⟩ := (send_leaves_nothing_dangling offlineCluster bundlesRead none).2.2.2.1 _ _ hres
  exact ⟨msg, hres, hop⟩

end Engine.Cluster

end DeviceFleet
