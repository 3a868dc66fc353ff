import DeviceFleet.Proofs.Dispatch.Outcome

/-!
# Spent operations, and what the dispatcher leaves alone

An operation is *spent* once it ended or reached its device. No part of the dispatcher makes a
spent operation unspent: settling ends an open operation and leaves an ended one alone,
marking notified changes only a running one, and marking published only publishes.
-/

namespace DeviceFleet.Command

namespace Operation

def spent (op : Operation) : Bool :=
  op.status.isFinal || op.published

def KeepsSpent (change : Operation → Bool × Operation) : Prop :=
  ∀ op, op.spent → (written change op).spent

variable {op : Operation}

theorem keepsSpent_finish (s : OperationStatus) (m : Option String) (now : Int) :
    KeepsSpent fun op => op.finish s m now := by
  intro op h
  unfold written finish
  by_cases hf : op.status.isFinal || !s.isFinal <;> simp_all [spent]

theorem keepsSpent_notifyTimeout (msg : String) : KeepsSpent fun op => op.notifyTimeout msg := by
  intro op h
  unfold written notifyTimeout
  by_cases hr : op.status = .running
  · have hp : op.published = true := by simpa [spent, hr, OperationStatus.isFinal] using h
    simp [hr, spent, hp]
  · simpa [hr] using h

theorem spent_written_markPublished (op : Operation) : (written markPublished op).spent := by
  unfold written markPublished
  by_cases hp : op.published <;> simp [hp, spent]

end Operation

namespace OperationStore

def SpentKept (st st' : OperationStore) : Prop :=
  ∀ u op, st.find u = some op → op.spent → ∃ op', st'.find u = some op' ∧ op'.spent

variable {st st' st'' : OperationStore}

theorem SpentKept.refl (st : OperationStore) : SpentKept st st :=
  fun _ op h hs => ⟨op, h, hs⟩

theorem SpentKept.trans (h₁ : SpentKept st st') (h₂ : SpentKept st' st'') : SpentKept st st'' := by
  intro u op hf hs
  obtain ⟨op', hf', hs'⟩ := h₁ u op hf hs
  exact h₂ u op' hf' hs'

theorem spentKept_of_find {change : Operation → Bool × Operation}
    (hk : Operation.KeepsSpent change) {c : Uuid → Prop} [DecidablePred c]
    (h : ∀ u, st'.find u = if c u then (st.find u).map (Operation.written change) else st.find u) :
    SpentKept st st' := by
  intro u op hf hs
  rw [h u, hf]
  by_cases hc : c u
  · exact ⟨_, by simp [hc], hk op hs⟩
  · exact ⟨op, by simp [hc], hs⟩

end OperationStore

end DeviceFleet.Command

namespace DeviceFleet.Engine

open Job Command Events

namespace Cluster

/-- What the dispatcher leaves alone: the job targets, the executions, the coordinators and the
devices. -/
structure Untouched (w w' : Cluster) : Prop where
  targets : w'.targets = w.targets
  executions : w'.executions = w.executions
  coordinators : w'.coordinators = w.coordinators
  fleet : w'.fleet = w.fleet

variable {w w' w'' : Cluster}

theorem Untouched.refl (w : Cluster) : Untouched w w :=
  ⟨rfl, rfl, rfl, rfl⟩

theorem Untouched.trans (h₁ : Untouched w w') (h₂ : Untouched w' w'') : Untouched w w'' :=
  ⟨h₂.targets.trans h₁.targets, h₂.executions.trans h₁.executions,
    h₂.coordinators.trans h₁.coordinators, h₂.fleet.trans h₁.fleet⟩

@[simp] theorem untouched_correlator (c : Correlator) : Untouched w { w with correlator := c } :=
  ⟨rfl, rfl, rfl, rfl⟩

theorem untouched_recordOnce {α : Type} {node : String} {e : ServiceEvent}
    {effect : Cluster → Except Store.StoreError (α × Cluster)}
    (heff : ∀ w₁ v w₂, effect w₁ = .ok (v, w₂) → Untouched w₁ w₂) :
    Untouched w (w.recordOnce node e effect).2 := by
  unfold recordOnce
  split
  · dsimp only
    split
    · rename_i v w₂ hx
      have hu := heff _ v w₂ hx
      split
      · refine ⟨?_, ?_, ?_, ?_⟩
        · unfold heard; split <;> exact hu.targets
        · unfold heard; split <;> exact hu.executions
        · unfold heard; split <;> exact hu.coordinators
        · unfold heard; split <;> exact hu.fleet
      · exact ⟨hu.targets, hu.executions, hu.coordinators, hu.fleet⟩
    · exact ⟨rfl, rfl, rfl, rfl⟩
  · exact ⟨rfl, rfl, rfl, rfl⟩

theorem untouched_modifyOperation {u : Uuid} {change : Operation → Bool × Operation} {b : Bool}
    (h : w.modifyOperation u change = .ok (b, w')) : Untouched w w' := by
  unfold modifyOperation at h
  cases hm : w.operations.modify u change with
  | error e => simp [hm, Except.map] at h
  | ok x =>
    simp only [hm, Except.map, Except.ok.injEq] at h
    rw [← (Prod.mk.inj h).2]
    exact ⟨rfl, rfl, rfl, rfl⟩

theorem untouched_settle (id : CorrelationId) (s : OperationStatus) (m : Option String) :
    Untouched w (w.settle id s m).2 := by
  rw [settle_snd]
  refine untouched_recordOnce fun w₁ v w₂ h => ?_
  cases hm : w₁.modifyOperation id.requestId (fun op => op.finish s m w₁.nowMs) with
  | error e => simp [hm, Except.map] at h
  | ok x =>
    obtain ⟨b, w₃⟩ := x
    simp only [hm, Except.map, Except.ok.injEq, Prod.mk.injEq] at h
    rw [← h.2]
    exact untouched_modifyOperation hm

theorem untouched_markNotified {id : CorrelationId} {t : Nat}
    (h : w.markNotified id t = .ok w') : Untouched w w' := by
  unfold markNotified at h
  cases hm : w.modifyOperation id.requestId (·.notifyTimeout (timeoutMessage id t)) with
  | error e => simp [hm, Except.map] at h
  | ok x =>
    simp only [hm, Except.map, Except.ok.injEq] at h
    rw [← h]
    exact untouched_modifyOperation hm

theorem untouched_handleReply (e : Envelope) : Untouched w (w.handleReply e) := by
  unfold handleReply
  split
  · rename_i id c _
    unfold reconcile
    split
    · exact untouched_correlator c
    · split
      · exact untouched_correlator c
      · split
        exact (untouched_correlator c).trans (untouched_settle _ _ _)
  · exact untouched_correlator _

theorem untouched_awaitSettlement (rw : ReplyWait) : Untouched w (w.awaitSettlement rw).2 := by
  unfold awaitSettlement
  cases hw : w.correlator.wait rw.handle w.now with
  | none =>
    simp only
    split
    · rename_i w₂ hm
      exact untouched_markNotified hm
    · exact .refl w
  | some x =>
    obtain ⟨r, t, c⟩ := x
    simp only
    cases r with
    | completed resp =>
      simp only
      split <;> rename_i heq <;>
        · have hs := untouched_settle (w := { w with correlator := c }) rw.id
            (settlementOf resp).1 (settlementOf resp).2
          rw [heq] at hs
          exact (untouched_correlator c).trans hs
    | conversionFailed err =>
      simp only
      split <;> rename_i heq <;>
        · have hs := untouched_settle (w := { w with correlator := c }) rw.id .failed
            (some err.message)
          rw [heq] at hs
          exact (untouched_correlator c).trans hs
    | timedOut =>
      simp only
      split
      · rename_i w₂ hm
        exact (untouched_correlator c).trans (untouched_markNotified hm)
      · exact untouched_correlator c

/-! ### Spent operations stay spent -/

open OperationStore

theorem spentKept_handleReply (e : Envelope) :
    SpentKept w.operations (w.handleReply e).operations := by
  have h := find_handleReply w e
  rcases hr : (w.correlator.resolve w.nowMs e).1 with _ | id | _
  · simp only [hr] at h
    exact spentKept_of_find (c := fun _ => False) (Operation.keepsSpent_finish .failed none 0)
      (by simpa using h)
  · simp only [hr] at h
    exact spentKept_of_find (Operation.keepsSpent_finish _ _ _) h
  · simp only [hr] at h
    exact spentKept_of_find (c := fun _ => False) (Operation.keepsSpent_finish .failed none 0)
      (by simpa using h)

theorem spentKept_awaitSettlement (rw : ReplyWait) :
    SpentKept w.operations (w.awaitSettlement rw).2.operations := by
  cases hs : (w.received rw).settlement with
  | some sm =>
    exact spentKept_of_find (Operation.keepsSpent_finish _ _ _)
      (find_awaitSettlement_of_settlement hs)
  | none =>
    exact spentKept_of_find (Operation.keepsSpent_notifyTimeout _)
      (find_awaitSettlement_of_timedOut (CallResult.settlement_eq_none.mp hs))

theorem finishObserve_eq (rw : ReplyWait) :
    w.finishObserve rw = ((w.awaitSettlement rw).1.map observedStatus, (w.awaitSettlement rw).2) := by
  unfold finishObserve
  rcases w.awaitSettlement rw with ⟨r, w'⟩
  rfl

theorem untouched_startObserve (id : CorrelationId) (tm : Option Nat) :
    Untouched w (w.startObserve id tm).2 := by
  unfold startObserve
  split
  · exact .refl w
  · split
    · exact .refl w
    · dsimp only
      split
      · exact .refl w
      · exact untouched_correlator _

theorem startObserve_of_find {id : CorrelationId} {op : Operation} (tm : Option Nat)
    (hf : w.operations.find id.requestId = some op) :
    (w.startObserve id tm).1 = .done (.ok op.status) ∨
      ∃ rw, rw.id = id ∧ (w.startObserve id tm).1 = .waiting rw := by
  unfold startObserve
  rw [hf]
  dsimp only
  split
  · exact .inl rfl
  · split
    · exact .inl rfl
    · exact .inr ⟨_, rfl, rfl⟩

end Cluster

theorem Fleet.published_of_publish {f f' : Fleet} {topic : Topic} {e : Envelope} {now : Int}
    {rs : List Envelope} (h : f.publish topic e now = .ok (rs, f')) :
    ∃ p, f'.published = f.published ++ [p] := by
  unfold Fleet.publish at h
  dsimp only at h
  split at h
  · cases h
  · split at h
    · cases h; exact ⟨_, rfl⟩
    · cases h; exact ⟨_, rfl⟩
    · split at h
      · cases h; exact ⟨_, rfl⟩
      · cases h; exact ⟨_, rfl⟩
    · cases h; exact ⟨_, rfl⟩

namespace Cluster

variable {w w' : Cluster}

theorem keeps_markPublished : Operation.Keeps Operation.markPublished where
  operationId op := by unfold Operation.markPublished; split <;> rfl
  version op := by unfold Operation.markPublished; split <;> rfl

theorem spawn_deliveries (rs : List Envelope) (w : Cluster) :
    (rs.foldl (fun w r => w.spawn_ (.delivery r)) w).targets = w.targets ∧
      (rs.foldl (fun w r => w.spawn_ (.delivery r)) w).fleet = w.fleet ∧
      (rs.foldl (fun w r => w.spawn_ (.delivery r)) w).operations = w.operations ∧
      (rs.foldl (fun w r => w.spawn_ (.delivery r)) w).executions = w.executions ∧
      (rs.foldl (fun w r => w.spawn_ (.delivery r)) w).coordinators = w.coordinators := by
  induction rs generalizing w with
  | nil => exact ⟨rfl, rfl, rfl, rfl, rfl⟩
  | cons r rs ih => exact ih (w.spawn_ (.delivery r))

theorem modify_of_modifyOperation {u : Uuid} {change : Operation → Bool × Operation} {b : Bool}
    (h : w.modifyOperation u change = .ok (b, w')) :
    w.operations.modify u change = .ok (b, w'.operations) := by
  unfold modifyOperation at h
  cases hm : w.operations.modify u change with
  | error e => simp [hm, Except.map] at h
  | ok x =>
    obtain ⟨b', st⟩ := x
    simp only [hm, Except.map, Except.ok.injEq, Prod.mk.injEq] at h
    obtain ⟨rfl, rfl⟩ := h
    rfl

theorem modifyOperation_ok_of_find {u : Uuid} {change : Operation → Bool × Operation}
    {op : Operation} (hk : Operation.Keeps change) (hf : w.operations.find u = some op) :
    ∃ b w', w.modifyOperation u change = .ok (b, w') := by
  unfold modifyOperation
  rw [OperationStore.modify_of_find hk hf]
  exact ⟨_, _, rfl⟩

/-- A step that handed one request to a device and waits on `rw` for its reply: one more
request is logged, the request's operation is spent, and the targets, executions and
coordinators are as they were. -/
structure SentOne (w w' : Cluster) (rw : ReplyWait) : Prop where
  targets : w'.targets = w.targets
  executions : w'.executions = w.executions
  coordinators : w'.coordinators = w.coordinators
  published : w'.fleet.published.length = w.fleet.published.length + 1
  spent : ∃ op, w'.operations.find rw.id.requestId = some op ∧ op.spent

/-- A send hands at most one request to a device: it ends at once having touched neither the
targets nor the devices, or it waits for the reply to the one request it handed over. -/
theorem startSend_cases (w : Cluster) (request : CanonicalRequest) (timeoutMs : Option Nat) :
    ((∃ r, (w.startSend request timeoutMs).1 = .done r) ∧
        Untouched w (w.startSend request timeoutMs).2) ∨
      ∃ rw, (w.startSend request timeoutMs).1 = .waiting rw ∧
        SentOne w (w.startSend request timeoutMs).2 rw := by
  rcases hfr : w.freshId with ⟨u, w₁⟩
  have hw₁ : w₁ = { w with ids := w₁.ids } := by
    rw [show w₁ = w.freshId.2 by rw [hfr]]
    rfl
  unfold startSend
  simp only [hfr]
  split
  · exact .inl ⟨⟨_, rfl⟩, by rw [hw₁]; exact ⟨rfl, rfl, rfl, rfl⟩⟩
  · rename_i ops hc
    have h₀ : Untouched w { w₁ with operations := ops } := by
      rw [hw₁]
      exact ⟨rfl, rfl, rfl, rfl⟩
    split
    · rename_i err _
      have hs := untouched_settle (w := { w₁ with operations := ops })
        ⟨request.tenantId, request.deviceId, u⟩ .failed (some err.message)
      refine .inl ⟨by split <;> exact ⟨_, rfl⟩, ?_⟩
      split <;> rename_i heq <;> rw [heq] at hs <;> exact h₀.trans hs
    · split
      · exact .inl ⟨⟨_, rfl⟩, h₀⟩
      · rename_i h c _
        split
        · exact .inl ⟨⟨_, rfl⟩, h₀.trans ⟨rfl, rfl, rfl, rfl⟩⟩
        · split
          · exact .inl ⟨⟨_, rfl⟩, h₀.trans ⟨rfl, rfl, rfl, rfl⟩⟩
          · rename_i replies f hp
            obtain ⟨p, hpub⟩ := Fleet.published_of_publish hp
            obtain ⟨op₀, hop₀⟩ := Option.isSome_iff_exists.mp (OperationStore.create_find _ _ _ hc)
            refine .inr ⟨_, rfl, ?_⟩
            have hsp := spawn_deliveries replies
              { w₁ with operations := ops, correlator := c, fleet := f }
            have hops : ops.find u = some op₀ := hop₀
            split
            · rename_i b w₃ hm
              have hu := untouched_modifyOperation hm
              have hmod := modify_of_modifyOperation hm
              rw [hsp.2.2.1] at hmod
              have hf := OperationStore.find_modify keeps_markPublished hmod u
              rw [if_pos rfl] at hf
              refine ⟨?_, ?_, ?_, ?_, _, hf.trans (by rw [hops]; rfl),
                Operation.spent_written_markPublished op₀⟩
              · show w₃.targets = _
                rw [hu.targets, hsp.1, hw₁]
              · show w₃.executions = _
                rw [hu.executions, hsp.2.2.2.1, hw₁]
              · show w₃.coordinators = _
                rw [hu.coordinators, hsp.2.2.2.2, hw₁]
              · show w₃.fleet.published.length = _
                rw [hu.fleet, hsp.2.1]
                simp only [hpub, List.length_append, List.length_singleton]
                rw [hw₁]
            · rename_i e hm
              obtain ⟨b, w₃, hm'⟩ := modifyOperation_ok_of_find keeps_markPublished
                ((congrArg (OperationStore.find · u) hsp.2.2.1).trans hops)
              rw [hm'] at hm
              cases hm

end Cluster

end DeviceFleet.Engine
