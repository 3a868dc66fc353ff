import DeviceFleet.Engine.Run
import DeviceFleet.Proofs.Dispatch.Spent
import DeviceFleet.Proofs.Jobs.Targets

/-!
# A step's device command, sent once per target

A spent operation is never sent again, so along a target's presentations at most one request
reaches a device for a step (`History.sealed`).
-/

namespace DeviceFleet.Engine

open Job Command Events

def Work.target : Work → JobTarget
  | .sending t _ => t
  | .observing t _ _ => t

def Work.operation : Work → Uuid
  | .sending _ rw => rw.id.requestId
  | .observing _ P _ => P

theorem operationId_dispatchOutcome (id : CorrelationId) (o : DispatchOutcome) :
    (dispatchOutcome id o).operationId = some id.requestId := by
  cases o
  case completed r =>
    simp only [dispatchOutcome]
    split <;> rfl
  all_goals rfl

def Progressed.Names (t : JobTarget) (Q : Uuid) : Progressed → Prop
  | .result r => ∀ o, r = .ok o → (absorbResult t r).1.operationId = some Q
  | .waiting k => k.target = t ∧ k.operation = Q

namespace Cluster

variable {w w' w'' : Cluster}

theorem sendFor_cases (w : Cluster) (x : ExecTask) (step : StepDefinition) (t : JobTarget) :
    Untouched w (w.sendFor x step t).2 ∨
      ∃ rw, (w.sendFor x step t).1 = .waiting (.sending t rw) ∧ SentOne w (w.sendFor x step t).2 rw := by
  unfold sendFor
  have h := startSend_cases w
    { step.template.build t.tenantId t.targetId w.nowMs with
      requester := "job:" ++ x.job.jobId ++ ":" ++ x.execution.executionId.text } step.timeoutMs
  dsimp only at h ⊢
  split <;> rename_i heq <;> rw [heq] at h
  iterate 3
    · rcases h with ⟨-, hu⟩ | ⟨_, hrw, -⟩
      · exact .inl hu
      · cases hrw
  · rcases h with ⟨⟨_, hr⟩, -⟩ | ⟨rw, hrw, hs⟩
    · cases hr
    · cases hrw
      exact .inr ⟨_, rfl, hs⟩

theorem startTarget_cases (w : Cluster) (x : ExecTask) (j : Nat) (t : JobTarget) :
    Untouched w (w.startTarget x j t).2 ∨
      ∃ rw, (w.startTarget x j t).1 = .waiting (.sending t rw) ∧
        SentOne w (w.startTarget x j t).2 rw := by
  unfold startTarget
  split
  · exact .inl (.refl w)
  · rename_i step _
    split
    · exact .inl (.refl w)
    · split
      · exact sendFor_cases w x step t
      · split
        · exact sendFor_cases w x step t
        · rename_i op _
          split
          · exact .inl (.refl w)
          · split
            · exact sendFor_cases w x step t
            · left
              have hu := untouched_startObserve (w := w) op.correlationId step.timeoutMs
              split <;> rename_i heq <;> rw [heq] at hu <;> exact hu

theorem operationId_statusOutcome (w : Cluster) (P : Uuid) (s : OperationStatus) :
    (w.statusOutcome P s).operationId = some P := by
  cases s <;> rfl

theorem resumeWork_target (k : Work) : (w.resumeWork k).1 = k.target := by
  cases k <;> simp only [resumeWork] <;> split <;> rfl

theorem untouched_resumeWork (k : Work) : Untouched w (w.resumeWork k).2.2 := by
  have hu := untouched_awaitSettlement (w := w) k.wait
  cases k with
  | sending t rw =>
    simp only [resumeWork]
    split <;> rename_i heq <;> rw [Work.wait, heq] at hu <;> exact hu
  | observing t P rw =>
    simp only [resumeWork]
    split <;> rename_i heq <;> rw [finishObserve_eq] at heq <;>
      rw [Work.wait, (Prod.mk.inj heq).2] at hu <;> exact hu

theorem spentKept_resumeWork (k : Work) :
    OperationStore.SpentKept w.operations (w.resumeWork k).2.2.operations := by
  have hs := spentKept_awaitSettlement (w := w) k.wait
  cases k with
  | sending t rw =>
    simp only [resumeWork]
    split <;> rename_i heq <;> rw [Work.wait, heq] at hs <;> exact hs
  | observing t P rw =>
    simp only [resumeWork]
    split <;> rename_i heq <;> rw [finishObserve_eq] at heq <;>
      rw [Work.wait, (Prod.mk.inj heq).2] at hs <;> exact hs

theorem resumeWork_names (k : Work) {o : TargetOutcome} (h : (w.resumeWork k).2.1 = .ok o) :
    o.operationId = some k.operation := by
  cases k with
  | sending t rw =>
    simp only [resumeWork] at h
    split at h
    · cases h
      exact operationId_dispatchOutcome _ _
    · cases h
  | observing t P rw =>
    simp only [resumeWork] at h
    split at h
    · cases h
      exact operationId_statusOutcome _ _ _
    · cases h
      exact operationId_statusOutcome _ _ _
    · cases h

theorem statusOutcome_congr (h : w'.operations = w.operations) :
    w'.statusOutcome = w.statusOutcome := by
  funext P s
  cases s <;> simp [statusOutcome, h]

/-- What presenting the target `t` again to step `j` came to, `res`, when `t` is parked on a
spent operation `P`, found as `op`: nothing was handed to a device, no operation changed, and
the outcome names `P`. At a device step it is answered from the operation's status, or the
operation is observed once more. -/
structure Revisit (w : Cluster) (x : ExecTask) (j : Nat) (t : JobTarget) (P : Uuid)
    (op : Operation) (res : Progressed × Cluster) : Prop where
  untouched : Untouched w res.2
  operations : res.2.operations = w.operations
  names : res.1.Names t P
  answers : ∀ step, x.job.steps[j]? = some step → step.processor ≠ "scripted" →
    op.correlationId.requestId = P →
    res.1 = .result (.ok (w.statusOutcome P op.status)) ∨
      ∃ rw, rw.id = op.correlationId ∧ res.1 = .waiting (.observing t P rw)

theorem revisit_of_spent {x : ExecTask} {j : Nat} {t : JobTarget} {P : Uuid} {op : Operation}
    (hs : t.progress.status = .processAgain) (hP : t.operationId = some P)
    (hf : w.operations.find P = some op) (hsp : op.spent = true) :
    Revisit w x j t P op (w.startTarget x j t) := by
  have hid : op.operationId = P := (OperationStore.find_eq_some hf).2
  have hread : ∀ (w' : Cluster) s,
      Progressed.Names t P (.result (.ok (w'.statusOutcome op.operationId s))) := by
    intro w' s o ho
    cases ho
    simp [absorbResult, operationId_statusOutcome, hid]
  unfold startTarget
  split
  · rename_i hstep
    exact ⟨.refl w, rfl, (fun o h => by cases h), fun step h => by rw [hstep] at h; cases h⟩
  · rename_i step hstep
    split
    · rename_i hsc
      refine ⟨.refl w, rfl, fun o h => ?_, fun step' h hne => ?_⟩
      · cases hsc : scripted t.targetId step.name j <;>
          simp only [hsc, ScriptedResult.toResult, reduceCtorEq] at h
        cases h
        simp [ScriptedResult.toResult, absorbResult, hP]
      · rw [hstep] at h
        cases h
        exact absurd (by simpa using hsc) hne
    · rw [if_neg (by simp [hs]), hP, Option.bind_some, hf]
      dsimp only
      by_cases hfin : op.status.isFinal = true
      · rw [if_pos hfin]
        exact ⟨.refl w, rfl, hread _ _, fun _ _ _ _ => .inl (by rw [hid])⟩
      · -- a spent operation that is not final reached its device: it is observed again
        have hpub : op.published = true := by simpa [Operation.spent, hfin] using hsp
        rw [if_neg hfin, if_neg (by simp [hpub])]
        have hu := untouched_startObserve (w := w) op.correlationId step.timeoutMs
        have ho := operations_startObserve (w := w) op.correlationId step.timeoutMs
        have hobs := fun hc : op.correlationId.requestId = P =>
          startObserve_of_find (w := w) step.timeoutMs (hc ▸ hf)
        split <;> rename_i heq <;> rw [heq] at hu ho hobs
        · refine ⟨hu, ho, hread _ _, fun _ _ _ hc => .inl ?_⟩
          rcases hobs hc with h | ⟨_, _, h⟩ <;> cases h
          rw [statusOutcome_congr ho, hid]
        · refine ⟨hu, ho, hread _ _, fun _ _ _ hc => ?_⟩
          rcases hobs hc with h | ⟨_, _, h⟩ <;> cases h
        · refine ⟨hu, ho, (fun o h => by cases h), fun _ _ _ hc => ?_⟩
          rcases hobs hc with h | ⟨_, _, h⟩ <;> cases h
        · refine ⟨hu, ho, ⟨rfl, hid⟩, fun _ _ _ hc => .inr ?_⟩
          rcases hobs hc with h | ⟨_, hrw, h⟩
          · cases h
          · cases h
            exact ⟨_, hrw, by rw [hid]⟩

theorem find_storeTarget {x : ExecTask} {j : Nat} {t : JobTarget}
    {r : Except String TargetOutcome} {more : Bool}
    (hf : w.targets.find t.key = some t) (h : w.storeTarget x j t r = .ok (more, w')) :
    (∀ k, w'.targets.find k =
      if k = t.key then
        some { driveTarget (w.coordinator x.coordinator).config.maxAgainPasses j x.job.stepCount t r
          with version := t.version + 1 }
      else w.targets.find k) ∧ w'.operations = w.operations := by
  obtain ⟨hk, hv⟩ := key_driveTarget (w.coordinator x.coordinator).config.maxAgainPasses j
    x.job.stepCount t r
  obtain ⟨s', hs'⟩ := TargetStore.update_of_find (s := w.targets) (by rw [hk]; exact hf) hv.symm
  unfold storeTarget at h
  dsimp only at h
  rw [hs'] at h
  obtain ⟨-, rfl⟩ := Prod.mk.inj (Except.ok.inj h)
  refine ⟨fun k => ?_, rfl⟩
  rw [TargetStore.find_update hs' k, hk, hv]

theorem sendFor_target {x : ExecTask} {step : StepDefinition} {t : JobTarget} {k : Work}
    (h : (w.sendFor x step t).1 = .waiting k) : k.target = t := by
  unfold sendFor at h
  dsimp only at h
  split at h <;> cases h
  rfl

theorem startTarget_target {x : ExecTask} {j : Nat} {t : JobTarget} {k : Work}
    (h : (w.startTarget x j t).1 = .waiting k) : k.target = t := by
  unfold startTarget at h
  split at h
  · cases h
  · split at h
    · cases h
    · split at h
      · exact sendFor_target h
      · split at h
        · exact sendFor_target h
        · split at h
          · cases h
          · split at h
            · exact sendFor_target h
            · split at h <;> cases h
              rfl

/-! ### Presentations one after another -/

/-- What may happen between a target's presentations, and while one waits for its reply, as
far as they are concerned: the target's record stays as it is, and every spent operation
stays spent. -/
structure Frame (k : TargetKey) (w w' : Cluster) : Prop where
  record : w'.targets.find k = w.targets.find k
  spent : OperationStore.SpentKept w.operations w'.operations

theorem Frame.refl (k : TargetKey) (w : Cluster) : Frame k w w :=
  ⟨rfl, .refl _⟩

theorem Frame.trans {k : TargetKey} (h₁ : Frame k w w') (h₂ : Frame k w' w'') : Frame k w w'' :=
  ⟨h₂.record.trans h₁.record, h₁.spent.trans h₂.spent⟩

/-- One presentation of the target `t` to step `j` by the run `x`, from `w` to `w'`, handing
`sent` requests to devices: the processor starts on the target, and its result is stored at
once or, when it waits for a reply, once the reply is in or its deadline came, whatever
happened meanwhile. -/
inductive Presents (x : ExecTask) (j : Nat) (t : JobTarget) : Cluster → Cluster → Nat → Prop
  | result {w w₁ w' : Cluster} {r : Except String TargetOutcome} {more : Bool} :
      w.startTarget x j t = (.result r, w₁) → w₁.storeTarget x j t r = .ok (more, w') →
      Presents x j t w w' (w₁.fleet.published.length - w.fleet.published.length)
  | waited {w w₁ w₂ w₃ w' : Cluster} {k : Work} {t' : JobTarget}
      {r : Except String TargetOutcome} {more : Bool} :
      w.startTarget x j t = (.waiting k, w₁) → Frame t.key w₁ w₂ →
      w₂.resumeWork k = (t', r, w₃) → w₃.storeTarget x j t' r = .ok (more, w') →
      Presents x j t w w' (w₁.fleet.published.length - w.fleet.published.length)

theorem Frame.of_untouched {k : TargetKey} (hu : Untouched w w')
    (hs : OperationStore.SpentKept w.operations w'.operations) : Frame k w w' :=
  ⟨by rw [hu.targets], hs⟩

theorem frame_runEvents (k : TargetKey) (w : Cluster) (evs : List CallEvent) :
    Frame k w (w.runEvents evs) := by
  induction evs generalizing w with
  | nil => exact .refl k w
  | cons ev evs ih =>
    refine Frame.trans ?_ (ih (w.onEvent ev))
    cases ev with
    | reply e => exact .of_untouched (untouched_handleReply e) (spentKept_handleReply e)
    | observe id tm =>
      refine .of_untouched (untouched_startObserve id tm) ?_
      show OperationStore.SpentKept _ (w.startObserve id tm).2.operations
      rw [operations_startObserve]
      exact .refl _
    | settle rw => exact .of_untouched (untouched_awaitSettlement rw) (spentKept_awaitSettlement rw)
    | clock now => exact ⟨rfl, .refl _⟩

/-- The presentations of the target `k`, one after another, with anything in between that
leaves its record alone: `History k i w₀ w n` when, on the way from `w₀` to `w`, the
presentations to step `i` handed `n` requests to devices. Each presentation reads the target
as stored, pending for its step. -/
inductive History (k : TargetKey) (i : Nat) (w₀ : Cluster) : Cluster → Nat → Prop
  | start : History k i w₀ w₀ 0
  | frame {w w' : Cluster} {n : Nat} : History k i w₀ w n → Frame k w w' → History k i w₀ w' n
  | present {w w' : Cluster} {n sent : Nat} {x : ExecTask} {j : Nat} {t : JobTarget} :
      History k i w₀ w n → w.targets.find k = some t →
      t.progress.isPendingFor j x.job.stepCount = true → Presents x j t w w' sent →
      History k i w₀ w' (if j = i then n + sent else n)

def Sealed (k : TargetKey) (i : Nat) (w : Cluster) : Prop :=
  ∃ r, w.targets.find k = some r ∧
    (r.progress.Past i ∨ r.progress = ⟨i, .processAgain⟩ ∧
      ∃ P op, r.operationId = some P ∧ w.operations.find P = some op ∧ op.spent)

variable {k : TargetKey} {i j : Nat} {x : ExecTask} {t : JobTarget} {sent : Nat}

theorem Sealed.frame (h : Sealed k i w) (hf : Frame k w w') : Sealed k i w' := by
  obtain ⟨r, hr, hpast | ⟨hp, P, op, hP, hop, hsp⟩⟩ := h
  · exact ⟨r, hf.record.trans hr, .inl hpast⟩
  · obtain ⟨op', hop', hsp'⟩ := hf.spent P op hop hsp
    exact ⟨r, hf.record.trans hr, .inr ⟨hp, P, op', hP, hop', hsp'⟩⟩

theorem Presents.sent_eq (hp : Presents x j t w w' sent) :
    sent = (w.startTarget x j t).2.fleet.published.length - w.fleet.published.length := by
  cases hp with
  | result hs _ => rw [hs]
  | waited hs _ _ _ => rw [hs]

/-- A presentation of a target read as stored stores it driven by some result, keeps spent
every operation that was spent once the processor started, and stores a result carrying
the operation the start named. -/
theorem Presents.stored (hp : Presents x j t w w' sent) (hf : w.targets.find t.key = some t) :
    ∃ m r, w'.targets.find t.key =
        some { driveTarget m j x.job.stepCount t r with version := t.version + 1 } ∧
      OperationStore.SpentKept (w.startTarget x j t).2.operations w'.operations ∧
      ∀ Q, (w.startTarget x j t).1.Names t Q →
        ∀ o, r = .ok o → (absorbResult t r).1.operationId = some Q := by
  have hut : (w.startTarget x j t).2.targets = w.targets := by
    rcases startTarget_cases w x j t with hu | ⟨rw, -, hs⟩
    · exact hu.targets
    · exact hs.targets
  cases hp with
  | result hs hst =>
    rename_i w₁ r _
    rw [hs] at hut
    obtain ⟨hrec, hops⟩ := find_storeTarget (by rw [hut]; exact hf) hst
    refine ⟨_, r, by rw [hrec, if_pos rfl], ?_, ?_⟩
    · rw [hs, hops]
      exact .refl _
    · intro Q hn
      rw [hs] at hn
      exact hn
  | waited hs hfr hres hst =>
    rename_i w₁ w₂ w₃ k t' r _
    rw [hs] at hut
    have hkt : k.target = t := startTarget_target (by rw [hs])
    have ht' : t' = t := by
      have := resumeWork_target (w := w₂) k
      rw [hres] at this
      exact this.trans hkt
    subst ht'
    have hu := untouched_resumeWork (w := w₂) k
    have hsk := spentKept_resumeWork (w := w₂) k
    rw [hres] at hu hsk
    have hf₃ : w₃.targets.find t'.key = some t' := by
      rw [hu.targets, hfr.record, hut]
      exact hf
    obtain ⟨hrec, hops⟩ := find_storeTarget hf₃ hst
    refine ⟨_, r, by rw [hrec, if_pos rfl], ?_, ?_⟩
    · rw [hs, hops]
      exact hfr.spent.trans hsk
    · intro Q hn o ho
      rw [hs] at hn
      have hname := resumeWork_names (w := w₂) k (o := o) (by rw [hres]; exact ho)
      rw [hn.2] at hname
      subst ho
      simp [absorbResult, hname]

theorem sealed_of_stored {m : Nat} {r : Except String TargetOutcome} {Q : Uuid}
    (hpend : t.progress.isPendingFor i x.job.stepCount = true)
    (hrec : w'.targets.find t.key =
      some { driveTarget m i x.job.stepCount t r with version := t.version + 1 })
    (hn : ∀ o, r = .ok o → (absorbResult t r).1.operationId = some Q)
    (hq : ∃ op, w'.operations.find Q = some op ∧ op.spent) : Sealed t.key i w' := by
  obtain ⟨o, hprog, hagain⟩ := progress_driveTarget (m := m) (r := r) hpend
  refine ⟨_, hrec, ?_⟩
  simp only [hprog]
  cases o with
  | ok => exact .inl (.inr ⟨rfl, .inl rfl⟩)
  | failed reason => exact .inl (.inr ⟨rfl, .inr rfl⟩)
  | again =>
    -- asking to come again needs a result that asked so, and that result names `Q`
    obtain ⟨v, rfl, -⟩ := hagain rfl
    obtain ⟨op, hop, hsp⟩ := hq
    refine .inr ⟨rfl, Q, op, ?_, hop, hsp⟩
    obtain ⟨a, e, hd⟩ := driveTarget_eq m i x.job.stepCount t (.ok v)
    rw [hd]
    exact hn v rfl

theorem Presents.past (hp : Presents x j t w w' sent) (hf : w.targets.find t.key = some t)
    (hpend : t.progress.isPendingFor j x.job.stepCount = true) (hij : i < j) :
    Sealed t.key i w' := by
  obtain ⟨m, r, hrec, -⟩ := hp.stored hf
  obtain ⟨o, hprog, -⟩ := progress_driveTarget (m := m) (r := r) hpend
  refine ⟨_, hrec, .inl ?_⟩
  simp only [hprog]
  exact .inl hij

/-- The invariant of a history of presentations: no request for step `i` was handed over yet,
or exactly one, and the target is then sealed for the step. -/
theorem History.sealed {w₀ : Cluster} {n : Nat} (h : History k i w₀ w n) :
    n = 0 ∨ n = 1 ∧ Sealed k i w := by
  induction h with
  | start => exact .inl rfl
  | frame _ hf ih =>
    rcases ih with rfl | ⟨rfl, hs⟩
    · exact .inl rfl
    · exact .inr ⟨rfl, hs.frame hf⟩
  | @present w w' n sent x j t _ hrec hpend hp ih =>
    obtain rfl : t.key = k := TargetStore.find_key hrec
    rcases ih with rfl | ⟨rfl, r, hr, hsealed⟩
    · by_cases hji : j = i
      · subst hji
        rw [if_pos rfl]
        rcases startTarget_cases w x j t with hu | ⟨rw, hw, hs⟩
        · have hsent := hp.sent_eq
          rw [hu.fleet] at hsent
          exact .inl (by omega)
        · obtain ⟨m, r, hrec', hsk, hn⟩ := hp.stored hrec
          obtain ⟨op, hop, hsp⟩ := hs.spent
          refine .inr ⟨by rw [hp.sent_eq, hs.published]; omega, ?_⟩
          exact sealed_of_stored hpend hrec' (hn _ (by rw [hw]; exact ⟨rfl, rfl⟩))
            (hsk _ op hop hsp)
      · rw [if_neg hji]
        exact .inl rfl
    · rw [hrec] at hr
      cases hr
      rcases hsealed with hpast | ⟨hprog, P, op, hP, hop, hsp⟩
      · have hij := hpast.lt_of_pending hpend
        rw [if_neg (Nat.ne_of_gt hij)]
        exact .inr ⟨rfl, hp.past hrec hpend hij⟩
      · -- parked on a spent operation: presented again at the step only, and nothing is sent
        obtain rfl : j = i := by
          rcases TargetProgress.pending_cases hpend with ⟨-, hj⟩ | ⟨hs, -⟩
          · rw [hj, hprog]
          · rw [hprog] at hs
            cases hs
        have hrev : Revisit w x j t P op (w.startTarget x j t) :=
          revisit_of_spent (by rw [hprog]) hP hop hsp
        have hsent : sent = 0 := by
          rw [hp.sent_eq, hrev.untouched.fleet]
          omega
        rw [if_pos rfl, hsent]
        obtain ⟨m, r, hrec', hsk, hn'⟩ := hp.stored hrec
        exact .inr ⟨rfl, sealed_of_stored hpend hrec' (hn' P hrev.names)
          (hsk P op (by rw [hrev.operations]; exact hop) hsp)⟩

theorem resumeWork_observing {t : JobTarget} {P : Uuid} {rw : ReplyWait} {o : DispatchOutcome}
    (h : (w.awaitSettlement rw).1 = .ok o) :
    (w.resumeWork (.observing t P rw)).2.1 =
      .ok ((w.awaitSettlement rw).2.statusOutcome P (observedStatus o)) := by
  simp only [resumeWork, finishObserve_eq, h, Except.map]

end Cluster

open Cluster

/-- A step hands its device command to a target at most once while the target's presentations
do not overlap. Along every history of presentations of a target, each reading the target as
stored and storing its result before the next one starts, with anything in between that
leaves the target's record alone and spent operations spent, at most one request is handed
to a device for a step. Presenting again a target parked on a spent operation hands nothing
over and changes no operation. When it observes the operation once more and the wait ends
with a final status, the target's outcome is read from that status, and the operation ends
in it exactly when it already had it, or was still open with its settlement unclaimed. -/
theorem device_command_sent_at_most_once {k : TargetKey} {i : Nat} {w₀ w : Cluster} {n : Nat}
    (h : History k i w₀ w n) :
    n ≤ 1 ∧
    (∀ (x : ExecTask) (t : JobTarget) (P : Uuid) (op : Operation),
      t.progress.status = .processAgain → t.operationId = some P →
      w.operations.find P = some op → op.spent = true →
      Revisit w x i t P op (w.startTarget x i t)) ∧
    (∀ (w' : Cluster) (t : JobTarget) (P : Uuid) (rw : ReplyWait) (op : Operation)
      (o : DispatchOutcome),
      w'.operations.find rw.id.requestId = some op → (w'.awaitSettlement rw).1 = .ok o →
      (observedStatus o).isFinal = true →
      (w'.resumeWork (.observing t P rw)).2.1 =
          .ok ((w'.awaitSettlement rw).2.statusOutcome P (observedStatus o)) ∧
        ((((w'.awaitSettlement rw).2.operations.find rw.id.requestId).map (·.status) =
            some (observedStatus o)) ↔
          op.status = observedStatus o ∨
            (op.status.isFinal = false ∧ w'.settlementOpen rw.id = true))) := by
  refine ⟨?_, fun x t P op hs hP hf hsp => revisit_of_spent hs hP hf hsp,
    fun w' t P rw op o hop ho hfo => ⟨resumeWork_observing ho, status_awaitSettlement_iff hop ho hfo⟩⟩
  rcases h.sealed with rfl | ⟨rfl, -⟩ <;> omega

/-! ### A target presented twice at once

A job of tenant `1` with one step, reading application `BUN-V1` on device `gw-1`, run by the
first coordinator; its one target starts queued at the step. -/

def readStep : StepDefinition :=
  { name := "a", processor := "device-command",
    template := { appName := "BUN-V1", method := .read } }

def readJob : Job :=
  { jobId := "cmd", tenantId := "1", name := "command job", steps := [readStep],
    targetIds := ["gw-1"] }

def readRun : ExecTask :=
  { coordinator := 0, job := readJob, fresh := true,
    execution := Execution.create ⟨0, 1⟩ "1" "cmd" {} "" .running 0 }

def queuedTarget : JobTarget :=
  JobTarget.fresh readJob "gw-1"

def heldCluster : Cluster :=
  { now := 0, ids := ⟨7⟩, jobCache := Cache.Lookup.empty 8,
    coordinators := [{ config := { (default : EngineConfig) with maxAgainPasses := 3 } }],
    targets := ⟨[queuedTarget]⟩, fleet := { modes := [("gw-1", .hold)] } }

def parkedTarget : JobTarget :=
  { queuedTarget with progress := ⟨0, .processAgain⟩, operationId := some callId.requestId,
                      againPasses := 1, version := 1 }

/-- One presentation of the queued target hands its request to the device; presenting the
target again while parked on its published operation sends nothing; and an observation whose
reply came twice answers from the first copy. -/
theorem held_command_sent_once :
    (∃ w n, History queuedTarget.key 0 heldCluster w n ∧ n = 1 ∧ n ≤ 1) ∧
      Revisit sentCluster readRun 0 parkedTarget callId.requestId sentOperation
        (sentCluster.startTarget readRun 0 parkedTarget) ∧
      let w := (sentCluster.handleReply strayReply).handleReply strayReply
      (w.resumeWork (.observing parkedTarget callId.requestId sentWait)).2.1 =
          .ok ((w.awaitSettlement sentWait).2.statusOutcome callId.requestId .failed) ∧
        (((w.awaitSettlement sentWait).2.operations.find sentWait.id.requestId).map (·.status) =
            some .failed ↔
          OperationStatus.completed = .failed ∨
            (OperationStatus.completed.isFinal = false ∧ w.settlementOpen sentWait.id = true)) := by
  have h : History queuedTarget.key 0 heldCluster _ _ :=
    .present (x := readRun) (j := 0) .start rfl rfl
      (.waited rfl (frame_runEvents _ _ [.clock 500000]) rfl rfl)
  have h₀ : History queuedTarget.key 0 sentCluster sentCluster 0 := .start
  refine ⟨⟨_, _, h, by decide +kernel, (device_command_sent_at_most_once h).1⟩,
    (device_command_sent_at_most_once h₀).2.1 readRun parkedTarget _ _ rfl rfl rfl rfl, ?_⟩
  exact (device_command_sent_at_most_once h₀).2.2 _ _ _ _
    { sentOperation with status := .completed, endedOn := some 0, version := 1 }
    (.conversionFailed (Correlator.channelMismatch "NOT-IT" "BUN-V1")) rfl rfl rfl

/-- Two presentations of one target that overlap, both reading it queued as stored, each hand
the step's request to the device. -/
theorem overlapping_presentations_send_twice :
    heldCluster.targets.find queuedTarget.key = some queuedTarget ∧
      (heldCluster.startTarget readRun 0 queuedTarget).2.targets.find queuedTarget.key =
        some queuedTarget ∧
      ((heldCluster.startTarget readRun 0 queuedTarget).2.startTarget readRun 0
        queuedTarget).2.fleet.published.length = 2 := by
  decide +kernel

end DeviceFleet.Engine
