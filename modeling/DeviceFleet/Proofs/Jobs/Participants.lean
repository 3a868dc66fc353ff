import DeviceFleet.Proofs.Jobs.Drive
import DeviceFleet.Proofs.Jobs.Interleaving

/-!
# A run touches only the targets its options take in

Every store read of a run filters by its participants, so every other target keeps its record
(`Drives.confined`); starting adds missing targets without overwriting any.
-/

namespace DeviceFleet.Job

/-! ### Which targets an execution takes in -/

def Execution.Covers (e : Execution) (k : TargetKey) : Prop :=
  k.tenantId = e.tenantId ∧ k.jobId = e.jobId ∧ e.options.includes k.targetId = true

instance (e : Execution) (k : TargetKey) : Decidable (e.Covers k) :=
  inferInstanceAs (Decidable (_ ∧ _ ∧ _))

/-! ### Adding the missing targets -/

namespace TargetStore

def insertStep (acc : Nat × TargetStore) (t : JobTarget) : Nat × TargetStore :=
  if acc.2.targets.any (isTarget t.tenantId t.jobId t.targetId) then acc
  else (acc.1 + 1, { targets := acc.2.targets ++ [t] })

theorem insertMissing_eq (s : TargetStore) (ts : List JobTarget) :
    s.insertMissing ts = ts.foldl insertStep (0, s) := rfl

variable {s : TargetStore} {k : TargetKey} {t : JobTarget}

theorem any_isTarget (s : TargetStore) (t : JobTarget) :
    s.targets.any (isTarget t.tenantId t.jobId t.targetId) = (s.find t.key).isSome := by
  rw [find]
  apply Bool.eq_iff_iff.mpr
  rw [List.any_eq_true, List.find?_isSome]
  rfl

theorem find_eq_none_iff : s.find k = none ↔ k ∉ s.targets.map JobTarget.key := by
  rw [find_eq, List.find?_eq_none]
  simp

theorem insertStep_find (acc : Nat × TargetStore) (t : JobTarget) (k : TargetKey) :
    (insertStep acc t).2.find k = (acc.2.find k).or ([t].find? fun x => decide (x.key = k)) := by
  unfold insertStep
  rw [any_isTarget]
  split
  · rename_i hs
    by_cases hk : t.key = k
    · subst hk
      obtain ⟨u, hu⟩ := Option.isSome_iff_exists.mp hs
      simp [hu]
    · simp [hk]
  · simp only [find_eq, List.find?_append]

theorem insertStep_nodup (acc : Nat × TargetStore) (t : JobTarget)
    (h : (acc.2.targets.map JobTarget.key).Nodup) :
    ((insertStep acc t).2.targets.map JobTarget.key).Nodup := by
  unfold insertStep
  rw [any_isTarget]
  split
  · exact h
  · rename_i hs
    have hn : ∀ a ∈ acc.2.targets, ¬a.key = t.key := by
      simpa using find_eq_none_iff.mp (Option.not_isSome_iff_eq_none.mp hs)
    simpa [List.nodup_append] using ⟨h, hn⟩

theorem find_insertMissing (s : TargetStore) (ts : List JobTarget) (k : TargetKey) :
    (s.insertMissing ts).2.find k = (s.find k).or (ts.find? fun x => decide (x.key = k)) := by
  rw [insertMissing_eq]
  suffices h : ∀ acc : Nat × TargetStore,
      (ts.foldl insertStep acc).2.find k = (acc.2.find k).or (ts.find? fun x => decide (x.key = k))
    from h (0, s)
  induction ts with
  | nil => simp
  | cons t ts ih =>
    intro acc
    rw [List.foldl_cons, ih, insertStep_find, Option.or_assoc, ← List.find?_append]
    rfl

theorem nodup_insertMissing (ts : List JobTarget) (h : (s.targets.map JobTarget.key).Nodup) :
    ((s.insertMissing ts).2.targets.map JobTarget.key).Nodup := by
  rw [insertMissing_eq]
  suffices hf : ∀ acc : Nat × TargetStore, (acc.2.targets.map JobTarget.key).Nodup →
      ((ts.foldl insertStep acc).2.targets.map JobTarget.key).Nodup
    from hf (0, s) h
  induction ts with
  | nil => exact fun _ h => h
  | cons t ts ih => exact fun acc h => ih _ (insertStep_nodup acc t h)

theorem keys_update {t' : JobTarget} {s' : TargetStore} (h : s.update t = .ok (t', s')) :
    s'.targets.map JobTarget.key = s.targets.map JobTarget.key := by
  obtain ⟨rfl, hs⟩ := targets_update h
  rw [hs, List.map_map]
  refine List.map_congr_left fun x _ => ?_
  simp only [Function.comp_apply]
  split
  · rename_i hx
    exact hx.symm
  · rfl

theorem find_map {f : JobTarget → JobTarget} (hf : ∀ x, (f x).key = x.key) (s : TargetStore)
    (k : TargetKey) : (⟨s.targets.map f⟩ : TargetStore).find k = (s.find k).map f := by
  rw [find_eq, find_eq, List.find?_map]
  congr 2
  funext x
  simp [hf x]

end TargetStore

theorem ExecutionStore.promoteNext_options {s s' : ExecutionStore} {tn jn node : String}
    {now : Int} {e : Execution} (h : s.promoteNext tn jn node now = (some e, s')) :
    ∃ q ∈ s.executions, q.status = .queued ∧ q.executionId = e.executionId ∧
      q.options = e.options := by
  rcases ExecutionStore.promoteNext_cases s tn jn node now with ⟨h', -⟩ | ⟨q, -, hq, h'⟩
  · rw [h'] at h
    cases h
  · rw [h'] at h
    cases h
    have hf := ExecutionStore.firstQueued_spec (s.list tn jn)
    rw [hq] at hf
    obtain ⟨pre, post, hsplit, hqs, -⟩ := hf
    have hmem : q ∈ s.list tn jn := by rw [hsplit]; simp
    exact ⟨q, List.mem_of_mem_filter hmem, hqs, rfl, rfl⟩

end DeviceFleet.Job

namespace DeviceFleet.Engine

open Job Events Store

/-! ### What a run holds, and what it takes a target up as -/

def Phase.queue : Phase → List JobTarget
  | .presenting _ queue _ _ _ => queue
  | _ => []

def Phase.waiting : Phase → List JobTarget
  | .presenting _ _ active _ _ => active.map Work.target
  | _ => []

def ExecTask.Scoped (x : ExecTask) : Prop :=
  ∀ t ∈ x.phase.queue ++ x.phase.waiting, x.execution.Covers t.key

def ExecTask.takeUp (x : ExecTask) (t : JobTarget) : JobTarget :=
  if x.fresh && x.execution.options.resetStepIndex then
    { t.reset (x.execution.options.fromStepIndex.getD 0) with version := t.version + 1 }
  else t

namespace Cluster

variable {w w' w'' : Cluster} {x : ExecTask} {e : Execution}

theorem mem_participants {t : JobTarget} :
    t ∈ w.participants e ↔ t ∈ w.targets.targets ∧ e.Covers t.key := by
  simp only [participants, TargetStore.list, List.mem_filter, Execution.Covers, JobTarget.key,
    Bool.and_eq_true, beq_iff_eq]
  tauto

def Confined (e : Execution) (w w' : Cluster) : Prop :=
  ∀ k, ¬ e.Covers k → w'.targets.find k = w.targets.find k

theorem Confined.of_targets (h : w'.targets = w.targets) : Confined e w w' :=
  fun k _ => by rw [h]

theorem Confined.trans (h₁ : Confined e w w') (h₂ : Confined e w' w'') : Confined e w w'' :=
  fun k hk => (h₂ k hk).trans (h₁ k hk)

/-! ### The writes of a run -/

theorem storeTarget_writes {i : Nat} {t : JobTarget} {r : Except String TargetOutcome}
    {more : Bool} (h : w.storeTarget x i t r = .ok (more, w')) :
    w'.targets.targets.map JobTarget.key = w.targets.targets.map JobTarget.key ∧
      ∀ k, k ≠ t.key → w'.targets.find k = w.targets.find k := by
  have hkey := (key_driveTarget (w.coordinator x.coordinator).config.maxAgainPasses i
    x.job.stepCount t r).1
  unfold storeTarget at h
  dsimp only at h
  split at h
  · rename_i stored s hs
    cases h
    refine ⟨TargetStore.keys_update hs, fun k hk => ?_⟩
    rw [TargetStore.find_update hs k, if_neg (by rw [hkey]; exact hk)]
  · split at h
    · cases h
      exact ⟨rfl, fun _ _ => rfl⟩
    · cases h

/-- Resetting participants of `e` one after another writes participants of `e` only, and keeps
the keys of the store. -/
theorem foldlM_reset_confined (idx : Nat) : ∀ (L : List JobTarget) (w w' : Cluster),
    (∀ t ∈ L, e.Covers t.key) →
    L.foldlM (fun w t => (w.targets.update (t.reset idx)).map fun (_, s) =>
        ({ w with targets := s } : Cluster)) w = .ok w' →
    Confined e w w' ∧ w'.targets.targets.map JobTarget.key = w.targets.targets.map JobTarget.key
  | [], w, w', _, h => by
    cases h
    exact ⟨.of_targets rfl, rfl⟩
  | t :: L, w, w', hL, h => by
    rw [List.foldlM_cons] at h
    cases hu : w.targets.update (t.reset idx) with
    | error err =>
      rw [hu] at h
      cases h
    | ok p =>
      obtain ⟨t', s⟩ := p
      rw [hu] at h
      obtain ⟨hc, hk⟩ := foldlM_reset_confined idx L _ w' (fun u hu => hL u (by simp [hu])) h
      have hw : Confined e w { w with targets := s } := by
        intro k hk
        have hne : k ≠ (t.reset idx).key := fun h => hk (by rw [h]; exact hL t (by simp))
        show s.find k = w.targets.find k
        rw [TargetStore.find_update hu k, if_neg hne]
      exact ⟨hw.trans hc, hk.trans (TargetStore.keys_update hu)⟩

theorem resetTargets_confined {idx : Nat} (h : w.resetTargets e idx = .ok w') :
    Confined e w w' ∧ w'.targets.targets.map JobTarget.key = w.targets.targets.map JobTarget.key :=
  foldlM_reset_confined idx (w.participants e) w w' (fun _ ht => (mem_participants.mp ht).2) h

theorem targets_recordOnce {α : Type} {node : String} {ev : ServiceEvent}
    {effect : Cluster → Except StoreError (α × Cluster)}
    (heff : ∀ w₁ v w₂, effect w₁ = .ok (v, w₂) → w₂.targets = w₁.targets) :
    (w.recordOnce node ev effect).2.targets = w.targets := by
  unfold recordOnce
  split
  · dsimp only
    split
    · rename_i v w₂ hx
      have ht := heff _ v w₂ hx
      split
      · unfold heard
        split <;> exact ht
      · exact ht
    · rfl
  · rfl

theorem targets_endExecution (node : String) (e : Execution) (src tgt : ExecutionStatus) :
    (w.endExecution node e src tgt).2.targets = w.targets := by
  unfold endExecution
  dsimp only
  split <;> rename_i heq <;>
    refine (congrArg (fun p => p.2.targets) heq).symm.trans (targets_recordOnce ?_) <;>
    intro w₁ v w₂ h
  all_goals
    split at h
    · cases h
      rfl
    · split at h
      · cases h
        rfl
      · simp only [Except.map] at h
        split at h
        · cases h
        · cases h
          rfl

/-! ### One act of a run -/

def beginTargets (w : Cluster) (x : ExecTask) : Except StoreError Cluster :=
  if x.fresh && x.execution.options.resetStepIndex then
    w.resetTargets x.execution (x.execution.options.fromStepIndex.getD 0)
  else .ok w

/-- The first act of a run makes its targets what `beginTargets` says, the store as it was when
that fails, and moves the run to a phase that holds no target. -/
theorem stepExecution_begin (hp : x.phase = .begin) :
    ∃ p, (w.stepExecution x).1 = some { x with phase := p } ∧ p ≠ .begin ∧ p.queue = [] ∧
      p.waiting = [] ∧ (∀ w₁, w.beginTargets x = .ok w₁ → (w.stepExecution x).2 = w₁) ∧
      (∀ err, w.beginTargets x = .error err → (w.stepExecution x).2 = w) := by
  cases hr : w.beginTargets x with
  | error err =>
    have he : w.stepExecution x = (some { x with phase := .ending .stopped }, w) := by
      simp only [stepExecution, hp]
      rw [show (if x.fresh && x.execution.options.resetStepIndex then
          w.resetTargets x.execution (x.execution.options.fromStepIndex.getD 0) else .ok w) =
          .error err from hr]
    rw [he]
    refine ⟨_, rfl, by simp, rfl, rfl, fun w₁ h => ?_, fun _ _ => rfl⟩
    cases h
  | ok w₁ =>
    have hr' : (if x.fresh && x.execution.options.resetStepIndex then
        w.resetTargets x.execution (x.execution.options.fromStepIndex.getD 0) else .ok w) =
        .ok w₁ := hr
    cases hrs : resumeStep ((w₁.participants x.execution).map (·.progress)) x.job.stepCount with
    | none =>
      have he : w.stepExecution x = (some { x with phase := .ending .completed }, w₁) := by
        simp only [stepExecution, hp]
        rw [hr']
        simp only [hrs]
      rw [he]
      refine ⟨_, rfl, by simp, rfl, rfl, fun w₂ h => ?_, fun err h => ?_⟩
      · cases h
        rfl
      · cases h
    | some i =>
      have he : w.stepExecution x = (some { x with phase := .stepTop i }, w₁) := by
        simp only [stepExecution, hp]
        rw [hr']
        simp only [hrs]
      rw [he]
      refine ⟨_, rfl, by simp, rfl, rfl, fun w₂ h => ?_, fun err h => ?_⟩
      · cases h
        rfl
      · cases h

theorem beginTargets_confined {w₁ : Cluster} (h : w.beginTargets x = .ok w₁) :
    Confined x.execution w w₁ ∧
      w₁.targets.targets.map JobTarget.key = w.targets.targets.map JobTarget.key := by
  unfold beginTargets at h
  split at h
  · exact resetTargets_confined h
  · cases h
    exact ⟨.of_targets rfl, rfl⟩

/-- With distinct keys, the first act takes every participant up as the run's options say, and
keeps the keys. -/
theorem beginTargets_takeUp (hk : (w.targets.targets.map JobTarget.key).Nodup) :
    ∃ w₁, w.beginTargets x = .ok w₁ ∧
      w₁.targets.targets.map JobTarget.key = w.targets.targets.map JobTarget.key ∧
      ∀ k, x.execution.Covers k → w₁.targets.find k = (w.targets.find k).map x.takeUp := by
  unfold beginTargets
  by_cases hr : (x.fresh && x.execution.options.resetStepIndex) = true
  · rw [if_pos hr]
    have hsub := participants_sublist w x.execution
    refine ⟨_, foldlM_reset _ (w.participants x.execution) w hk
      (hk.sublist (hsub.map JobTarget.key)) fun t ht => mem_targets_of_participant ht, ?_, ?_⟩
    · rw [List.map_map]
      exact List.map_congr_left fun y _ => by simp only [Function.comp_apply]; split <;> rfl
    · intro k hc
      rw [TargetStore.find_map (fun y => by split <;> rfl)]
      cases hf : w.targets.find k with
      | none => rfl
      | some y =>
        have hy : y ∈ w.participants x.execution := mem_participants.mpr
          ⟨List.mem_of_find?_eq_some (by rwa [TargetStore.find_eq] at hf),
            (TargetStore.find_key hf) ▸ hc⟩
        simp [hy, ExecTask.takeUp, hr]
  · rw [if_neg hr]
    refine ⟨w, rfl, rfl, fun k _ => ?_⟩
    cases w.targets.find k with
    | none => rfl
    | some y => simp [ExecTask.takeUp, hr]

/-- What an act of the run of `x` from `w` does to the targets once the run has begun, going on
as `xo` in `w'`: the keys of the store stay, only the records of targets it waits on or
presents are rewritten, and the targets it holds next it held before, presents now, or has
just read as participants. -/
structure Moves (x : ExecTask) (w : Cluster) (xo : Option ExecTask) (w' : Cluster) : Prop where
  keys : w'.targets.targets.map JobTarget.key = w.targets.targets.map JobTarget.key
  written : ∀ k, w'.targets.find k ≠ w.targets.find k →
    k ∈ (x.phase.waiting ++ (w.presentation x).toList.map Prod.fst).map JobTarget.key
  task : ∀ x', xo = some x' → x' = { x with phase := x'.phase } ∧ x'.phase ≠ .begin
  queue : ∀ x', xo = some x' → (∀ t ∈ x'.phase.queue, t ∈ x.phase.queue) ∨
    w'.targets = w.targets ∧ ∀ t ∈ x'.phase.queue, t ∈ w.participants x.execution
  waiting : ∀ x', xo = some x' →
    ∀ t ∈ x'.phase.waiting, t ∈ x.phase.waiting ++ (w.presentation x).toList.map Prod.fst

theorem Moves.write {p : Phase} {t : JobTarget}
    (hkeys : w'.targets.targets.map JobTarget.key = w.targets.targets.map JobTarget.key)
    (hfind : ∀ k, k ≠ t.key → w'.targets.find k = w.targets.find k)
    (ht : t ∈ x.phase.waiting ++ (w.presentation x).toList.map Prod.fst) (hb : p ≠ .begin)
    (hq : ∀ u ∈ p.queue, u ∈ x.phase.queue)
    (hw : ∀ u ∈ p.waiting, u ∈ x.phase.waiting ++ (w.presentation x).toList.map Prod.fst) :
    Moves x w (some { x with phase := p }) w' where
  keys := hkeys
  written k hk := by
    by_cases hkt : k = t.key
    · rw [hkt]
      exact List.mem_map_of_mem ht
    · exact absurd (hfind k hkt) hk
  task x' h := by
    cases h
    exact ⟨rfl, hb⟩
  queue x' h := by
    cases h
    exact .inl hq
  waiting x' h := by
    cases h
    exact hw

theorem Moves.rephase {p : Phase} (hb : p ≠ .begin) (hq : ∀ u ∈ p.queue, u ∈ x.phase.queue)
    (hw : ∀ u ∈ p.waiting, u ∈ x.phase.waiting) : Moves x w (some { x with phase := p }) w where
  keys := rfl
  written k hk := absurd rfl hk
  task x' h := by
    cases h
    exact ⟨rfl, hb⟩
  queue x' h := by
    cases h
    exact .inl hq
  waiting x' h := by
    cases h
    exact fun u hu => List.mem_append_left _ (hw u hu)

theorem Moves.stay (hb : x.phase ≠ .begin) : Moves x w (some x) w :=
  Moves.rephase (p := x.phase) hb (fun _ h => h) (fun _ h => h)

theorem Moves.empty {p : Phase} (hb : p ≠ .begin) (hq : p.queue = []) (hw : p.waiting = []) :
    Moves x w (some { x with phase := p }) w :=
  Moves.rephase hb (by simp [hq]) (by simp [hw])

theorem Moves.over (h : w'.targets = w.targets) : Moves x w none w' where
  keys := by rw [h]
  written k hk := absurd (by rw [h]) hk
  task x' h := by cases h
  queue x' h := by cases h
  waiting x' h := by cases h

theorem Moves.passStored {w₁ : Cluster} {i : Nat} {t : JobTarget} {r : Except String TargetOutcome}
    {q : List JobTarget} {a : List Work} {again : Nat} {failed : Bool}
    (hkeep : w₁.targets = w.targets)
    (ht : t ∈ x.phase.waiting ++ (w.presentation x).toList.map Prod.fst)
    (hq : ∀ g f, ∀ u ∈ (Phase.presenting i q a g f).queue, u ∈ x.phase.queue)
    (hw : ∀ g f, ∀ u ∈ (Phase.presenting i q a g f).waiting,
      u ∈ x.phase.waiting ++ (w.presentation x).toList.map Prod.fst) :
    Moves x w (w₁.passStored x i t r q a again failed).1
      (w₁.passStored x i t r q a again failed).2 := by
  unfold Cluster.passStored
  split
  · exact Moves.over hkeep
  · split
    · rename_i more w₂ hst
      obtain ⟨hkeys, hfind⟩ := storeTarget_writes hst
      exact Moves.write (hkeys.trans (by rw [hkeep])) (fun k hk => (hfind k hk).trans (by rw [hkeep]))
        ht (by simp) (hq _ _) (hw _ _)
    · exact Moves.write (by rw [hkeep]) (fun k _ => by rw [hkeep]) ht (by simp) (hq _ _) (hw _ _)

theorem presentation_mem {p : JobTarget × Nat} (h : w.presentation x = some p) :
    p.1 ∈ x.phase.queue := by
  unfold presentation at h
  split at h
  · rename_i i t q a again f heq
    split at h
    · cases h
      rw [heq]
      exact List.mem_cons_self
    · cases h
  · cases h

theorem stepExecution_moves (hb : x.phase ≠ .begin) :
    Moves x w (w.stepExecution x).1 (w.stepExecution x).2 := by
  unfold stepExecution
  cases hp : x.phase with
  | begin => exact absurd hp hb
  | stepTop i =>
    dsimp only
    split
    · exact Moves.empty (by simp) rfl rfl
    split
    · exact Moves.empty (by simp) rfl rfl
    split
    · split
      · exact Moves.empty (by simp) rfl rfl
      split
      · exact Moves.empty (by simp) rfl rfl
      · refine ⟨rfl, fun k hk => absurd rfl hk, fun x' h => ?_, fun x' h => ?_,
          fun x' h => ?_⟩ <;> cases h
        · exact ⟨rfl, by simp⟩
        · exact .inr ⟨rfl, fun t ht => (List.mem_filter.mp ht).1⟩
        · simp [Phase.waiting]
    · exact Moves.empty (by simp) rfl rfl
  | presenting i queue active again failed =>
    have hq : ∀ {q : List JobTarget}, (∀ u ∈ q, u ∈ queue) → ∀ a g f,
        ∀ u ∈ (Phase.presenting i q a g f).queue, u ∈ x.phase.queue := fun hq _ _ _ u hu => by
      rw [hp]
      exact hq u hu
    dsimp only
    split
    · split
      · exact Moves.empty (by simp) rfl rfl
      · rename_i k hidx _ work hwork
        have hkeep := keeps_resumeWork w work
        have ht : (w.resumeWork work).1 ∈
            x.phase.waiting ++ (w.presentation x).toList.map Prod.fst := by
          rw [resumeWork_target, hp]
          exact List.mem_append_left _ (List.mem_map_of_mem (List.mem_of_getElem? hwork))
        have hw : ∀ g f, ∀ u ∈ (Phase.presenting i queue (active.eraseIdx k) g f).waiting,
            u ∈ x.phase.waiting ++ (w.presentation x).toList.map Prod.fst := fun g f u hu => by
          obtain ⟨a, ha, rfl⟩ := List.mem_map.mp hu
          rw [hp]
          exact List.mem_append_left _
            (List.mem_map_of_mem ((List.eraseIdx_sublist active k).subset ha))
        exact Moves.passStored hkeep.targets ht (hq (fun u hu => hu) _) hw
    · split
      · rename_i hidx _ t rest
        have hrest := hq (q := rest) (fun u hu => List.mem_cons_of_mem t hu)
        split
        · exact Moves.stay hb
        rename_i hroom
        split
        · exact Moves.rephase (by simp) (hrest _ _ _) fun u hu => by rw [hp]; exact hu
        rename_i hlive
        have hpr : w.presentation x = some (t, i) := by
          have hroom' : active.length < w.width x := Nat.lt_of_not_le hroom
          have hlive' : w.cancelled x = false := by simpa using hlive
          simp [presentation, hp, hidx, hroom', hlive']
        have ht : t ∈ x.phase.waiting ++ (w.presentation x).toList.map Prod.fst := by
          rw [hpr]
          simp
        have hkeep := keeps_startTarget w x i t
        split
        · rename_i work w₁ hst
          rw [hst] at hkeep
          have hwt := startTarget_target (show (w.startTarget x i t).1 = .waiting work by rw [hst])
          refine Moves.write (by rw [hkeep.targets]) (fun k _ => by rw [hkeep.targets]) ht
            (by simp) (hrest _ _ _) fun u hu => ?_
          simp only [Phase.waiting, List.map_append, List.map_cons, List.map_nil, List.mem_append,
            List.mem_singleton] at hu
          rcases hu with hu | rfl
          · rw [hp]
            exact List.mem_append_left _ hu
          · rw [hwt]
            exact ht
        · rename_i r w₁ hst
          rw [hst] at hkeep
          exact Moves.passStored hkeep.targets ht (hrest _) fun _ _ u hu => by
            rw [hp]
            exact List.mem_append_left _ hu
      · split
        · exact Moves.stay hb
        split
        · exact Moves.empty (by simp) rfl rfl
        split
        · exact Moves.empty (by simp) rfl rfl
        · exact Moves.empty (by simp) rfl rfl
  | pausing i wakeAt =>
    dsimp only
    split
    · exact Moves.empty (by simp) rfl rfl
    · exact Moves.stay hb
  | ending st =>
    dsimp only
    split
    · exact Moves.over rfl
    · split <;> exact Moves.over (targets_endExecution _ _ _ _)

/-! ### Starts -/

theorem launch_tasks (w : Cluster) (i : Nat) (j : Job) (e : Execution) (fresh : Bool) :
    (w.launch i j e fresh).tasks =
      w.tasks ++ [(w.nextTask, .execution { coordinator := i, job := j, execution := e, fresh })] :=
  rfl

/-- A start touches the targets only by adding its job's missing ones; the executions it adds
carry its options, and the one run it may launch is of such an execution, fresh and about to
begin. -/
theorem startJob_adds (w : Cluster) (tn jn : String) (o : StartOptions) :
    ((w.startJob tn jn o).2.targets = w.targets ∨ ∃ j : Job, (w.startJob tn jn o).2.targets =
      (w.targets.insertMissing (j.targetIds.map (JobTarget.fresh j))).2) ∧
    (∀ e ∈ (w.startJob tn jn o).2.executions.executions, e ∉ w.executions.executions →
      e.options = o) ∧
    ∀ n x, (n, Task.execution x) ∈ (w.startJob tn jn o).2.tasks → (n, Task.execution x) ∉ w.tasks →
      x.execution.options = o ∧ x.fresh = true ∧ x.phase = .begin := by
  obtain ⟨c, hc⟩ := loadJob_snd w tn jn
  have hfail : ∀ w₁ : Cluster, w₁ = { w with jobCache := c } →
      (w₁.targets = w.targets ∨ ∃ j : Job, w₁.targets =
        (w.targets.insertMissing (j.targetIds.map (JobTarget.fresh j))).2) ∧
      (∀ e ∈ w₁.executions.executions, e ∉ w.executions.executions → e.options = o) ∧
      ∀ n x, (n, Task.execution x) ∈ w₁.tasks → (n, Task.execution x) ∉ w.tasks →
        x.execution.options = o ∧ x.fresh = true ∧ x.phase = .begin := by
    rintro w₁ rfl
    exact ⟨.inl rfl, fun e h hn => absurd h hn, fun n x h hn => absurd h hn⟩
  cases hl : w.loadJob tn jn with
  | mk r w₁ =>
    rw [hl] at hc
    dsimp only at hc
    cases r with
    | error err =>
      have he : (w.startJob tn jn o).2 = w₁ := by simp [startJob, hl]
      rw [he]
      exact hfail w₁ hc
    | ok j =>
      cases hv : (validate j >>= fun () => checkOptions j o) with
      | error err =>
        have he : (w.startJob tn jn o).2 = w₁ := by simp [startJob, hl, hv]
        rw [he]
        exact hfail w₁ hc
      | ok u =>
        subst hc
        -- the fresh id stays opaque: comparing records must not compute it
        obtain ⟨g, hg⟩ : ∃ g, w.ids.next = g := ⟨_, rfl⟩
        have hf : ∀ W : Cluster, W.ids = w.ids → W.freshId = (g.1, { W with ids := g.2 }) :=
          fun W hW => by
            rw [Cluster.freshId]
            dsimp only
            rw [hW, hg]
        simp only [startJob, hl, hv, hf, Cluster.config, Cluster.current, Cluster.nowMs]
        have hnew : ∀ {st : ExecutionStatus} {e : Execution},
            e ∈ w.executions.executions ++ [Execution.create g.1 tn jn o
              (w.coordinators.getLastD default).config.nodeId st (w.now / 1000)] →
            e ∉ w.executions.executions → e.options = o := fun he hn => by
          rcases List.mem_append.mp he with he | he
          · exact absurd he hn
          · rw [List.mem_singleton.mp he]
            rfl
        have hcases := ExecutionStore.tryBegin_cases w.executions tn jn o
          (w.coordinators.getLastD default).config.nodeId g.1 (w.now / 1000)
        rcases hcases with ⟨-, h'⟩ | ⟨-, -, h'⟩ | ⟨cur, -, -, h'⟩ <;> rw [h'] <;> simp only
        · refine ⟨.inr ⟨j, rfl⟩, fun e he hn => hnew he hn, fun n x hx hn => ?_⟩
          simp only [launch_tasks, List.mem_append, List.mem_singleton, Prod.mk.injEq,
            Task.execution.injEq] at hx
          rcases hx with hx | ⟨-, rfl⟩
          · exact absurd hx hn
          · exact ⟨rfl, rfl, rfl⟩
        · exact ⟨.inr ⟨j, rfl⟩, fun e he hn => hnew he hn, fun n x hx hn => absurd hx hn⟩
        · exact ⟨.inr ⟨j, rfl⟩, fun e he hn => absurd he hn, fun n x hx hn => absurd hx hn⟩

/-! ### Runs -/

/-- Every act of a run that holds participants only writes participants only, presents a
participant, and goes on holding participants only. -/
theorem stepExecution_confined (hx : x.Scoped) :
    Confined x.execution w (w.stepExecution x).2 ∧
      (∀ p ∈ (w.presentation x).toList, x.execution.Covers p.1.key) ∧
      ∀ x', (w.stepExecution x).1 = some x' → x' = { x with phase := x'.phase } ∧ x'.Scoped := by
  have hheld : ∀ t ∈ x.phase.waiting ++ (w.presentation x).toList.map Prod.fst,
      x.execution.Covers t.key := by
    intro t ht
    rcases List.mem_append.mp ht with ht | ht
    · exact hx t (List.mem_append_right _ ht)
    · obtain ⟨p, hp, rfl⟩ := List.mem_map.mp ht
      exact hx p.1 (List.mem_append_left _ (presentation_mem (Option.mem_toList.mp hp)))
  by_cases hb : x.phase = .begin
  · obtain ⟨p, hxo, -, hq, hw, hok, herr⟩ := stepExecution_begin (w := w) hb
    have hnp : w.presentation x = none := presentation_of_not_presenting (by simp [hb])
    refine ⟨?_, by simp [hnp], fun x' h => ?_⟩
    · cases hr : w.beginTargets x with
      | error err => exact .of_targets (by rw [herr err hr])
      | ok w₁ =>
        rw [hok w₁ hr]
        exact (beginTargets_confined hr).1
    · rw [hxo] at h
      cases h
      exact ⟨rfl, fun t ht => by simp [hq, hw] at ht⟩
  · have hm := stepExecution_moves (w := w) hb
    refine ⟨fun k hk => ?_, fun p hp => hheld p.1 (List.mem_append_right _
      (List.mem_map_of_mem hp)), fun x' h => ?_⟩
    · by_contra hne
      obtain ⟨t, ht, rfl⟩ := List.mem_map.mp (hm.written k hne)
      exact hk (hheld t ht)
    · obtain ⟨hx', -⟩ := hm.task x' h
      have he : x'.execution = x.execution := by rw [hx']
      refine ⟨hx', fun t ht => he ▸ ?_⟩
      rcases List.mem_append.mp ht with ht | ht
      · rcases hm.queue x' h with hq | ⟨-, hq⟩
        · exact hx t (List.mem_append_left _ (hq t ht))
        · exact (mem_participants.mp (hq t ht)).2
      · exact hheld t (hm.waiting x' h t ht)

end Cluster

open Cluster

variable {x₀ : ExecTask} {w₀ : Cluster} {xo : Option ExecTask} {w w' : Cluster} {n : Nat}
  {log : List (JobTarget × Nat)}

/-- A run of `x₀` from `w₀` that holds participants only reads, resets, presents and writes
participants only: every other target keeps its record, and the run goes on holding
participants only. -/
theorem Drives.confined (hx : x₀.Scoped) (hd : Drives x₀ w₀ xo w n log) :
    Confined x₀.execution w₀ w ∧ (∀ p ∈ log, x₀.execution.Covers p.1.key) ∧
      ∀ x, xo = some x → x = { x₀ with phase := x.phase } ∧ x.Scoped := by
  induction hd with
  | start => exact ⟨.of_targets rfl, by simp, fun x h => by cases h; exact ⟨rfl, hx⟩⟩
  | @act x w k log _ _ ih =>
    obtain ⟨hc, hlog, hxs⟩ := ih
    obtain ⟨hx₀, hsc⟩ := hxs x rfl
    have he : x.execution = x₀.execution := by rw [hx₀]
    obtain ⟨hc', hpres, hnext⟩ := stepExecution_confined (w := w) hsc
    refine ⟨hc.trans (he ▸ hc'), fun p hp => ?_, fun x' h => ?_⟩
    · rcases List.mem_append.mp hp with hp | hp
      · exact hlog p hp
      · exact he ▸ hpres p hp
    · obtain ⟨hx', hs'⟩ := hnext x' h
      exact ⟨hx'.trans (by rw [hx₀]), hs'⟩
  | quiet _ hq ih =>
    obtain ⟨hc, hlog, hxs⟩ := ih
    exact ⟨hc.trans (.of_targets hq.targets), hlog, hxs⟩

/-- What the run of `x₀` from `w₀` keeps along the way, with the targets it presented so far in
`log`: the store keeps its keys; until the first act the targets are as they were; once begun,
a participant not presented yet is stored as the run took it up, a target held to present and
not presented yet is that record, and a target waited on was presented. -/
structure TakenUp (x₀ : ExecTask) (w₀ : Cluster) (x : ExecTask) (w : Cluster)
    (log : List (JobTarget × Nat)) : Prop where
  task : x = { x₀ with phase := x.phase }
  keys : w.targets.targets.map JobTarget.key = w₀.targets.targets.map JobTarget.key
  unbegun : x.phase = .begin → w.targets = w₀.targets ∧ log = []
  stored : x.phase ≠ .begin → ∀ k, x₀.execution.Covers k → k ∉ log.map (·.1.key) →
    w.targets.find k = (w₀.targets.find k).map x₀.takeUp
  queued : ∀ t ∈ x.phase.queue, t.key ∉ log.map (·.1.key) →
    (w₀.targets.find t.key).map x₀.takeUp = some t
  waiting : ∀ t ∈ x.phase.waiting, t.key ∈ log.map (·.1.key)

def FirstTakenUp (x₀ : ExecTask) (w₀ : Cluster) (log : List (JobTarget × Nat)) : Prop :=
  ∀ k p, log.find? (fun q => decide (q.1.key = k)) = some p →
    (w₀.targets.find k).map x₀.takeUp = some p.1

theorem TakenUp.start (hp : x₀.phase = .begin) : TakenUp x₀ w₀ x₀ w₀ [] where
  task := rfl
  keys := rfl
  unbegun _ := ⟨rfl, rfl⟩
  stored hb := absurd hp hb
  queued t ht := by simp [hp, Phase.queue] at ht
  waiting t ht := by simp [hp, Phase.waiting] at ht

theorem TakenUp.quiet {x : ExecTask} (h : TakenUp x₀ w₀ x w log)
    (ht : w'.targets = w.targets) : TakenUp x₀ w₀ x w' log where
  task := h.task
  keys := ht ▸ h.keys
  unbegun hb := ht ▸ h.unbegun hb
  stored hb k hk hl := ht ▸ h.stored hb k hk hl
  queued := h.queued
  waiting := h.waiting

theorem TakenUp.begin {x : ExecTask} (h : TakenUp x₀ w₀ x w log) (hb : x.phase = .begin)
    (hk : (w₀.targets.targets.map JobTarget.key).Nodup) :
    log ++ (w.presentation x).toList = [] ∧
      ∀ x', (w.stepExecution x).1 = some x' → TakenUp x₀ w₀ x' (w.stepExecution x).2 [] := by
  obtain ⟨htw, rfl⟩ := h.unbegun hb
  have hx : x = { x₀ with phase := x.phase } := h.task
  have hnp : w.presentation x = none := presentation_of_not_presenting (by simp [hb])
  obtain ⟨p, hxo, hpb, hq, hw, hok, -⟩ := stepExecution_begin (w := w) hb
  obtain ⟨w₁, hr, hkeys, hfind⟩ := beginTargets_takeUp (w := w) (x := x) (by rw [htw]; exact hk)
  refine ⟨by simp [hnp], fun x' h' => ?_⟩
  rw [hxo] at h'
  cases h'
  rw [hok w₁ hr]
  refine ⟨by rw [hx], hkeys.trans (by rw [htw]), fun h => absurd h hpb, fun _ k hc _ => ?_,
    fun t ht => by simp [hq] at ht, fun t ht => by simp [hw] at ht⟩
  rw [hfind k (by rw [hx]; exact hc), htw, hx]
  rfl

/-- Every later act keeps what `TakenUp` says, and the target it presents, if its first
presentation, is shown as the run took it up. -/
theorem TakenUp.moves {x : ExecTask} (h : TakenUp x₀ w₀ x w log) (hf : FirstTakenUp x₀ w₀ log)
    (hb : x.phase ≠ .begin) (hk : (w₀.targets.targets.map JobTarget.key).Nodup) :
    FirstTakenUp x₀ w₀ (log ++ (w.presentation x).toList) ∧
      ∀ x', (w.stepExecution x).1 = some x' →
        TakenUp x₀ w₀ x' (w.stepExecution x).2 (log ++ (w.presentation x).toList) := by
  have hm := stepExecution_moves (w := w) hb
  have hx : x = { x₀ with phase := x.phase } := h.task
  have hsub : ∀ k ∈ log.map (·.1.key), k ∈ (log ++ (w.presentation x).toList).map (·.1.key) :=
    fun k hk => by rw [List.map_append]; exact List.mem_append_left _ hk
  have hpk : ∀ t ∈ (w.presentation x).toList.map Prod.fst,
      t.key ∈ (log ++ (w.presentation x).toList).map (·.1.key) := fun t ht => by
    obtain ⟨p, hp, rfl⟩ := List.mem_map.mp ht
    rw [List.map_append]
    exact List.mem_append_right _ (List.mem_map_of_mem hp)
  have hwr : ∀ k, k ∉ (log ++ (w.presentation x).toList).map (·.1.key) →
      (w.stepExecution x).2.targets.find k = w.targets.find k := fun k hk => by
    by_contra hne
    obtain ⟨t, ht, rfl⟩ := List.mem_map.mp (hm.written k hne)
    rcases List.mem_append.mp ht with ht | ht
    · exact hk (hsub _ (h.waiting t ht))
    · exact hk (hpk t ht)
  refine ⟨fun k p hp => ?_, fun x' h' => ?_⟩
  · rw [List.find?_append] at hp
    cases hl : log.find? (fun q => decide (q.1.key = k)) with
    | some q =>
      rw [hl] at hp
      cases hp
      exact hf k _ hl
    | none =>
      rw [hl, Option.none_or] at hp
      have hpm := List.mem_of_find?_eq_some hp
      have hpk : p.1.key = k := by simpa using List.find?_some hp
      have hnot : p.1.key ∉ log.map (·.1.key) := fun hm' => by
        obtain ⟨q, hq, hqk⟩ := List.mem_map.mp hm'
        exact absurd (List.find?_eq_none.mp hl q hq) (by simp [hqk, hpk])
      rw [← hpk]
      exact h.queued p.1 (presentation_mem (Option.mem_toList.mp hpm)) hnot
  · obtain ⟨hx', hb'⟩ := hm.task x' h'
    refine ⟨hx'.trans (by rw [hx]), hm.keys.trans h.keys, fun h => absurd h hb',
      fun _ k hc hl => ?_, fun t ht hl => ?_, fun t ht => ?_⟩
    · rw [hwr k hl]
      exact h.stored hb k hc fun hm' => hl (hsub k hm')
    · have hl' : t.key ∉ log.map (·.1.key) := fun hm' => hl (hsub _ hm')
      rcases hm.queue x' h' with hq | ⟨-, hq⟩
      · exact h.queued t (hq t ht) hl'
      · have ht' := mem_participants.mp (hq t ht)
        have hkw : (w.targets.targets.map JobTarget.key).Nodup := h.keys ▸ hk
        rw [← h.stored hb t.key (by rw [hx] at ht'; exact ht'.2) hl',
          TargetStore.find_of_mem hkw ht'.1]
    · rcases List.mem_append.mp (hm.waiting x' h' t ht) with ht | ht
      · exact hsub _ (h.waiting t ht)
      · exact hpk t ht

theorem Drives.takenUp (hp : x₀.phase = .begin) (hk : (w₀.targets.targets.map JobTarget.key).Nodup)
    (hd : Drives x₀ w₀ xo w n log) :
    FirstTakenUp x₀ w₀ log ∧ ∀ x, xo = some x → TakenUp x₀ w₀ x w log := by
  induction hd with
  | start => exact ⟨fun k p h => by simp at h, fun x h => by cases h; exact .start hp⟩
  | @act x w k log _ _ ih =>
    obtain ⟨hf, hx⟩ := ih
    have h := hx x rfl
    by_cases hb : x.phase = .begin
    · obtain ⟨hlog, hnext⟩ := h.begin hb hk
      obtain rfl : log = [] := (h.unbegun hb).2
      rw [hlog]
      exact ⟨fun k p h => by simp at h, hnext⟩
    · exact h.moves hf hb hk
  | quiet _ hq ih =>
    obtain ⟨hf, hx⟩ := ih
    exact ⟨hf, fun x h => (hx x h).quiet hq.targets⟩

/-- A start with options `o`, and every run of an execution, touch only the targets the options
take in. Adding the missing targets never stores a key twice and never overwrites a record, so
the start keeps every stored target as it was. What the start adds runs with `o`, freshly, at
once or once promoted. A run, from its first act, reads, resets, presents and writes
participants only, and every other target keeps its record; it shows each target at its first
presentation as it took it up, and stores that way every participant it has not presented yet:
as persisted when it does not reset, and queued at the start step with no failure, operation or
passes when a fresh start resets. -/
theorem start_touches_only_participants (w : Cluster) (tn jn : String) (o : StartOptions)
    (hkeys : (w.targets.targets.map JobTarget.key).Nodup) :
    (∀ (s : TargetStore) (ts : List JobTarget) (k : TargetKey),
      (s.insertMissing ts).2.find k = (s.find k).or (ts.find? fun t => decide (t.key = k))) ∧
    (((w.startJob tn jn o).2.targets.targets.map JobTarget.key).Nodup ∧
      ∀ k t, w.targets.find k = some t → (w.startJob tn jn o).2.targets.find k = some t) ∧
    (∀ e ∈ (w.startJob tn jn o).2.executions.executions, e ∉ w.executions.executions →
      e.options = o) ∧
    (∀ n x, (n, Task.execution x) ∈ (w.startJob tn jn o).2.tasks →
      (n, Task.execution x) ∉ w.tasks → x.execution.options = o ∧ x.fresh = true ∧ x.phase = .begin) ∧
    (∀ (s s' : ExecutionStore) node now e, s.promoteNext tn jn node now = (some e, s') →
      ∃ q ∈ s.executions, q.status = .queued ∧ q.executionId = e.executionId ∧
        q.options = e.options) ∧
    ∀ (x : ExecTask) (w₀ : Cluster), x.phase = .begin →
      (w₀.targets.targets.map JobTarget.key).Nodup →
      ∀ xo w₁ n log, Drives x w₀ xo w₁ n log →
        (∀ k, ¬ x.execution.Covers k → w₁.targets.find k = w₀.targets.find k) ∧
        (∀ p ∈ log, x.execution.Covers p.1.key) ∧
        (∀ k p, log.find? (fun q => decide (q.1.key = k)) = some p →
          ∃ t, w₀.targets.find k = some t ∧ p.1 = x.takeUp t) ∧
        ∀ x', xo = some x' → x'.phase ≠ .begin → ∀ k, x.execution.Covers k →
          k ∉ log.map (·.1.key) → w₁.targets.find k = (w₀.targets.find k).map x.takeUp := by
  obtain ⟨htargets, hexec, htasks⟩ := startJob_adds w tn jn o
  refine ⟨TargetStore.find_insertMissing, ⟨?_, fun k t hk => ?_⟩, hexec, htasks,
    fun s s' node now e h => ExecutionStore.promoteNext_options h, ?_⟩
  · rcases htargets with h | ⟨j, h⟩ <;> rw [h]
    · exact hkeys
    · exact TargetStore.nodup_insertMissing _ hkeys
  · rcases htargets with h | ⟨j, h⟩ <;> rw [h]
    · exact hk
    · rw [TargetStore.find_insertMissing, hk]
      rfl
  · intro x w₀ hp hk xo w₁ n log hd
    have hs : x.Scoped := by simp [ExecTask.Scoped, hp, Phase.queue, Phase.waiting]
    obtain ⟨hc, hlog, -⟩ := hd.confined hs
    obtain ⟨hf, ht⟩ := hd.takenUp hp hk
    refine ⟨hc, hlog, fun k p h => ?_, fun x' hx' hb k hc hl => (ht x' hx').stored hb k hc hl⟩
    obtain ⟨t, ht, he⟩ := Option.map_eq_some_iff.mp (hf k p h)
    exact ⟨t, ht, he.symm⟩

def pairJob : Job :=
  { readJob with targetIds := ["gw-1", "gw-2"] }

def pairCluster : Cluster :=
  { heldCluster with jobs := [pairJob], targets := ⟨[parkedTarget]⟩ }

def firstOnly : StartOptions :=
  { targetIdSublist := ["gw-1"], resetStepIndex := true }

theorem first_only_start_touches_only_it :
    (pairCluster.targets.targets.map JobTarget.key).Nodup ∧
    (∀ (s : TargetStore) (ts : List JobTarget) (k : TargetKey),
      (s.insertMissing ts).2.find k = (s.find k).or (ts.find? fun t => decide (t.key = k))) ∧
    (((pairCluster.startJob "1" "cmd" firstOnly).2.targets.targets.map JobTarget.key).Nodup ∧
      ∀ k t, pairCluster.targets.find k = some t →
        (pairCluster.startJob "1" "cmd" firstOnly).2.targets.find k = some t) ∧
    (∀ e ∈ (pairCluster.startJob "1" "cmd" firstOnly).2.executions.executions,
      e ∉ pairCluster.executions.executions → e.options = firstOnly) ∧
    (∀ n x, (n, Task.execution x) ∈ (pairCluster.startJob "1" "cmd" firstOnly).2.tasks →
      (n, Task.execution x) ∉ pairCluster.tasks →
        x.execution.options = firstOnly ∧ x.fresh = true ∧ x.phase = .begin) ∧
    (∀ (s s' : ExecutionStore) node now e, s.promoteNext "1" "cmd" node now = (some e, s') →
      ∃ q ∈ s.executions, q.status = .queued ∧ q.executionId = e.executionId ∧
        q.options = e.options) ∧
    ∀ (x : ExecTask) (w₀ : Cluster), x.phase = .begin →
      (w₀.targets.targets.map JobTarget.key).Nodup →
      ∀ xo w₁ n log, Drives x w₀ xo w₁ n log →
        (∀ k, ¬ x.execution.Covers k → w₁.targets.find k = w₀.targets.find k) ∧
        (∀ p ∈ log, x.execution.Covers p.1.key) ∧
        (∀ k p, log.find? (fun q => decide (q.1.key = k)) = some p →
          ∃ t, w₀.targets.find k = some t ∧ p.1 = x.takeUp t) ∧
        ∀ x', xo = some x' → x'.phase ≠ .begin → ∀ k, x.execution.Covers k →
          k ∉ log.map (·.1.key) → w₁.targets.find k = (w₀.targets.find k).map x.takeUp :=
  ⟨List.nodup_singleton _,
    start_touches_only_participants pairCluster "1" "cmd" firstOnly (List.nodup_singleton _)⟩

/-- Starting `pairJob` keeps its parked first target and adds the second, fresh. -/
example : (pairCluster.startJob "1" "cmd" firstOnly).2.targets.targets =
    [parkedTarget, JobTarget.fresh pairJob "gw-2"] := by
  decide

end DeviceFleet.Engine
