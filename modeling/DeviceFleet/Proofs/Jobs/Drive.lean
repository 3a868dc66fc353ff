import DeviceFleet.Proofs.Jobs.Passes
import DeviceFleet.Proofs.Jobs.CommandOnce
import Mathlib.Data.List.InsertIdx

/-!
# An execution's run ends, completed

A run that acts amid quiet steps (`Drives`) lowers a measure with every act (`runMeasure`) and
keeps `Healthy`, so a run from a valid job and valid options ends completed, every target
presented in step order (`run_ends_completed`).
-/

namespace DeviceFleet.Job

theorem TargetProgress.isTerminal_iff {p : TargetProgress} {n : Nat} (h : p.stepIndex < n) :
    p.isTerminal n = true ↔
      p.status = .processFailed ∨ (p.status = .processOk ∧ p.stepIndex + 1 = n) := by
  obtain ⟨i, st⟩ := p
  dsimp only at h
  cases st with
  | processOk =>
    simp [TargetProgress.isTerminal, TargetProgress.nextStep]
    omega
  | _ => simp [TargetProgress.isTerminal, TargetProgress.nextStep, h]

end DeviceFleet.Job

namespace DeviceFleet.Engine

open Job

def Phase.index : Phase → Option Nat
  | .stepTop i | .presenting i .. | .pausing i _ => some i
  | _ => none

def ExecTask.awaiting (x : ExecTask) (k : TargetKey) (j : Nat) : Nat :=
  match x.phase with
  | .presenting i _ active _ _ => if i = j ∧ k ∈ active.map (·.target.key) then 1 else 0
  | _ => 0

def timesPresented (log : List (JobTarget × Nat)) (k : TargetKey) (j : Nat) : Nat :=
  log.countP fun p => decide (p.1.key = k ∧ p.2 = j)

namespace Cluster

def againLimit (w : Cluster) (x : ExecTask) : Nat :=
  (w.coordinator x.coordinator).config.maxAgainPasses

def Running (w : Cluster) (x : ExecTask) : Prop :=
  ∃ cur, w.executions.find x.execution.tenantId x.execution.jobId x.execution.executionId =
    some cur ∧ cur.status = .running

def passesLeftFor (w : Cluster) (x : ExecTask) (k : TargetKey) (j : Nat) : Nat :=
  ((w.targets.find k).map (JobTarget.passesLeft (w.againLimit x) x.job.stepCount j)).getD 0

/-- The target an act of the run of `x` presents, and the step: the first one queued, when no
reply is in, the pass has room for one more, and the run was not asked to stop. -/
def presentation (w : Cluster) (x : ExecTask) : Option (JobTarget × Nat) :=
  match x.phase with
  | .presenting i (t :: _) active _ _ =>
    if active.findIdx? (fun k => w.replyReady k.wait) = none ∧ active.length < w.width x ∧
        w.cancelled x = false then some (t, i)
    else none
  | _ => none

end Cluster

def PendingFrom (i n : Nat) (ts : List JobTarget) : Prop :=
  ∀ t ∈ ts, ∀ j, t.progress.isPendingFor j n = true → i ≤ j

def InPass (i n : Nat) (ts L : List JobTarget) : Prop :=
  (L.map JobTarget.key).Nodup ∧ ∀ t ∈ L, t ∈ ts ∧ t.progress.isPendingFor i n = true

namespace Cluster

/-- What the phase of the run of `x` says of its targets. Before it begins, the step `base`
is at most the one a fresh reset queues the targets at, or else the earliest they are pending
for. -/
def PhaseHolds (base : Nat) (w : Cluster) (x : ExecTask) : Prop :=
  match x.phase with
  | .begin =>
    if x.fresh && x.execution.options.resetStepIndex then
      base ≤ x.execution.options.fromStepIndex.getD 0 ∧
        x.execution.options.fromStepIndex.getD 0 < x.job.stepCount
    else PendingFrom base x.job.stepCount (w.participants x.execution)
  | .stepTop i | .pausing i _ =>
    base ≤ i ∧ PendingFrom i x.job.stepCount (w.participants x.execution)
  | .presenting i queue active _ failed =>
    base ≤ i ∧ failed = false ∧ PendingFrom i x.job.stepCount (w.participants x.execution) ∧
      InPass i x.job.stepCount (w.participants x.execution) (queue ++ active.map Work.target)
  | .ending status =>
    status = .completed ∧
      ∀ t ∈ w.participants x.execution, t.progress.isTerminal x.job.stepCount = true

/-- What holds of the run of `x` from step `base` between its acts, with the targets it
presented so far, each with its step, in `log`. -/
structure Healthy (base : Nat) (w : Cluster) (x : ExecTask) (log : List (JobTarget × Nat)) :
    Prop where
  keys : (w.targets.targets.map JobTarget.key).Nodup
  running : w.Running x
  live : w.cancelled x = false
  targets : ∀ t ∈ w.participants x.execution, t.progress.stepIndex < x.job.stepCount ∧
    (t.progress.isTerminal x.job.stepCount = false → t.againPasses ≤ w.againLimit x)
  phase : w.PhaseHolds base x
  presented : ∀ p ∈ log, p.1.progress.isPendingFor p.2 x.job.stepCount = true ∧ base ≤ p.2
  sorted : log.Pairwise fun p q => p.2 ≤ q.2
  below : ∀ p ∈ log, ∀ i, x.phase.index = some i → p.2 ≤ i
  begun : x.phase = .begin → log = []
  counted : ∀ k j, timesPresented log k j + w.passesLeftFor x k j ≤
    w.againLimit x + 1 + x.awaiting k j

/-- What is left of the run of `x`: steps left, each weighing more than the passes a step can
take; the passes left at the current step; and within a pass, the targets still to present and
those waiting. -/
def runMeasure (w : Cluster) : Option ExecTask → Nat
  | none => 0
  | some x =>
    let n := x.job.stepCount
    let ts := w.participants x.execution
    let m := w.againLimit x
    let K := 5 * (ts.length * (m + 1)) + 5
    let left := fun i => 5 * passesLeftAt m n i ts + (n - i) * K
    match x.phase with
    | .begin => (n + 2) * K
    | .stepTop i => left i + 2
    | .presenting i queue active _ _ => left i + 4 - 3 * queue.length - 4 * active.length
    | .pausing i _ => left i + 3
    | .ending _ => 1

/-- What may happen between the acts of the run of `x`: the targets stay as they are, the
execution stays running, and the coordinator keeps its settings and is not shut down. -/
structure Quiet (x : ExecTask) (w w' : Cluster) : Prop where
  targets : w'.targets = w.targets
  running : w'.Running x
  config : (w'.coordinator x.coordinator).config = (w.coordinator x.coordinator).config
  shutdown : (w'.coordinator x.coordinator).shutdown = false

end Cluster

open Cluster

/-- A run of the task `x₀` from `w₀`: its acts, each when it is ready, and quiet steps between
them; with the number of acts and the targets presented, in order, with their steps. -/
inductive Drives (x₀ : ExecTask) (w₀ : Cluster) :
    Option ExecTask → Cluster → Nat → List (JobTarget × Nat) → Prop
  | start : Drives x₀ w₀ (some x₀) w₀ 0 []
  | act {x : ExecTask} {w : Cluster} {k : Nat} {log : List (JobTarget × Nat)} :
      Drives x₀ w₀ (some x) w k log → w.taskReady (.execution x) = true →
      Drives x₀ w₀ (w.stepExecution x).1 (w.stepExecution x).2 (k + 1)
        (log ++ (w.presentation x).toList)
  | quiet {x : ExecTask} {w w' : Cluster} {k : Nat} {log : List (JobTarget × Nat)} :
      Drives x₀ w₀ (some x) w k log → Quiet x w w' → Drives x₀ w₀ (some x) w' k log

namespace Cluster

variable {base : Nat} {w w' : Cluster} {x : ExecTask} {log : List (JobTarget × Nat)}

/-! ### Quiet steps -/

theorem participants_of_targets (h : w'.targets = w.targets) (e : Execution) :
    w'.participants e = w.participants e := by
  unfold participants
  rw [h]

theorem againLimit_of_config
    (h : (w'.coordinator x.coordinator).config = (w.coordinator x.coordinator).config) :
    w'.againLimit x = w.againLimit x := by
  unfold againLimit
  rw [h]

theorem Quiet.participants (hq : Quiet x w w') (e : Execution) :
    w'.participants e = w.participants e :=
  participants_of_targets hq.targets e

theorem Quiet.passesLeftFor_eq (hq : Quiet x w w') (k : TargetKey) (j : Nat) :
    w'.passesLeftFor x k j = w.passesLeftFor x k j := by
  unfold Cluster.passesLeftFor
  rw [hq.targets, againLimit_of_config hq.config]

theorem Quiet.phaseHolds (hq : Quiet x w w') (h : w.PhaseHolds base x) : w'.PhaseHolds base x := by
  unfold PhaseHolds at h ⊢
  rw [hq.participants]
  exact h

theorem Healthy.quiet (h : w.Healthy base x log) (hq : Quiet x w w') : w'.Healthy base x log where
  keys := hq.targets ▸ h.keys
  running := hq.running
  live := by
    have hl := h.live
    unfold cancelled at hl ⊢
    rw [hq.shutdown]
    simp only [Bool.or_eq_false_iff] at hl
    simpa using hl.1
  targets := by
    rw [hq.participants, againLimit_of_config hq.config]
    exact h.targets
  phase := hq.phaseHolds h.phase
  presented := h.presented
  sorted := h.sorted
  below := h.below
  begun := h.begun
  counted k j := by
    rw [hq.passesLeftFor_eq, againLimit_of_config hq.config]
    exact h.counted k j

theorem Quiet.runMeasure (hq : Quiet x w w') : w'.runMeasure (some x) = w.runMeasure (some x) := by
  simp only [Cluster.runMeasure, hq.participants, againLimit_of_config hq.config]

/-! ### What the acts leave alone -/

/-- What a run reads of a cluster, besides its clock and its replies: the targets, the
executions and the coordinators. -/
structure Keeps (w w' : Cluster) : Prop where
  targets : w'.targets = w.targets
  executions : w'.executions = w.executions
  coordinators : w'.coordinators = w.coordinators

theorem Untouched.keeps (h : Untouched w w') : Keeps w w' :=
  ⟨h.targets, h.executions, h.coordinators⟩

theorem keeps_startTarget (w : Cluster) (x : ExecTask) (j : Nat) (t : JobTarget) :
    Keeps w (w.startTarget x j t).2 := by
  rcases startTarget_cases w x j t with hu | ⟨_, -, hs⟩
  · exact hu.keeps
  · exact ⟨hs.targets, hs.executions, hs.coordinators⟩

theorem keeps_resumeWork (w : Cluster) (k : Work) : Keeps w (w.resumeWork k).2.2 :=
  (untouched_resumeWork k).keeps

theorem againLimit_of_coordinators (h : w'.coordinators = w.coordinators) (x : ExecTask) :
    w'.againLimit x = w.againLimit x := by
  unfold Cluster.againLimit Cluster.coordinator
  rw [h]

theorem cancelled_of_coordinators (h : w'.coordinators = w.coordinators) (x : ExecTask) :
    w'.cancelled x = w.cancelled x := by
  unfold Cluster.cancelled Cluster.coordinator
  rw [h]

theorem running_of_executions (h : w'.executions = w.executions) : w'.Running x ↔ w.Running x := by
  unfold Running
  rw [h]

theorem Keeps.againLimit (h : Keeps w w') (x : ExecTask) : w'.againLimit x = w.againLimit x :=
  againLimit_of_coordinators h.coordinators x

theorem Keeps.cancelled (h : Keeps w w') (x : ExecTask) : w'.cancelled x = w.cancelled x :=
  cancelled_of_coordinators h.coordinators x

theorem Keeps.running (h : Keeps w w') (hr : w.Running x) : w'.Running x :=
  (running_of_executions h.executions).mpr hr

theorem Keeps.participants (h : Keeps w w') (e : Execution) :
    w'.participants e = w.participants e :=
  participants_of_targets h.targets e

theorem Keeps.passesLeftFor (h : Keeps w w') (x : ExecTask) (k : TargetKey) (j : Nat) :
    w'.passesLeftFor x k j = w.passesLeftFor x k j := by
  unfold Cluster.passesLeftFor
  rw [h.targets, h.againLimit]

/-! ### Storing a pass -/

variable {i j : Nat} {t : JobTarget} {r : Except String TargetOutcome}

theorem storeTarget_ok (hk : (w.targets.targets.map JobTarget.key).Nodup)
    (ht : t ∈ w.targets.targets) (x : ExecTask) (i : Nat) (r : Except String TargetOutcome) :
    ∃ more s, w.targets.update (driveTarget (w.againLimit x) i x.job.stepCount t r) =
        .ok ({ driveTarget (w.againLimit x) i x.job.stepCount t r with version := t.version + 1 },
          s) ∧
      w.storeTarget x i t r = .ok (more, { w with targets := s }) := by
  obtain ⟨hkey, hver⟩ := key_driveTarget (w.againLimit x) i x.job.stepCount t r
  have hf : w.targets.find (driveTarget (w.againLimit x) i x.job.stepCount t r).key = some t := by
    rw [hkey]
    exact TargetStore.find_of_mem hk ht
  obtain ⟨s, hs⟩ := TargetStore.update_of_find hf hver.symm
  rw [hver] at hs
  have hs' := hs
  simp only [Cluster.againLimit] at hs'
  unfold storeTarget
  simp only [hs']
  exact ⟨_, s, hs, rfl⟩

/-- `w'` is `w` with the record of `t` rewritten to `t'` in place, and nothing else a run reads
changed. -/
structure Rewrites (t t' : JobTarget) (w w' : Cluster) : Prop where
  key : t'.key = t.key
  keys : w'.targets.targets.map JobTarget.key = w.targets.targets.map JobTarget.key
  find : ∀ k, w'.targets.find k = if k = t.key then some t' else w.targets.find k
  participants : ∀ e, w'.participants e =
    (w.participants e).map fun y => if y.key = t.key then t' else y
  executions : w'.executions = w.executions
  coordinators : w'.coordinators = w.coordinators

theorem rewrites_of_update {w₁ : Cluster} {d t' : JobTarget} {s : TargetStore} (hk : Keeps w w₁)
    (hs : w₁.targets.update d = .ok (t', s)) (hkey : d.key = t.key) :
    Rewrites t t' w { w₁ with targets := s } := by
  obtain ⟨rfl, hst⟩ := TargetStore.targets_update hs
  refine ⟨hkey, ?_, fun k => ?_, fun e => ?_, hk.executions, hk.coordinators⟩
  · show s.targets.map JobTarget.key = _
    rw [hst, List.map_map, ← hk.targets]
    refine List.map_congr_left fun y _ => ?_
    simp only [Function.comp_apply]
    split
    · rename_i hy
      exact hy.symm
    · rfl
  · show s.find k = _
    rw [TargetStore.find_update hs k, hkey, hk.targets]
  · rw [participants_update hs e, hk.participants, hkey]

theorem Rewrites.keeps_execution (hw : Rewrites t t' w w') : w'.Running x ↔ w.Running x :=
  running_of_executions hw.executions

theorem Rewrites.againLimit (hw : Rewrites t t' w w') (x : ExecTask) :
    w'.againLimit x = w.againLimit x :=
  againLimit_of_coordinators hw.coordinators x

theorem Rewrites.cancelled (hw : Rewrites t t' w w') (x : ExecTask) :
    w'.cancelled x = w.cancelled x :=
  cancelled_of_coordinators hw.coordinators x

theorem Rewrites.passesLeftFor (hw : Rewrites t t' w w') (x : ExecTask) (k : TargetKey) (j : Nat) :
    w'.passesLeftFor x k j = if k = t.key then t'.passesLeft (w.againLimit x) x.job.stepCount j
      else w.passesLeftFor x k j := by
  unfold Cluster.passesLeftFor
  rw [hw.find, hw.againLimit]
  split <;> rfl

end Cluster

/-! ### The targets of a pass -/

section Pass

variable {i j n : Nat} {t t' : JobTarget} {ts L L' : List JobTarget}

theorem not_terminal_of_pending {p : TargetProgress} (h : p.isPendingFor j n = true) :
    p.isTerminal n = false := by
  simp only [TargetProgress.isPendingFor, decide_eq_true_eq] at h
  simp [TargetProgress.isTerminal, h]

theorem forall_replace {p : JobTarget → Prop} (h : ∀ y ∈ ts, p y) (ht' : p t') :
    ∀ y ∈ ts.map (fun y => if y.key = t.key then t' else y), p y := by
  intro y hy
  obtain ⟨u, hu, rfl⟩ := List.mem_map.mp hy
  split
  · exact ht'
  · exact h u hu

theorem InPass.perm (h : InPass i n ts L) (hp : L.Perm L') : InPass i n ts L' :=
  ⟨(hp.map JobTarget.key).nodup_iff.mp h.1, fun t ht => h.2 t (hp.mem_iff.mpr ht)⟩

theorem InPass.rewrite (h : InPass i n ts (t :: L')) :
    InPass i n (ts.map fun y => if y.key = t.key then t' else y) L' := by
  obtain ⟨hk, hL⟩ := h
  rw [List.map_cons, List.nodup_cons] at hk
  refine ⟨hk.2, fun u hu => ⟨?_, (hL u (List.mem_cons_of_mem t hu)).2⟩⟩
  have hne : u.key ≠ t.key := fun he => hk.1 (he ▸ List.mem_map_of_mem hu)
  exact List.mem_map.mpr ⟨u, (hL u (List.mem_cons_of_mem t hu)).1, if_neg hne⟩

theorem InPass.length_le {m : Nat} (h : InPass i n ts L)
    (hpass : ∀ t ∈ ts, t.progress.isTerminal n = false → t.againPasses ≤ m) :
    L.length ≤ passesLeftAt m n i ts :=
  length_le_passesLeftAt (List.Nodup.of_map _ h.1) (fun t ht => (h.2 t ht).1) fun t ht =>
    JobTarget.passesLeft_pos (h.2 t ht).2
      (hpass t (h.2 t ht).1 (not_terminal_of_pending (h.2 t ht).2))

end Pass

namespace Cluster

variable {base i j : Nat} {w w' : Cluster} {x : ExecTask} {log : List (JobTarget × Nat)}
  {t t' : JobTarget} {r : Except String TargetOutcome}

/-! ### An act that stores a pass -/

theorem passesLeftFor_of_mem (hk : (w.targets.targets.map JobTarget.key).Nodup)
    (ht : t ∈ w.participants x.execution) (j : Nat) :
    w.passesLeftFor x t.key j = t.passesLeft (w.againLimit x) x.job.stepCount j := by
  unfold Cluster.passesLeftFor
  rw [TargetStore.find_of_mem hk (mem_targets_of_participant ht)]
  rfl

/-- The presentation counts stay within the passes allowed when the pass of `t` at step `i` is
stored: the count for `t` at `i` grows by at most what its passes there shrink, and at a later
step nothing was presented yet. -/
theorem counted_rewrite (x' : ExecTask) {log' : List (JobTarget × Nat)}
    (hc : ∀ k j, timesPresented log k j + w.passesLeftFor x k j ≤
      w.againLimit x + 1 + x.awaiting k j)
    (hw : Rewrites t t' w w') (hx : x'.job = x.job) (hlim : w.againLimit x' = w.againLimit x)
    (hx' : ∀ k j, w.passesLeftFor x' k j = w.passesLeftFor x k j)
    (ht : w.passesLeftFor x t.key i = t.passesLeft (w.againLimit x) x.job.stepCount i)
    (hfewer : t'.passesLeft (w.againLimit x) x.job.stepCount i <
      t.passesLeft (w.againLimit x) x.job.stepCount i)
    (hafter : ∀ j, t'.progress.isPendingFor j x.job.stepCount = true → i ≤ j)
    (hbelow : ∀ p ∈ log', p.2 ≤ i)
    (hshift : ∀ k j, timesPresented log' k j + x.awaiting k j ≤
      timesPresented log k j + x'.awaiting k j + if k = t.key ∧ j = i then 1 else 0)
    (k : TargetKey) (j : Nat) :
    timesPresented log' k j + w'.passesLeftFor x' k j ≤ w'.againLimit x' + 1 + x'.awaiting k j := by
  have hc := hc k j
  have hs := hshift k j
  rw [hw.passesLeftFor, hw.againLimit, hlim, hx, hx']
  by_cases hk : k = t.key
  · subst hk
    rw [if_pos rfl]
    rcases Nat.lt_trichotomy j i with hj | rfl | hj
    · have h0 : t'.passesLeft (w.againLimit x) x.job.stepCount j = 0 := by
        apply JobTarget.passesLeft_of_not_pending
        cases hpj : t'.progress.isPendingFor j x.job.stepCount with
        | false => rfl
        | true => exact absurd (hafter j hpj) (by omega)
      rw [if_neg (by omega)] at hs
      omega
    · rw [if_pos ⟨rfl, rfl⟩] at hs
      rw [ht] at hc
      omega
    · have h0 : timesPresented log' t.key j = 0 := by
        refine List.countP_eq_zero.mpr fun p hp hpk => ?_
        have := hbelow p hp
        simp only [decide_eq_true_eq] at hpk
        omega
      have := t'.passesLeft_le (w.againLimit x) x.job.stepCount j
      omega
  · rw [if_neg hk]
    rw [if_neg fun hh => hk hh.1] at hs
    omega

theorem PhaseHolds.presenting {q : List JobTarget} {a : List Work} {again : Nat} {f : Bool}
    (h : w.PhaseHolds base x) (hp : x.phase = .presenting i q a again f) :
    base ≤ i ∧ f = false ∧ PendingFrom i x.job.stepCount (w.participants x.execution) ∧
      InPass i x.job.stepCount (w.participants x.execution) (q ++ a.map Work.target) := by
  simpa only [PhaseHolds, hp] using h

theorem log_append {t : JobTarget} (h : w.Healthy base x log) {x' : ExecTask}
    (hi : x.phase.index = some i) (hi' : x'.phase.index = some i) (hbase : base ≤ i)
    (htp : t.progress.isPendingFor i x.job.stepCount = true) :
    (∀ p ∈ log ++ [(t, i)], p.1.progress.isPendingFor p.2 x.job.stepCount = true ∧ base ≤ p.2) ∧
      (log ++ [(t, i)]).Pairwise (fun p q => p.2 ≤ q.2) ∧
      ∀ p ∈ log ++ [(t, i)], ∀ j, x'.phase.index = some j → p.2 ≤ j := by
  refine ⟨fun p hp' => ?_, List.pairwise_append.mpr ⟨h.sorted, List.pairwise_singleton _ _,
    fun p hp' q hq => ?_⟩, fun p hp' j hj => ?_⟩
  · rcases List.mem_append.mp hp' with hp' | hp'
    · exact h.presented p hp'
    · rw [List.mem_singleton.mp hp']
      exact ⟨htp, hbase⟩
  · rw [List.mem_singleton.mp hq]
    exact h.below p hp' i hi
  · rw [hi'] at hj
    cases hj
    rcases List.mem_append.mp hp' with hp' | hp'
    · exact h.below p hp' i hi
    · obtain rfl := List.mem_singleton.mp hp'
      exact Nat.le_refl i

/-- Storing the pass of `t`, one of the targets of the pass at step `i`, keeps the run healthy
with the others in the pass, and takes away at least one of the passes left at the step. -/
theorem Healthy.stored {q q' : List JobTarget} {a a' : List Work} {again again' : Nat}
    (h : w.Healthy base x log) (hp : x.phase = .presenting i q a again false)
    (hperm : (q ++ a.map Work.target).Perm (t :: (q' ++ a'.map Work.target)))
    (hw : Rewrites t { driveTarget (w.againLimit x) i x.job.stepCount t r with
      version := t.version + 1 } w w')
    {log' : List (JobTarget × Nat)} (hlog : log' = log ∨ log' = log ++ [(t, i)])
    (hshift : ∀ k j, timesPresented log' k j + x.awaiting k j ≤ timesPresented log k j +
      ({ x with phase := .presenting i q' a' again' false } : ExecTask).awaiting k j +
        if k = t.key ∧ j = i then 1 else 0) :
    w'.Healthy base { x with phase := .presenting i q' a' again' false } log' ∧
      passesLeftAt (w.againLimit x) x.job.stepCount i (w'.participants x.execution) <
        passesLeftAt (w.againLimit x) x.job.stepCount i (w.participants x.execution) ∧
      (w'.participants x.execution).length = (w.participants x.execution).length := by
  obtain ⟨hbase, -, hfrom, hpass⟩ := h.phase.presenting hp
  have hmem : t ∈ q ++ a.map Work.target := hperm.mem_iff.mpr List.mem_cons_self
  obtain ⟨htP, htp⟩ := hpass.2 t hmem
  have hta := (h.targets t htP).2 (not_terminal_of_pending htp)
  obtain ⟨hidx, hafter, hpasses⟩ := driveTarget_after (m := w.againLimit x) (r := r) htp
  have hfewer := @passesLeftAt_replace (w.againLimit x) x.job.stepCount i t
    { driveTarget (w.againLimit x) i x.job.stepCount t r with version := t.version + 1 } _
    (h.keys.sublist ((participants_sublist w x.execution).map JobTarget.key)) htP
  have hlt := passesLeft_driveTarget_lt (r := r) htp hta
  have hi : x.phase.index = some i := by rw [hp]; rfl
  obtain ⟨hpr, hso, hbe⟩ : (∀ p ∈ log', p.1.progress.isPendingFor p.2 x.job.stepCount = true ∧
        base ≤ p.2) ∧ log'.Pairwise (fun p q => p.2 ≤ q.2) ∧
      ∀ p ∈ log', ∀ j, (Phase.presenting i q' a' again' false).index = some j → p.2 ≤ j := by
    rcases hlog with rfl | rfl
    · exact ⟨h.presented, h.sorted, fun p hp' j hj => by cases hj; exact h.below p hp' i hi⟩
    · exact log_append h hi
        (show ({ x with phase := .presenting i q' a' again' false } : ExecTask).phase.index =
          some i from rfl) hbase htp
  refine ⟨⟨hw.keys ▸ h.keys, (hw.keeps_execution).mpr h.running, (hw.cancelled _).trans h.live,
    ?_, ?_, hpr, hso, hbe, (fun h' => by cases h'), fun k j => ?_⟩, ?_, ?_⟩
  · rw [hw.participants, hw.againLimit]
    have hn : (driveTarget (w.againLimit x) i x.job.stepCount t r).progress.stepIndex <
        x.job.stepCount := by
      rw [hidx]
      exact lt_of_pending htp
    exact forall_replace h.targets ⟨hn, hpasses⟩
  · show base ≤ i ∧ false = false ∧ _ ∧ _
    rw [hw.participants]
    exact ⟨hbase, rfl, forall_replace hfrom hafter, (hpass.perm hperm).rewrite⟩
  · exact counted_rewrite { x with phase := .presenting i q' a' again' false } h.counted hw rfl rfl
      (fun _ _ => rfl) (passesLeftFor_of_mem h.keys htP i) hlt hafter
      (fun p hp' => hbe p hp' i rfl) hshift k j
  · rw [hw.participants]
    exact Nat.lt_of_add_lt_add_right (hfewer ▸ Nat.add_lt_add_left hlt _)
  · rw [hw.participants, List.length_map]

/-! ### One act -/

@[simp] theorem againLimit_phase (w : Cluster) (x : ExecTask) (p : Phase) :
    w.againLimit { x with phase := p } = w.againLimit x := rfl

@[simp] theorem passesLeftFor_phase (w : Cluster) (x : ExecTask) (p : Phase) (k : TargetKey)
    (j : Nat) : w.passesLeftFor { x with phase := p } k j = w.passesLeftFor x k j := rfl

def KeepsDone (x : ExecTask) (w w' : Cluster) : Prop :=
  ∀ t ∈ w.participants x.execution, t.progress.isTerminal x.job.stepCount = true →
    t ∈ w'.participants x.execution

/-- An act from `w` to `w'` after which the run of `x` goes on as `x'`: it does not begin
again, it allows as many passes, and once the run has begun it leaves the targets that are
done alone. -/
structure Settles (x x' : ExecTask) (w w' : Cluster) : Prop where
  begun : x'.phase ≠ .begin
  limit : w'.againLimit x' = w.againLimit x
  done : x.phase ≠ .begin → KeepsDone x w w'

theorem Keeps.rfl : Keeps w w := ⟨Eq.refl _, Eq.refl _, Eq.refl _⟩

theorem Keeps.settles {p : Phase} (hk : Keeps w w') (hp : p ≠ .begin) :
    Settles x { x with phase := p } w w' :=
  ⟨hp, hk.againLimit x, fun _ _ ht _ => hk.participants _ ▸ ht⟩

theorem Healthy.countOverflows_eq_false {t : JobTarget} {j : Nat} (h : w.Healthy base x log)
    (hm : w.againLimit x < maxPassCount) (ht : t ∈ w.participants x.execution)
    (hpend : t.progress.isPendingFor j x.job.stepCount = true) (r : Except String TargetOutcome) :
    countOverflows t r = false :=
  Job.countOverflows_eq_false
    (Nat.lt_of_le_of_lt ((h.targets t ht).2 (not_terminal_of_pending hpend)) hm) r

theorem Healthy.key_ne {t u : JobTarget} (h : w.Healthy base x log)
    (hu : u ∈ w.participants x.execution) (hdone : u.progress.isTerminal x.job.stepCount = true)
    (ht : t ∈ w.participants x.execution) (hpend : t.progress.isPendingFor i x.job.stepCount = true) :
    u.key ≠ t.key := by
  intro hk
  have hut : u = t := List.inj_on_of_nodup_map h.keys (mem_targets_of_participant hu)
    (mem_targets_of_participant ht) hk
  rw [hut, not_terminal_of_pending hpend] at hdone
  cases hdone

theorem Healthy.settles {t t' : JobTarget} {p : Phase} (h : w.Healthy base x log)
    (ht : t ∈ w.participants x.execution) (hpend : t.progress.isPendingFor i x.job.stepCount = true)
    (hw : Rewrites t t' w w') (hp : p ≠ .begin) : Settles x { x with phase := p } w w' := by
  refine ⟨hp, hw.againLimit x, fun _ u hu hdone => ?_⟩
  rw [hw.participants]
  exact List.mem_map.mpr ⟨u, hu, if_neg (h.key_ne hu hdone ht hpend)⟩

/-- An act of the run of `x` from `w`, with result `res`, lowers what is left of the run; a run
that goes on is the same task at a new phase, healthy with the act's presentation logged. -/
structure Advances (base : Nat) (w : Cluster) (x : ExecTask) (log : List (JobTarget × Nat))
    (res : Option ExecTask × Cluster) : Prop where
  drops : res.2.runMeasure res.1 < w.runMeasure (some x)
  next : ∀ x', res.1 = some x' → x' = { x with phase := x'.phase } ∧
    res.2.Healthy base x' (log ++ (w.presentation x).toList)
  settles : ∀ x', res.1 = some x' → Settles x x' w res.2
  ends : res.1 = none → ∃ st, x.phase = .ending st

theorem Healthy.rephase {p : Phase} (h : w.Healthy base x log)
    (hph : w.PhaseHolds base { x with phase := p })
    (hidx : ∀ q ∈ log, ∀ i, p.index = some i → q.2 ≤ i) (hbeg : p ≠ .begin)
    (haw : ∀ k j, x.awaiting k j ≤ ({ x with phase := p } : ExecTask).awaiting k j) :
    w.Healthy base { x with phase := p } log where
  keys := h.keys
  running := h.running
  live := h.live
  targets := h.targets
  phase := hph
  presented := h.presented
  sorted := h.sorted
  below := hidx
  begun he := absurd he hbeg
  counted k j := by
    have := h.counted k j
    have := haw k j
    simp only [Cluster.passesLeftFor, Cluster.againLimit] at *
    omega

theorem presentation_of_not_presenting (hp : ∀ i q a again f, x.phase ≠ .presenting i q a again f) :
    w.presentation x = none := by
  unfold presentation
  split
  · rename_i i t q a again f heq
    exact absurd heq (hp i (t :: q) a again f)
  · rfl

theorem Healthy.advances_to {p : Phase} (h : w.Healthy base x log)
    (he : w.stepExecution x = (some { x with phase := p }, w)) (hnp : w.presentation x = none)
    (hdrop : w.runMeasure (some { x with phase := p }) < w.runMeasure (some x))
    (hph : w.PhaseHolds base { x with phase := p })
    (hidx : ∀ q ∈ log, ∀ i, p.index = some i → q.2 ≤ i) (hbeg : p ≠ .begin)
    (haw : ∀ k j, x.awaiting k j ≤ ({ x with phase := p } : ExecTask).awaiting k j) :
    Advances base w x log (w.stepExecution x) := by
  rw [he]
  refine ⟨hdrop, fun x' hx => ?_, fun x' hx => by cases hx; exact Keeps.rfl.settles hbeg,
    fun hx => by cases hx⟩
  cases hx
  refine ⟨rfl, ?_⟩
  rw [hnp, Option.toList_none, List.append_nil]
  exact h.rephase hph hidx hbeg haw

theorem advances_ending {st : ExecutionStatus} (hp : x.phase = .ending st) :
    Advances base w x log (w.stepExecution x) := by
  have h1 : (w.stepExecution x).1 = none := by
    simp only [stepExecution, hp]
    split
    · rfl
    · split <;> rfl
  refine ⟨?_, (fun x' hx => by rw [h1] at hx; cases hx), (fun x' hx => by rw [h1] at hx; cases hx),
    fun _ => ⟨st, hp⟩⟩
  rw [h1]
  simp [runMeasure, hp]

theorem advances_pausing {wakeAt : Int} (h : w.Healthy base x log)
    (hp : x.phase = .pausing i wakeAt) (hr : w.taskReady (.execution x) = true) :
    Advances base w x log (w.stepExecution x) := by
  have hr' : (w.cancelled x || decide (wakeAt ≤ w.now)) = true := by
    simpa only [taskReady, hp] using hr
  have he : w.stepExecution x = (some { x with phase := .stepTop i }, w) := by
    simp only [stepExecution, hp, hr', if_true]
  have hph : base ≤ i ∧ PendingFrom i x.job.stepCount (w.participants x.execution) := by
    simpa only [PhaseHolds, hp] using h.phase
  exact h.advances_to he (presentation_of_not_presenting (by simp [hp]))
    (by simp [runMeasure, hp, Cluster.againLimit]) hph
    (fun q hq j hj => h.below q hq j (by rw [hp]; exact hj)) (by simp)
    (by simp [ExecTask.awaiting, hp])

theorem advances_stepTop (h : w.Healthy base x log) (hp : x.phase = .stepTop i) :
    Advances base w x log (w.stepExecution x) := by
  obtain ⟨hbase, hfrom⟩ : base ≤ i ∧
      PendingFrom i x.job.stepCount (w.participants x.execution) := by
    simpa only [PhaseHolds, hp] using h.phase
  obtain ⟨cur, hfind, hcur⟩ := h.running
  have hlive := h.live
  have hnp := presentation_of_not_presenting (w := w) (x := x) (by simp [hp])
  have hbelow : ∀ q ∈ log, q.2 ≤ i := fun q hq => h.below q hq i (by rw [hp]; rfl)
  have haw : ∀ k j, x.awaiting k j = 0 := by simp [ExecTask.awaiting, hp]
  by_cases hi : x.job.stepCount ≤ i
  · have he : w.stepExecution x = (some { x with phase := .ending .completed }, w) := by
      simp [stepExecution, hp, hi]
    refine h.advances_to he hnp (by simp [runMeasure, hp]) ⟨rfl, fun t ht => ?_⟩
      (fun _ _ _ hj => by cases hj) (by simp) (by simp [haw])
    cases hns : t.progress.nextStep x.job.stepCount with
    | none => simp [TargetProgress.isTerminal, hns]
    | some j =>
      have hpj : t.progress.isPendingFor j x.job.stepCount = true := by
        simp [TargetProgress.isPendingFor, hns]
      exact absurd (hfrom t ht j hpj) (by have := lt_of_pending hpj; omega)
  · by_cases hemp :
        ((w.participants x.execution).filter (·.progress.isPendingFor i x.job.stepCount)).isEmpty
    · have he : w.stepExecution x = (some { x with phase := .stepTop (i + 1) }, w) := by
        simp [stepExecution, hp, hi, hlive, hfind, hcur, hemp]
      have hnone : ∀ t ∈ w.participants x.execution,
          t.progress.isPendingFor i x.job.stepCount = false := by
        simpa [List.filter_eq_nil_iff] using hemp
      have h0 : passesLeftAt (w.againLimit x) x.job.stepCount i (w.participants x.execution) = 0 :=
        passesLeftAt_eq_zero hnone
      have h1 : passesLeftAt (w.againLimit x) x.job.stepCount (i + 1) (w.participants x.execution) ≤
          (w.participants x.execution).length * (w.againLimit x + 1) := passesLeftAt_le
      refine h.advances_to he hnp ?_ ⟨by omega, fun t ht j hj => ?_⟩
        (fun q hq j hj => by cases hj; have := hbelow q hq; omega) (by simp) (by simp [haw])
      · -- a whole step's weight is gone, more than the passes of the next step
        have h2 : ∀ K, (x.job.stepCount - i) * K = (x.job.stepCount - (i + 1)) * K + K := by
          intro K
          rw [show x.job.stepCount - i = x.job.stepCount - (i + 1) + 1 by omega, Nat.succ_mul]
        simp only [runMeasure, hp, againLimit_phase, h2, h0]
        omega
      · have := hfrom t ht j hj
        have hne : j ≠ i := fun hji => by rw [hji, hnone t ht] at hj; cases hj
        omega
    · have he : w.stepExecution x = (some { x with
          phase := .presenting i
            ((w.participants x.execution).filter (·.progress.isPendingFor i x.job.stepCount)) [] 0
            false }, w) := by
        simp [stepExecution, hp, hi, hlive, hfind, hcur, hemp]
      have hne : 0 < ((w.participants x.execution).filter
          (·.progress.isPendingFor i x.job.stepCount)).length := by
        cases hl : (w.participants x.execution).filter (·.progress.isPendingFor i x.job.stepCount)
        · rw [hl] at hemp
          exact absurd rfl hemp
        · simp
      refine h.advances_to he hnp ?_ ⟨hbase, rfl, hfrom, ?_, fun t ht => ?_⟩
        (fun q hq j hj => by cases hj; exact hbelow q hq) (by simp) (by simp [haw])
      · simp only [runMeasure, hp, againLimit_phase, List.length_nil]
        omega
      · rw [List.map_nil, List.append_nil]
        exact h.keys.sublist
          ((List.filter_sublist.trans (participants_sublist w x.execution)).map _)
      · rw [List.map_nil, List.append_nil, List.mem_filter] at ht
        exact ht

/-! ### Acts of a pass -/

theorem perm_eraseIdx {α : Type} {a : List α} {k : Nat} (hk : k < a.length) :
    a.Perm (a[k] :: a.eraseIdx k) := by
  have h := List.perm_insertIdx a[k] (a.eraseIdx k) (i := k)
    (by rw [List.length_eraseIdx_of_lt hk]; omega)
  rwa [List.insertIdx_eraseIdx_getElem hk] at h

theorem presentation_of_ready {q : List JobTarget} {a : List Work} {again : Nat} {f : Bool}
    {k : Nat} (hp : x.phase = .presenting i q a again f)
    (hidx : a.findIdx? (fun k => w.replyReady k.wait) = some k) : w.presentation x = none := by
  unfold presentation
  rw [hp]
  split
  · rename_i heq
    cases heq
    simp [hidx]
  · rfl

/-- An act that stores the pass of `t`, one of the targets of the pass at step `i`, and goes on
presenting the others advances the run: the passes left at the step drop, and the queue and
the waiting targets lose at most one place in all. -/
theorem Healthy.advances_stored {q q' : List JobTarget} {a a' : List Work} {again again' : Nat}
    (h : w.Healthy base x log) (hp : x.phase = .presenting i q a again false)
    (hperm : (q ++ a.map Work.target).Perm (t :: (q' ++ a'.map Work.target)))
    (hw : Rewrites t { driveTarget (w.againLimit x) i x.job.stepCount t r with
      version := t.version + 1 } w w')
    (he : w.stepExecution x = (some { x with phase := .presenting i q' a' again' false }, w'))
    (hlog : (w.presentation x).toList = [] ∨ (w.presentation x).toList = [(t, i)])
    (hshift : ∀ k j, timesPresented (log ++ (w.presentation x).toList) k j + x.awaiting k j ≤
      timesPresented log k j +
        ({ x with phase := .presenting i q' a' again' false } : ExecTask).awaiting k j +
          if k = t.key ∧ j = i then 1 else 0)
    (hlen : 3 * q.length + 4 * a.length ≤ 3 * q'.length + 4 * a'.length + 4) :
    Advances base w x log (w.stepExecution x) := by
  obtain ⟨-, -, -, hpass⟩ := h.phase.presenting hp
  obtain ⟨ht, hpend⟩ := hpass.2 t (hperm.mem_iff.mpr List.mem_cons_self)
  have hlog' : log ++ (w.presentation x).toList = log ∨
      log ++ (w.presentation x).toList = log ++ [(t, i)] :=
    hlog.imp (fun e => by rw [e, List.append_nil]) fun e => by rw [e]
  obtain ⟨hH, hμ, hl⟩ := h.stored hp hperm hw hlog' hshift
  -- the pass holds no more targets than the passes left at the step
  have hq := hpass.length_le (m := w.againLimit x) fun u hu => (h.targets u hu).2
  rw [List.length_append, List.length_map] at hq
  rw [he]
  refine ⟨?_, fun x' hx => ?_, fun x' hx => by cases hx; exact h.settles ht hpend hw (by simp),
    fun hx => by cases hx⟩
  · show runMeasure _ (some _) < runMeasure _ (some _)
    simp only [runMeasure, hp, againLimit_phase, hl, hw.againLimit]
    omega
  · cases hx
    exact ⟨rfl, hH⟩

theorem advances_resume {q : List JobTarget} {a : List Work} {again k : Nat}
    (h : w.Healthy base x log) (hm : w.againLimit x < maxPassCount)
    (hp : x.phase = .presenting i q a again false)
    (hidx : a.findIdx? (fun k => w.replyReady k.wait) = some k) :
    Advances base w x log (w.stepExecution x) := by
  obtain ⟨hk, -, -⟩ := List.findIdx?_eq_some_iff_getElem.mp hidx
  obtain ⟨-, -, -, hpass⟩ := h.phase.presenting hp
  have hperm : (q ++ a.map Work.target).Perm
      (a[k].target :: (q ++ (a.eraseIdx k).map Work.target)) :=
    (((perm_eraseIdx hk).map Work.target).append_left q).trans List.perm_middle
  have hkeep := keeps_resumeWork w a[k]
  obtain ⟨ht, hpend⟩ := hpass.2 _ (hperm.mem_iff.mpr List.mem_cons_self)
  have hov := h.countOverflows_eq_false hm ht hpend (w.resumeWork a[k]).2.1
  obtain ⟨more, s, hs, hst⟩ := storeTarget_ok (w := (w.resumeWork a[k]).2.2)
    (hkeep.targets ▸ h.keys) (hkeep.targets ▸ mem_targets_of_participant ht) x i
    (w.resumeWork a[k]).2.1
  rw [hkeep.againLimit] at hs
  have hw := rewrites_of_update hkeep hs (key_driveTarget _ _ _ _ _).1
  have he : w.stepExecution x = (some { x with
      phase := .presenting i q (a.eraseIdx k) (if more then again + 1 else again) false },
      { (w.resumeWork a[k]).2.2 with targets := s }) := by
    simp only [stepExecution, hp, hidx, List.getElem?_eq_getElem hk, resumeWork_target, passStored,
      hov, Bool.false_eq_true, if_false, hst]
  have hnone := presentation_of_ready hp hidx
  refine h.advances_stored hp hperm hw he (.inl (by rw [hnone]; rfl)) (fun k' j => ?_) ?_
  · rw [hnone, Option.toList_none, List.append_nil]
    have hmem := fun hm : k' ∈ a.map (·.target.key) =>
      List.mem_cons.mp (((perm_eraseIdx hk).map (·.target.key)).mem_iff.mp hm)
    simp only [ExecTask.awaiting, hp]
    by_cases h1 : i = j ∧ k' ∈ a.map (·.target.key)
    · rw [if_pos h1]
      rcases hmem h1.2 with h2 | h2
      · have h3 : k' = a[k].target.key ∧ j = i := ⟨h2, h1.1.symm⟩
        rw [if_pos h3]
        omega
      · have h3 : i = j ∧ k' ∈ (a.eraseIdx k).map (·.target.key) := ⟨h1.1, h2⟩
        rw [if_pos h3]
        omega
    · rw [if_neg h1]
      omega
  · rw [List.length_eraseIdx_of_lt hk]
    omega

theorem timesPresented_append (log : List (JobTarget × Nat)) (t : JobTarget) (i : Nat)
    (k : TargetKey) (j : Nat) :
    timesPresented (log ++ [(t, i)]) k j =
      timesPresented log k j + if t.key = k ∧ i = j then 1 else 0 := by
  simp [timesPresented, List.countP_append]

theorem awaiting_same {q rest : List JobTarget} {a : List Work} {again again' : Nat}
    {f f' : Bool} (hp : x.phase = .presenting i q a again f) (k : TargetKey) (j : Nat) :
    ({ x with phase := .presenting i rest a again' f' } : ExecTask).awaiting k j =
      x.awaiting k j := by
  simp only [ExecTask.awaiting, hp]

theorem awaiting_append {q rest : List JobTarget} {a : List Work} {again again' : Nat}
    {f f' : Bool} {work : Work} (hp : x.phase = .presenting i q a again f)
    (hnot : work.target.key ∉ a.map (·.target.key)) (k : TargetKey) (j : Nat) :
    ({ x with phase := .presenting i rest (a ++ [work]) again' f' } : ExecTask).awaiting k j =
      x.awaiting k j + if work.target.key = k ∧ i = j then 1 else 0 := by
  simp only [ExecTask.awaiting, hp, List.map_append, List.map_singleton, List.mem_append,
    List.mem_singleton]
  by_cases h1 : i = j <;> by_cases h2 : k = work.target.key
  · subst h2
    simp [h1, hnot]
  · simp [h1, h2, Ne.symm h2]
  · simp [h1]
  · simp [h1]

/-- Presenting the first queued target either leaves it waiting for its reply, or stores its
pass at once. -/
theorem advances_start {rest : List JobTarget} {a : List Work} {again : Nat}
    (h : w.Healthy base x log) (hm : w.againLimit x < maxPassCount)
    (hp : x.phase = .presenting i (t :: rest) a again false)
    (hidx : a.findIdx? (fun k => w.replyReady k.wait) = none) (hroom : a.length < w.width x) :
    Advances base w x log (w.stepExecution x) := by
  obtain ⟨hbase, -, hfrom, hpass⟩ := h.phase.presenting hp
  have hlive := h.live
  have hpres : w.presentation x = some (t, i) := by
    simp [presentation, hp, hidx, hroom, hlive]
  have ht := hpass.2 t (by simp)
  have hq := hpass.length_le (m := w.againLimit x) fun u hu => (h.targets u hu).2
  rw [List.length_append, List.length_map, List.length_cons] at hq
  have hi : x.phase.index = some i := by rw [hp]; rfl
  have hnot : t.key ∉ a.map (·.target.key) := by
    have hk := hpass.1
    rw [List.cons_append, List.map_cons, List.nodup_cons, List.map_append, List.map_map] at hk
    exact fun hm => hk.1 (List.mem_append_right _ hm)
  rcases hst : w.startTarget x i t with ⟨r | work, w₁⟩
  · have hkeep : Keeps w w₁ := by
      have := keeps_startTarget w x i t
      rwa [hst] at this
    obtain ⟨more, s, hs, hst2⟩ := storeTarget_ok (w := w₁) (hkeep.targets ▸ h.keys)
      (hkeep.targets ▸ mem_targets_of_participant ht.1) x i r
    rw [hkeep.againLimit] at hs
    have hw := rewrites_of_update hkeep hs (key_driveTarget _ _ _ _ _).1
    have he : w.stepExecution x = (some { x with
        phase := .presenting i rest a (if more then again + 1 else again) false },
        { w₁ with targets := s }) := by
      simp only [stepExecution, hp, hidx, ge_iff_le, Nat.not_le.mpr hroom, if_false, hlive,
        Bool.false_eq_true, hst, passStored, h.countOverflows_eq_false hm ht.1 ht.2 r, hst2]
    refine h.advances_stored hp (List.Perm.refl _) hw he (.inr (by rw [hpres]; rfl))
      (fun k j => ?_) (by simp only [List.length_cons]; omega)
    rw [hpres, Option.toList_some, timesPresented_append, awaiting_same hp]
    by_cases hkj : k = t.key ∧ j = i
    · rw [if_pos ⟨hkj.1.symm, hkj.2.symm⟩, if_pos hkj]
      omega
    · rw [if_neg fun hh => hkj ⟨hh.1.symm, hh.2.symm⟩, if_neg hkj]
      omega
  · have hkeep : Keeps w w₁ := by
      have := keeps_startTarget w x i t
      rwa [hst] at this
    have hwork : work.target = t := startTarget_target (by rw [hst])
    have he : w.stepExecution x = (some { x with
        phase := .presenting i rest (a ++ [work]) again false }, w₁) := by
      simp only [stepExecution, hp, hidx, ge_iff_le, Nat.not_le.mpr hroom, if_false, hlive,
        Bool.false_eq_true, hst]
    rw [he]
    refine ⟨?_, fun x' hx => ?_,
      fun x' hx => by cases hx; exact hkeep.settles (by simp), fun hx => by cases hx⟩
    · show runMeasure _ (some _) < runMeasure _ (some _)
      simp only [runMeasure, hp, againLimit_phase, hkeep.participants, hkeep.againLimit,
        List.length_append, List.length_cons]
      omega
    · cases hx
      refine ⟨rfl, ?_⟩
      dsimp only
      rw [hpres, Option.toList_some]
      obtain ⟨hpr, hso, hbe⟩ := log_append h hi
        (show ({ x with phase := .presenting i rest (a ++ [work]) again false } : ExecTask).phase.index =
          some i from rfl) hbase ht.2
      refine ⟨hkeep.targets ▸ h.keys, hkeep.running h.running, (hkeep.cancelled _).trans hlive,
        ?_, ?_, hpr, hso, hbe, (fun hb => by cases hb), fun k j => ?_⟩
      · rw [hkeep.participants, hkeep.againLimit]
        exact h.targets
      · show base ≤ i ∧ false = false ∧ _ ∧ _
        rw [hkeep.participants]
        refine ⟨hbase, rfl, hfrom, hpass.perm ?_⟩
        rw [List.map_append, List.map_singleton, hwork, ← List.append_assoc, List.cons_append]
        exact (List.perm_append_singleton t _).symm
      · have hc := h.counted k j
        rw [timesPresented_append, hkeep.passesLeftFor, hkeep.againLimit, passesLeftFor_phase,
          againLimit_phase, awaiting_append hp (hwork ▸ hnot), hwork]
        omega

theorem advances_passEnd {again : Nat} (h : w.Healthy base x log)
    (hp : x.phase = .presenting i [] [] again false) :
    Advances base w x log (w.stepExecution x) := by
  obtain ⟨hbase, -, hfrom, -⟩ := h.phase.presenting hp
  have hnp : w.presentation x = none := by simp [presentation, hp]
  have hbelow : ∀ q ∈ log, ∀ j, (Phase.index (.stepTop i)) = some j → q.2 ≤ j := by
    intro q hq j hj
    cases hj
    exact h.below q hq i (by rw [hp]; rfl)
  have haw : ∀ k j, x.awaiting k j = 0 := by simp [ExecTask.awaiting, hp]
  by_cases hag : again > 0
  · have he : w.stepExecution x = (some { x with
        phase := .pausing i (w.now + (w.coordinator x.coordinator).config.againDelayMs * 1000) },
        w) := by
      simp [stepExecution, hp, hag]
    exact h.advances_to he hnp (by simp [runMeasure, hp]) ⟨hbase, hfrom⟩ hbelow (by simp)
      (by simp [haw])
  · have he : w.stepExecution x = (some { x with phase := .stepTop i }, w) := by
      simp [stepExecution, hp, hag]
    exact h.advances_to he hnp (by simp [runMeasure, hp]) ⟨hbase, hfrom⟩ hbelow (by simp)
      (by simp [haw])

theorem advances_presenting {q : List JobTarget} {a : List Work} {again : Nat} {f : Bool}
    (h : w.Healthy base x log) (hm : w.againLimit x < maxPassCount)
    (hp : x.phase = .presenting i q a again f) (hr : w.taskReady (.execution x) = true) :
    Advances base w x log (w.stepExecution x) := by
  obtain ⟨-, hf, -, -⟩ := h.phase.presenting hp
  subst hf
  cases hidx : a.findIdx? (fun k => w.replyReady k.wait) with
  | some k => exact advances_resume h hm hp hidx
  | none =>
    have hany : a.any (fun k => w.replyReady k.wait) = false := by
      simpa using List.findIdx?_eq_none_iff.mp hidx
    have hr' : ((!q.isEmpty && decide (a.length < w.width x)) || (q.isEmpty && a.isEmpty)) =
        true := by
      simpa [taskReady, hp, hany] using hr
    cases q with
    | cons t rest =>
      have hroom : a.length < w.width x := by simpa using hr'
      exact advances_start h hm hp hidx hroom
    | nil =>
      have ha : a = [] := by simpa using hr'
      subst ha
      exact advances_passEnd h hp

/-! ### The first act -/

theorem passesLeftFor_le (w : Cluster) (x : ExecTask) (k : TargetKey) (j : Nat) :
    w.passesLeftFor x k j ≤ w.againLimit x + 1 := by
  unfold Cluster.passesLeftFor
  cases w.targets.find k with
  | none => exact Nat.zero_le _
  | some t => exact t.passesLeft_le _ _ _

theorem counted_nil (w : Cluster) (x : ExecTask) (k : TargetKey) (j : Nat) :
    timesPresented [] k j + w.passesLeftFor x k j ≤ w.againLimit x + 1 + x.awaiting k j := by
  have := passesLeftFor_le w x k j
  simp only [timesPresented, List.countP_nil]
  omega

@[simp] theorem againLimit_targets (w : Cluster) (s : TargetStore) (x : ExecTask) :
    ({ w with targets := s } : Cluster).againLimit x = w.againLimit x := rfl

/-- The targets a run begins with: queued again at the start step for a fresh start that asks
for a reset, or as they are. Either way they are the same many, at steps of the job, none
pending before `base`. -/
theorem begin_targets (h : w.Healthy base x log) (hp : x.phase = .begin) :
    ∃ s, (if x.fresh && x.execution.options.resetStepIndex then
        w.resetTargets x.execution (x.execution.options.fromStepIndex.getD 0) else .ok w) =
        .ok { w with targets := s } ∧
      (s.targets.map JobTarget.key).Nodup ∧
      (({ w with targets := s } : Cluster).participants x.execution).length =
        (w.participants x.execution).length ∧
      (∀ t ∈ ({ w with targets := s } : Cluster).participants x.execution,
        t.progress.stepIndex < x.job.stepCount ∧
          (t.progress.isTerminal x.job.stepCount = false → t.againPasses ≤ w.againLimit x)) ∧
      PendingFrom base x.job.stepCount (({ w with targets := s } : Cluster).participants x.execution) := by
  have hph := h.phase
  simp only [PhaseHolds, hp] at hph
  by_cases hr : (x.fresh && x.execution.options.resetStepIndex) = true
  · rw [if_pos hr] at hph ⊢
    obtain ⟨hb, hn⟩ := hph
    obtain ⟨s, hres, hP, hkeys⟩ :=
      resetTargets_eq h.keys x.execution (x.execution.options.fromStepIndex.getD 0)
    refine ⟨s, hres, hkeys ▸ h.keys, by rw [hP, List.length_map], ?_, ?_⟩
    · rw [hP]
      intro t ht
      obtain ⟨u, -, rfl⟩ := List.mem_map.mp ht
      exact ⟨hn, fun _ => Nat.zero_le _⟩
    · rw [hP]
      intro t ht j hj
      obtain ⟨u, -, rfl⟩ := List.mem_map.mp ht
      simp only [JobTarget.reset, TargetProgress.queued, pending_iff_of_progress] at hj
      omega
  · rw [if_neg hr] at hph ⊢
    exact ⟨w.targets, rfl, h.keys, rfl, h.targets, hph⟩

theorem Healthy.begun_with {s : TargetStore} {p : Phase} (h : w.Healthy base x log)
    (hkeys : (s.targets.map JobTarget.key).Nodup)
    (htargets : ∀ t ∈ ({ w with targets := s } : Cluster).participants x.execution,
      t.progress.stepIndex < x.job.stepCount ∧
        (t.progress.isTerminal x.job.stepCount = false → t.againPasses ≤ w.againLimit x))
    (hph : ({ w with targets := s } : Cluster).PhaseHolds base { x with phase := p })
    (hp : p ≠ .begin) :
    ({ w with targets := s } : Cluster).Healthy base { x with phase := p } [] where
  keys := hkeys
  running := h.running
  live := h.live
  targets := htargets
  phase := hph
  presented := by simp
  sorted := List.Pairwise.nil
  below := by simp
  begun he := absurd he hp
  counted := counted_nil _ _

/-- The first act resets the targets if asked, then enters the earliest step a target is
pending for, or ends the run completed when there is none. -/
theorem advances_begin (h : w.Healthy base x log) (hp : x.phase = .begin) :
    Advances base w x log (w.stepExecution x) := by
  have hlog : log = [] := h.begun hp
  subst hlog
  have hnp : w.presentation x = none := presentation_of_not_presenting (by simp [hp])
  obtain ⟨s, hreset, hkeys, hlen, htargets, hfrom⟩ := begin_targets h hp
  obtain ⟨hnone, hsome⟩ := resumeStep_spec
    ((({ w with targets := s } : Cluster).participants x.execution).map (·.progress))
    x.job.stepCount
  have hK : ∀ K i, (x.job.stepCount - i) * K ≤ x.job.stepCount * K :=
    fun K i => Nat.mul_le_mul_right _ (Nat.sub_le _ _)
  have hadd : ∀ K, (x.job.stepCount + 2) * K = x.job.stepCount * K + 2 * K :=
    fun K => Nat.add_mul _ _ _
  have hlog : ([] : List (JobTarget × Nat)) ++ (w.presentation x).toList = [] := by
    rw [hnp, Option.toList_none, List.append_nil]
  cases hrs : resumeStep
      ((({ w with targets := s } : Cluster).participants x.execution).map (·.progress))
      x.job.stepCount with
  | none =>
    have he : w.stepExecution x =
        (some { x with phase := .ending .completed }, { w with targets := s }) := by
      simp only [stepExecution, hp]
      rw [hreset]
      simp only [hrs]
    rw [he]
    refine ⟨?_, fun x' hx => ?_,
      fun x' hx => by cases hx; exact ⟨by simp, rfl, fun hb => absurd hp hb⟩, fun hx => by cases hx⟩
    · show 1 < _
      simp only [runMeasure, hp, hadd]
      omega
    · cases hx
      rw [hlog]
      refine ⟨rfl, h.begun_with hkeys htargets ⟨rfl, fun t ht => ?_⟩ (by simp)⟩
      have := (hnone.mp hrs) t.progress (List.mem_map_of_mem ht)
      simp [TargetProgress.isTerminal, this]
  | some i =>
    have he : w.stepExecution x = (some { x with phase := .stepTop i }, { w with targets := s }) := by
      simp only [stepExecution, hp]
      rw [hreset]
      simp only [hrs]
    rw [he]
    obtain ⟨⟨p, hpm, hpi⟩, hmin⟩ := hsome i hrs
    obtain ⟨t₀, ht₀, rfl⟩ := List.mem_map.mp hpm
    have hbase : base ≤ i := hfrom t₀ ht₀ i (by simp [TargetProgress.isPendingFor, hpi])
    refine ⟨?_, fun x' hx => ?_,
      fun x' hx => by cases hx; exact ⟨by simp, rfl, fun hb => absurd hp hb⟩, fun hx => by cases hx⟩
    · show runMeasure _ (some _) < runMeasure _ (some _)
      have hμ : passesLeftAt (w.againLimit x) x.job.stepCount i
          (({ w with targets := s } : Cluster).participants x.execution) ≤
          (w.participants x.execution).length * (w.againLimit x + 1) :=
        hlen ▸ passesLeftAt_le
      simp only [runMeasure, hp, againLimit_phase, againLimit_targets, hlen, hadd]
      have := hK (5 * ((w.participants x.execution).length * (w.againLimit x + 1)) + 5) i
      omega
    · cases hx
      rw [hlog]
      refine ⟨rfl, h.begun_with hkeys htargets ⟨hbase, fun t ht j hj => ?_⟩ (by simp)⟩
      exact hmin t.progress (List.mem_map_of_mem ht) j
        (by simpa [TargetProgress.isPendingFor] using hj)

theorem Healthy.advances (h : w.Healthy base x log) (hm : w.againLimit x < maxPassCount)
    (hr : w.taskReady (.execution x) = true) : Advances base w x log (w.stepExecution x) := by
  cases hp : x.phase with
  | begin => exact advances_begin h hp
  | stepTop i => exact advances_stepTop h hp
  | presenting i q a again f => exact advances_presenting h hm hp hr
  | pausing i wakeAt => exact advances_pausing h hp hr
  | ending st => exact advances_ending hp

/-! ### What a healthy run is at -/

theorem Healthy.presentation_pending {p : JobTarget × Nat} (h : w.Healthy base x log)
    (hp : w.presentation x = some p) :
    p.1 ∈ w.participants x.execution ∧ p.1.progress.isPendingFor p.2 x.job.stepCount = true := by
  unfold presentation at hp
  split at hp
  · rename_i i t q a again f hph
    split_ifs at hp
    cases hp
    exact (h.phase.presenting hph).2.2.2.2 t List.mem_cons_self
  · cases hp

theorem Healthy.timesPresented_le (h : w.Healthy base x log) (k : TargetKey) (j : Nat) :
    timesPresented log k j ≤ w.againLimit x + 1 := by
  have hc := h.counted k j
  unfold ExecTask.awaiting at hc
  split at hc
  · rename_i i q a again f hp
    split_ifs at hc with hk
    · obtain ⟨rfl, hka⟩ := hk
      obtain ⟨u, hu, rfl⟩ := List.mem_map.mp hka
      obtain ⟨huP, hpend⟩ := (h.phase.presenting hp).2.2.2.2 u.target
        (List.mem_append_right _ (List.mem_map_of_mem hu))
      have hpos := JobTarget.passesLeft_pos (m := w.againLimit x) hpend
        ((h.targets _ huP).2 (not_terminal_of_pending hpend))
      rw [passesLeftFor_of_mem h.keys huP] at hc
      omega
    · omega
  · omega

/-- A run that is ready acts; one that is not wakes by itself, at an instant from which it is
ready whatever else happened meanwhile: a pass waits on a reply that times out, and a pause
ends. -/
theorem ready_or_wakes (w : Cluster) (x : ExecTask) :
    w.taskReady (.execution x) = true ∨ ∃ t, taskWake? (.execution x) = some t ∧
      ∀ w' : Cluster, t ≤ w'.now → w'.taskReady (.execution x) = true := by
  cases hp : x.phase with
  | begin => exact .inl (by simp [taskReady, hp])
  | stepTop i => exact .inl (by simp [taskReady, hp])
  | ending st => exact .inl (by simp [taskReady, hp])
  | pausing i wakeAt =>
    exact .inr ⟨wakeAt, by simp [taskWake?, hp], fun w' hw => by simp [taskReady, hp, hw]⟩
  | presenting i q a again f =>
    cases a with
    | nil =>
      -- with nothing waiting, a pass can always present or end
      have hw : 0 < w.width x := Nat.lt_of_lt_of_le Nat.zero_lt_one (Nat.le_max_left _ _)
      exact .inl (by cases q <;> simp [taskReady, hp, hw])
    | cons u a =>
      obtain ⟨d, hd⟩ : ∃ d, ((u :: a).map (·.wait.deadline)).min? = some d :=
        Option.isSome_iff_exists.mp (List.isSome_min?_of_mem (List.mem_map_of_mem List.mem_cons_self))
      obtain ⟨v, hv, rfl⟩ := List.mem_map.mp (List.min?_mem hd)
      refine .inr ⟨v.wait.deadline, by simp only [taskWake?, hp, hd], fun w' hw => ?_⟩
      have hready : w'.replyReady v.wait = true := by simp [replyReady, hw]
      simp only [taskReady, hp, Bool.or_eq_true, List.any_eq_true]
      exact .inl (.inl ⟨v, hv, hready⟩)

end Cluster

/-! ### Runs -/

section Runs

variable {base : Nat} {w : Cluster} {log : List (JobTarget × Nat)}

/-- Along a run from a healthy start, under a limit of passes below the counter's largest count,
the acts so far and what is left of the run never come to more than what was left at the start,
and a run that goes on is the same task, healthy, with all it presented logged. -/
theorem Drives.healthy {x₀ : ExecTask} {w₀ : Cluster} {log₀ : List (JobTarget × Nat)}
    {xo : Option ExecTask} {k : Nat} (h₀ : w₀.Healthy base x₀ log₀)
    (hm : w₀.againLimit x₀ < maxPassCount) (hd : Drives x₀ w₀ xo w k log) :
    k + w.runMeasure xo ≤ w₀.runMeasure (some x₀) ∧
      ∀ x, xo = some x → x = { x₀ with phase := x.phase } ∧ w.Healthy base x (log₀ ++ log) ∧
        w.againLimit x = w₀.againLimit x₀ := by
  induction hd with
  | start => exact ⟨by simp, fun x hx => by cases hx; exact ⟨rfl, by simpa using h₀, rfl⟩⟩
  | act _ hr ih =>
    obtain ⟨hle, hx⟩ := ih
    obtain ⟨hx₀, hh, hlim⟩ := hx _ rfl
    have ha := hh.advances (by rw [hlim]; exact hm) hr
    refine ⟨by have := ha.drops; omega, fun x' hx' => ?_⟩
    obtain ⟨hxx, hh'⟩ := ha.next x' hx'
    refine ⟨hxx.trans (by rw [hx₀]), ?_, (ha.settles x' hx').limit.trans hlim⟩
    rwa [← List.append_assoc]
  | quiet _ hq ih =>
    obtain ⟨hle, hx⟩ := ih
    refine ⟨by rw [hq.runMeasure]; exact hle, fun x' hx' => ?_⟩
    cases hx'
    obtain ⟨hx₀, hh, hlim⟩ := hx _ rfl
    exact ⟨hx₀, hh.quiet hq, (againLimit_of_config hq.config).trans hlim⟩

/-- Once the run has begun, a target that is done stays as it is, and is never presented
again. -/
theorem Drives.done_stays {x₁ : ExecTask} {w₁ : Cluster} {log₁ : List (JobTarget × Nat)}
    {xo : Option ExecTask} {k : Nat} {t : JobTarget} (h₁ : w₁.Healthy base x₁ log₁)
    (hm₁ : w₁.againLimit x₁ < maxPassCount) (hb : x₁.phase ≠ .begin) (ht : t ∈ w₁.participants x₁.execution)
    (hdone : t.progress.isTerminal x₁.job.stepCount = true) (hd : Drives x₁ w₁ xo w k log) :
    (∀ p ∈ log, p.1.key ≠ t.key) ∧
      ∀ x, xo = some x → x.phase ≠ .begin ∧ t ∈ w.participants x.execution := by
  induction hd with
  | start => exact ⟨by simp, fun x hx => by cases hx; exact ⟨hb, ht⟩⟩
  | @act x w k log hprev hr ih =>
    obtain ⟨hlog, hx⟩ := ih
    obtain ⟨hxb, htw⟩ := hx _ rfl
    obtain ⟨hx₁, hh, hlim⟩ := (Drives.healthy h₁ hm₁ hprev).2 _ rfl
    have hdone' : t.progress.isTerminal x.job.stepCount = true := by rw [hx₁]; exact hdone
    have ha := hh.advances (by rw [hlim]; exact hm₁) hr
    refine ⟨fun p hp => ?_, fun x' hx' => ?_⟩
    · rcases List.mem_append.mp hp with hp | hp
      · exact hlog p hp
      · obtain ⟨hpP, hpend⟩ := hh.presentation_pending (Option.mem_toList.mp hp)
        exact (hh.key_ne htw hdone' hpP hpend).symm
    · obtain ⟨hx'x, -⟩ := ha.next x' hx'
      refine ⟨(ha.settles x' hx').begun, ?_⟩
      rw [hx'x]
      exact (ha.settles x' hx').done hxb t htw hdone'
  | quiet _ hq ih =>
    obtain ⟨hlog, hx⟩ := ih
    refine ⟨hlog, fun x' hx' => ?_⟩
    cases hx'
    obtain ⟨hxb, htw⟩ := hx _ rfl
    exact ⟨hxb, (hq.participants _).symm ▸ htw⟩

theorem Drives.ended {x₀ : ExecTask} {w₀ : Cluster} {log₀ : List (JobTarget × Nat)} {k : Nat}
    (h₀ : w₀.Healthy base x₀ log₀) (hm : w₀.againLimit x₀ < maxPassCount)
    (hd : Drives x₀ w₀ none w k log) :
    ∃ x w₁ k₁, Drives x₀ w₀ (some x) w₁ k₁ log ∧ k = k₁ + 1 ∧ ∃ st, x.phase = .ending st := by
  generalize hxo : (none : Option ExecTask) = xo at hd
  cases hd with
  | start => cases hxo
  | @act x w₁ k₁ log₁ hprev hr =>
    obtain ⟨-, hh, hlim⟩ := (Drives.healthy h₀ hm hprev).2 x rfl
    obtain ⟨st, hp⟩ := (hh.advances (by rw [hlim]; exact hm) hr).ends hxo.symm
    rw [presentation_of_not_presenting (by simp [hp]), Option.toList_none, List.append_nil]
    exact ⟨x, w₁, k₁, hprev, rfl, st, hp⟩
  | quiet => cases hxo

theorem Drives.healthy_log {x₀ : ExecTask} {w₀ : Cluster} {log₀ : List (JobTarget × Nat)}
    {xo : Option ExecTask} {k : Nat} (h₀ : w₀.Healthy base x₀ log₀)
    (hm : w₀.againLimit x₀ < maxPassCount) (hd : Drives x₀ w₀ xo w k log) :
    ∃ (x : ExecTask) (w₁ : Cluster), x = { x₀ with phase := x.phase } ∧
      w₁.Healthy base x (log₀ ++ log) ∧
      w₁.againLimit x = w₀.againLimit x₀ := by
  cases xo with
  | some x => exact ⟨x, w, (Drives.healthy h₀ hm hd).2 x rfl⟩
  | none =>
    obtain ⟨x, w₁, k₁, hprev, -, -⟩ := hd.ended h₀ hm
    exact ⟨x, w₁, (Drives.healthy h₀ hm hprev).2 x rfl⟩

end Runs

namespace Cluster

variable {base : Nat} {w : Cluster} {x : ExecTask}

/-! ### The run of an execution -/

def startStep (w : Cluster) (x : ExecTask) : Nat :=
  if x.fresh && x.execution.options.resetStepIndex then x.execution.options.fromStepIndex.getD 0
  else (resumeStep ((w.participants x.execution).map (·.progress)) x.job.stepCount).getD 0

theorem fromStep_lt {j : Job} {o : StartOptions} (hv : validate j = .ok ())
    (ho : checkOptions j o = .ok ()) : o.fromStepIndex.getD 0 < j.stepCount := by
  cases hf : o.fromStepIndex with
  | none => exact List.length_pos_iff.mpr (validate_steps j hv)
  | some f =>
    by_contra hn
    have hge : f ≥ j.stepCount := Nat.le_of_not_lt hn
    unfold checkOptions at ho
    rw [hf] at ho
    simp only [hge, if_true] at ho
    cases ho

theorem pendingFrom_resumeStep (ts : List JobTarget) (n : Nat) :
    PendingFrom ((resumeStep (ts.map (·.progress)) n).getD 0) n ts := by
  intro t ht j hj
  cases hrs : resumeStep (ts.map (·.progress)) n with
  | none => exact Nat.zero_le _
  | some r =>
    exact ((resumeStep_spec _ _).2 r hrs).2 t.progress (List.mem_map_of_mem ht) j
      (by simpa [TargetProgress.isPendingFor] using hj)

/-- A run about to begin, of a valid job started with valid options, with its execution running
and not asked to stop, and its targets stored under distinct keys at steps of the job with no
more passes counted than allowed, is healthy from its start step. -/
theorem healthy_begin (hv : validate x.job = .ok ())
    (ho : checkOptions x.job x.execution.options = .ok ()) (hp : x.phase = .begin)
    (hrun : w.Running x) (hlive : w.cancelled x = false)
    (hkeys : (w.targets.targets.map JobTarget.key).Nodup)
    (ht : ∀ t ∈ w.participants x.execution,
      t.progress.stepIndex < x.job.stepCount ∧ t.againPasses ≤ w.againLimit x) :
    w.Healthy (w.startStep x) x [] where
  keys := hkeys
  running := hrun
  live := hlive
  targets t h := ⟨(ht t h).1, fun _ => (ht t h).2⟩
  phase := by
    unfold PhaseHolds startStep
    rw [hp]
    by_cases hr : (x.fresh && x.execution.options.resetStepIndex) = true
    · simp only [hr, if_true]
      exact ⟨Nat.le_refl _, fromStep_lt hv ho⟩
    · simp only [hr]
      exact pendingFrom_resumeStep _ _
  presented := by simp
  sorted := List.Pairwise.nil
  below := by simp
  begun _ := rfl
  counted := counted_nil w x

end Cluster

/-- The run of an execution ends, completed. Take the run of a valid job started with valid
options, whose execution is running and not asked to stop, whose targets are stored under
distinct keys at steps of the job with at most the allowed passes counted, and whose limit of
passes is below the largest count a target's counter holds; between its acts
anything may happen that leaves the targets alone, the execution running and the coordinator
as it was. Then the run acts at most `runMeasure` times, and until it is over it is ready to act
or wakes by itself; it is over only once it ended completed, with every target failed at a step
or through the last one. It presents targets in the order of the steps, from the step it
starts at, each pending for its step and at most once more than the passes a step allows; and
once it has begun, a target that failed is never presented again. -/
theorem run_ends_completed {x₀ : ExecTask} {w₀ : Cluster}
    (hv : validate x₀.job = .ok ()) (ho : checkOptions x₀.job x₀.execution.options = .ok ())
    (hp : x₀.phase = .begin) (hrun : w₀.Running x₀) (hlive : w₀.cancelled x₀ = false)
    (hkeys : (w₀.targets.targets.map JobTarget.key).Nodup)
    (ht : ∀ t ∈ w₀.participants x₀.execution,
      t.progress.stepIndex < x₀.job.stepCount ∧ t.againPasses ≤ w₀.againLimit x₀)
    (hm : w₀.againLimit x₀ < maxPassCount)
    {xo : Option ExecTask} {w : Cluster} {k : Nat} {log : List (JobTarget × Nat)}
    (hd : Drives x₀ w₀ xo w k log) :
    k ≤ w₀.runMeasure (some x₀) ∧
      (∀ x, xo = some x → w.taskReady (.execution x) = true ∨ ∃ t, taskWake? (.execution x) = some t ∧
        ∀ w' : Cluster, t ≤ w'.now → w'.taskReady (.execution x) = true) ∧
      (xo = none → ∃ x w₁ k₁, Drives x₀ w₀ (some x) w₁ k₁ log ∧ k = k₁ + 1 ∧
        x.phase = .ending .completed ∧ ∀ t ∈ w₁.participants x₀.execution,
          t.progress.status = .processFailed ∨
            (t.progress.status = .processOk ∧ t.progress.stepIndex + 1 = x₀.job.stepCount)) ∧
      log.Pairwise (fun p q => p.2 ≤ q.2) ∧
      (∀ p ∈ log, w₀.startStep x₀ ≤ p.2 ∧
        p.1.progress.isPendingFor p.2 x₀.job.stepCount = true) ∧
      (∀ key j, timesPresented log key j ≤ w₀.againLimit x₀ + 1) ∧
      (∀ x₁ w₁ k₁ log₁, Drives x₀ w₀ (some x₁) w₁ k₁ log₁ → x₁.phase ≠ .begin →
        ∀ t ∈ w₁.participants x₀.execution, t.progress.status = .processFailed →
        ∀ xo' w' k' log', Drives x₁ w₁ xo' w' k' log' → ∀ p ∈ log', p.1.key ≠ t.key) := by
  have h₀ := healthy_begin hv ho hp hrun hlive hkeys ht
  obtain ⟨x, w₁, hx, hh, hlim⟩ := hd.healthy_log h₀ hm
  rw [List.nil_append] at hh
  have hjob : x.job = x₀.job := by rw [hx]
  refine ⟨?_, fun x _ => ready_or_wakes w x, fun hxo => ?_, hh.sorted, fun p hp => ?_,
    fun key j => hlim ▸ hh.timesPresented_le key j, ?_⟩
  · have := (Drives.healthy h₀ hm hd).1
    omega
  · subst hxo
    obtain ⟨x, w₁, k₁, hprev, hk, st, hpx⟩ := hd.ended h₀ hm
    obtain ⟨hx, hh, -⟩ := (Drives.healthy h₀ hm hprev).2 x rfl
    obtain ⟨rfl, hall⟩ : st = .completed ∧
        ∀ t ∈ w₁.participants x.execution, t.progress.isTerminal x.job.stepCount = true := by
      simpa only [PhaseHolds, hpx] using hh.phase
    refine ⟨x, w₁, k₁, hprev, hk, hpx, fun t htw => ?_⟩
    rw [hx] at hall hh
    exact (TargetProgress.isTerminal_iff (hh.targets t htw).1).mp (hall t htw)
  · obtain ⟨hpend, hb⟩ := hh.presented p hp
    exact ⟨hb, hjob ▸ hpend⟩
  · intro x₁ w₁ k₁ log₁ hd₁ hb t htw hfail xo' w' k' log' hd'
    obtain ⟨hx₁, hh₁, hlim₁⟩ := (Drives.healthy h₀ hm hd₁).2 _ rfl
    have hdone : t.progress.isTerminal x₁.job.stepCount = true := by
      simp [TargetProgress.isTerminal, TargetProgress.nextStep, hfail]
    exact (Drives.done_stays hh₁ (by rw [hlim₁]; exact hm) hb (by rw [hx₁]; exact htw) hdone hd').1

def runningCluster : Cluster :=
  { heldCluster with executions := ⟨[readRun.execution]⟩ }

theorem command_run_within_measure :
    validate readJob = .ok () ∧
      1 ≤ runningCluster.runMeasure (some readRun) := by
  have hd : Drives readRun runningCluster _ _ 1 _ := .act .start rfl
  have ht : ∀ t ∈ runningCluster.participants readRun.execution,
      t.progress.stepIndex < readRun.job.stepCount ∧
        t.againPasses ≤ runningCluster.againLimit readRun := by
    decide
  exact ⟨rfl, (@run_ends_completed readRun runningCluster rfl rfl rfl ⟨readRun.execution, rfl, rfl⟩
    rfl (by decide) ht (by decide) _ _ _ _ hd).1⟩

def saturatedTarget : JobTarget :=
  { queuedTarget with againPasses := maxPassCount }

def saturatedCluster : Cluster :=
  { runningCluster with
    coordinators := [{ config := { (default : EngineConfig) with maxAgainPasses := maxPassCount } }],
    targets := ⟨[saturatedTarget]⟩ }

def saturatedWait : ReplyWait :=
  ⟨⟨"1", "gw-1", ⟨7191089600892390871, 9533061409449731612⟩⟩, 0, 15000000, 15000⟩

/-- A run whose limit of passes is the largest count the counter holds, with a target counted up
to it: the request times out, the pass cannot be counted, and after four acts the run is over
with its execution still stored running. -/
theorem run_stops_short_at_largest_pass_count :
    validate readJob = .ok () ∧
      saturatedTarget.againPasses ≤ saturatedCluster.againLimit readRun ∧
      ∃ w log, Drives readRun saturatedCluster none w 4 log ∧ w.Running readRun := by
  have h1 := Drives.act (.start : Drives readRun saturatedCluster _ _ _ _) rfl
  have e1 : (saturatedCluster.stepExecution readRun).1 = some { readRun with phase := .stepTop 0 } :=
    rfl
  rw [e1] at h1
  have h2 := Drives.act h1 rfl
  have e2 : ((saturatedCluster.stepExecution readRun).2.stepExecution
      { readRun with phase := .stepTop 0 }).1 =
      some { readRun with phase := .presenting 0 [saturatedTarget] [] 0 false } := rfl
  rw [e2] at h2
  have h3 := Drives.act h2 rfl
  have e3 : (((saturatedCluster.stepExecution readRun).2.stepExecution
      { readRun with phase := .stepTop 0 }).2.stepExecution
      { readRun with phase := .presenting 0 [saturatedTarget] [] 0 false }).1 =
      some { readRun with phase := .presenting 0 [] [.sending saturatedTarget saturatedWait] 0 false } :=
    rfl
  rw [e3] at h3
  have h4 := @Drives.quiet readRun saturatedCluster _ _
    { (((saturatedCluster.stepExecution readRun).2.stepExecution
      { readRun with phase := .stepTop 0 }).2.stepExecution
      { readRun with phase := .presenting 0 [saturatedTarget] [] 0 false }).2 with now := 15000000 }
    _ _ h3 ⟨rfl, ⟨readRun.execution, rfl, rfl⟩, rfl, rfl⟩
  have h5 := Drives.act h4 rfl
  have e5 : ({ (((saturatedCluster.stepExecution readRun).2.stepExecution
      { readRun with phase := .stepTop 0 }).2.stepExecution
      { readRun with phase := .presenting 0 [saturatedTarget] [] 0 false }).2 with
        now := 15000000 }.stepExecution
      { readRun with phase := .presenting 0 [] [.sending saturatedTarget saturatedWait] 0 false }).1 =
      none := rfl
  rw [e5] at h5
  exact ⟨rfl, Nat.le_refl _, _, _, h5, readRun.execution, rfl, rfl⟩

end DeviceFleet.Engine
