import DeviceFleet.Proofs.Jobs.Moves

/-!
# Cleaning a job's data, and what may come between its check and its act

A clean-up is a check and an act (`cleanJobData_eq`); alone it never deletes a running job's
data (`clean_spares_running_job`), but a start between the two may be deleted while it runs.
-/

namespace DeviceFleet.Engine

open Job Events Store ExecutionStore

namespace Cluster

variable {w : Cluster} {t j : String}

def cleanCheck (w : Cluster) (t j : String) : Except JobError Unit × Cluster :=
  match w.loadJob t j with
  | (.error e, w) => (.error e, w)
  | (.ok _, w) => if w.isRunning t j then (.error (.jobRunning j), w) else (.ok (), w)

def cleanEvent (u : Uuid) (t j : String) : ServiceEvent :=
  jobEvent u.text t jobEntity j .deleted (some (.obj [("scope", .str "data")]))

def dropJobData (t j : String) (w : Cluster) : Cluster :=
  { w with targets := (w.targets.deleteAll t j).2, executions := (w.executions.deleteAll t j).2 }

def cleanAct (w : Cluster) (t j : String) : Except JobError Unit × Cluster :=
  let (u, w) := w.freshId
  match w.recordOnce w.config.nodeId (cleanEvent u t j) (fun w => .ok ((), dropJobData t j w)) with
  | (.ok _, w) => (.ok (), w)
  | (.error f, w) =>
    (.error (.events (f.eventError (cleanEvent u t j).contextId jobEventSource)), w)

def cleanAcross (w w' : Cluster) (t j : String) : Except JobError Unit × Cluster :=
  match w.cleanCheck t j with
  | (.error e, w) => (.error e, w)
  | (.ok (), _) => w'.cleanAct t j

theorem cleanJobData_eq (w : Cluster) (t j : String) :
    w.cleanJobData t j = cleanAcross w (w.cleanCheck t j).2 t j := by
  unfold cleanJobData cleanAcross cleanCheck cleanAct
  cases w.loadJob t j with
  | mk r w₁ =>
    cases r with
    | error e => rfl
    | ok _ =>
      by_cases hr : w₁.isRunning t j
      · simp only [hr, if_true]
      · simp only [hr]
        rfl

@[simp] theorem targets_heard (w : Cluster) (e : ServiceEvent) :
    (w.heard e).targets = w.targets := by
  unfold heard
  split <;> rfl

@[simp] theorem executions_heard (w : Cluster) (e : ServiceEvent) :
    (w.heard e).executions = w.executions := by
  unfold heard
  split <;> rfl

theorem loadJob_fst (w : Cluster) (t j : String) :
    (w.loadJob t j).1 = .error (.jobNotFound t j) ∨ ∃ jb, (w.loadJob t j).1 = .ok jb := by
  unfold loadJob
  split
  · exact .inr ⟨_, rfl⟩
  · exact .inl rfl

theorem cleanCheck_snd (w : Cluster) (t j : String) :
    (w.cleanCheck t j).2 = (w.loadJob t j).2 := by
  unfold cleanCheck
  split <;> rename_i heq <;> rw [heq]
  split <;> rfl

theorem cleanCheck_cases (w : Cluster) (t j : String) :
    (w.cleanCheck t j).2.targets = w.targets ∧ (w.cleanCheck t j).2.executions = w.executions ∧
      ((∃ e, (w.cleanCheck t j).1 = .error e ∧ (e = .jobNotFound t j ∨ e = .jobRunning j)) ∨
        (w.cleanCheck t j).1 = .ok () ∧ w.executions.running t j = []) := by
  obtain ⟨c, hc⟩ := loadJob_snd w t j
  rw [cleanCheck_snd, hc]
  refine ⟨rfl, rfl, ?_⟩
  have hf := loadJob_fst w t j
  unfold cleanCheck
  rcases hl : w.loadJob t j with ⟨_ | jb, w₁⟩ <;> rw [hl] at hf hc
  · rcases hf with hf | ⟨_, hf⟩ <;> cases hf
    exact .inl ⟨_, rfl, .inl rfl⟩
  · cases hc
    dsimp only
    cases hr : isRunning { w with jobCache := c } t j
    · refine .inr ⟨rfl, ?_⟩
      rw [← findRunning_eq_none]
      simpa [isRunning] using hr
    · exact .inl ⟨_, rfl, .inr rfl⟩

/-- Recording an event with an effect that cannot fail: the effect runs on the cluster the claim
left, whose targets and executions are those of `w`, and recording leaves what the effect left
whether or not the mark after it succeeds; or the event was recorded before, and recording
answers a duplicate and leaves the targets and executions as they were. -/
theorem recordOnce_of_total {α : Type} (w : Cluster) (node : String) (e : ServiceEvent)
    (f : Cluster → α × Cluster) :
    (∃ w₁ : Cluster, w₁.targets = w.targets ∧ w₁.executions = w.executions ∧
        (w.recordOnce node e fun x => .ok (f x)).2.targets = (f w₁).2.targets ∧
        (w.recordOnce node e fun x => .ok (f x)).2.executions = (f w₁).2.executions ∧
        ((w.recordOnce node e fun x => .ok (f x)).1 = .ok (.applied (f w₁).1) ∨
          ∃ err, (w.recordOnce node e fun x => .ok (f x)).1 = .error (.store err))) ∨
      ((w.recordOnce node e fun x => .ok (f x)).1 = .ok .duplicate ∧
        (w.recordOnce node e fun x => .ok (f x)).2.targets = w.targets ∧
        (w.recordOnce node e fun x => .ok (f x)).2.executions = w.executions) := by
  unfold recordOnce
  split
  · rename_i r s g _
    refine .inl ⟨{ w with events := s, ids := g }, rfl, rfl, ?_⟩
    dsimp only
    split <;> simp
  · exact .inr ⟨rfl, rfl, rfl⟩

/-- The act deletes the job's targets and executions as it finds them, running or not, and then
answers success or a failure of the event store; only where its event was recorded before does
it leave them, and answers success. -/
theorem cleanAct_cases (w : Cluster) (t j : String) :
    (((w.cleanAct t j).1 = .ok () ∨ ∃ f, (w.cleanAct t j).1 = .error (.events f)) ∧
        (w.cleanAct t j).2.targets = (w.targets.deleteAll t j).2 ∧
        (w.cleanAct t j).2.executions = (w.executions.deleteAll t j).2) ∨
      ((w.cleanAct t j).1 = .ok () ∧ (w.cleanAct t j).2.targets = w.targets ∧
        (w.cleanAct t j).2.executions = w.executions) := by
  have hft : w.freshId.2.targets = w.targets := by rw [freshId_snd]
  have hfx : w.freshId.2.executions = w.executions := by rw [freshId_snd]
  unfold cleanAct
  cases hf : w.freshId with
  | mk u w₀ =>
    simp only [hf] at hft hfx
    dsimp only
    rcases recordOnce_of_total w₀ w₀.config.nodeId (cleanEvent u t j)
        (fun w => ((), dropJobData t j w)) with ⟨w₁, ht, hx, ht', hx', -⟩ | ⟨hr, ht', hx'⟩
    · left
      split <;> rename_i heq <;> simp only [heq] at ht' hx' <;>
        refine ⟨?_, by simp only [ht', dropJobData, ht, hft],
          by simp only [hx', dropJobData, hx, hfx]⟩
      · exact .inl rfl
      · exact .inr ⟨_, rfl⟩
    · right
      split <;> rename_i heq <;> simp only [heq] at hr ht' hx'
      · exact ⟨rfl, ht'.trans hft, hx'.trans hfx⟩
      · cases hr

/-- What a clean-up may come to, its check made on `w` and its act on `w'`: refused, the job not
found or running, with neither store changed; or passed, with nothing of the job running on
`w`, and then the job's targets and executions as `w'` stores them deleted (the answer a failure
of the event store only when marking its event failed after the deletion), or, where its event
had been recorded before, nothing deleted. -/
inductive CleanOutcome (t j : String) (w w' : Cluster) : Except JobError Unit × Cluster → Prop
  | refused {e : JobError} {w'' : Cluster} (he : e = .jobNotFound t j ∨ e = .jobRunning j)
      (ht : w''.targets = w.targets) (hx : w''.executions = w.executions) :
      CleanOutcome t j w w' (.error e, w'')
  | deleted {r : Except JobError Unit} {w'' : Cluster} (hr : w.executions.running t j = [])
      (hok : r = .ok () ∨ ∃ f, r = .error (.events f))
      (ht : w''.targets = (w'.targets.deleteAll t j).2)
      (hx : w''.executions = (w'.executions.deleteAll t j).2) : CleanOutcome t j w w' (r, w'')
  | recorded {r : Except JobError Unit} {w'' : Cluster} (hr : w.executions.running t j = [])
      (hok : r = .ok ()) (ht : w''.targets = w'.targets) (hx : w''.executions = w'.executions) :
      CleanOutcome t j w w' (r, w'')

theorem CleanOutcome.of_stores {w w₁ w₂ : Cluster} {r : Except JobError Unit × Cluster}
    (ht : w₁.targets = w₂.targets) (hx : w₁.executions = w₂.executions)
    (h : CleanOutcome t j w w₁ r) : CleanOutcome t j w w₂ r := by
  cases h with
  | refused he ht' hx' => exact .refused he ht' hx'
  | deleted hr hok ht' hx' => exact .deleted hr hok (ht ▸ ht') (hx ▸ hx')
  | recorded hr hok ht' hx' => exact .recorded hr hok (ht ▸ ht') (hx ▸ hx')

/-- Whatever comes between the check and the act, a clean-up is refused with neither store
changed, or its check found nothing of the job running and its act deletes the job's targets
and executions as the act finds them. Nothing bounds what the act finds: an execution begun
in between is deleted with the rest. -/
theorem cleanAcross_outcome (w w' : Cluster) (t j : String) :
    CleanOutcome t j w w' (cleanAcross w w' t j) := by
  obtain ⟨ht, hx, hc⟩ := cleanCheck_cases w t j
  unfold cleanAcross
  cases hcc : w.cleanCheck t j with
  | mk r w₁ =>
    simp only [hcc] at ht hx hc
    cases r with
    | error e =>
      obtain ⟨e', he, hej⟩ | ⟨h, -⟩ := hc
      · cases he
        exact .refused hej ht hx
      · cases h
    | ok u =>
      obtain ⟨_, h, -⟩ | ⟨-, hr⟩ := hc
      · cases h
      · rcases cleanAct_cases w' t j with ⟨hok, ht', hx'⟩ | ⟨hok, ht', hx'⟩
        · exact .deleted hr hok ht' hx'
        · exact .recorded hr hok ht' hx'

/-- A clean-up served as one request either is refused, the job not found or running, with
neither the target nor the execution store changed, or deletes the job's targets and
executions where no execution of the job runs (or, its event recorded before, nothing). -/
theorem clean_spares_running_job (w : Cluster) (t j : String) :
    CleanOutcome t j w w (w.cleanJobData t j) := by
  obtain ⟨ht, hx, -⟩ := cleanCheck_cases w t j
  rw [cleanJobData_eq]
  exact (cleanAcross_outcome w _ t j).of_stores ht hx

def sweepJob : Job :=
  { jobId := "sweep", tenantId := "1", name := "sweep", targetIds := ["gw-1"],
    steps := [{ name := "a", processor := "scripted",
                template := { appName := "BUN-V1", method := .read } }] }

def sweepDefined : Cluster :=
  (Cluster.initial 0 0 default).perform (.request (.define sweepJob))

def sweepStarted : Cluster :=
  ((sweepDefined.cleanCheck "1" "sweep").2.startJob "1" "sweep" {}).2

/-- A clean-up of an idle job passes its check; a start that comes before its act begins an
execution, which runs; the act then deletes it, and the clean-up answers success. -/
theorem clean_deletes_execution_started_after_check :
    Reachable sweepDefined ∧ (sweepDefined.cleanCheck "1" "sweep").1 = .ok () ∧
      (sweepStarted.executions.running "1" "sweep").length = 1 ∧
      (cleanAcross sweepDefined sweepStarted "1" "sweep").1 = .ok () ∧
      (cleanAcross sweepDefined sweepStarted "1" "sweep").2.executions.list "1" "sweep" = [] :=
  ⟨.move (.initial 0 0 default) trivial, by decide +kernel, by decide +kernel, by decide +kernel,
    by decide +kernel⟩

end Cluster

end DeviceFleet.Engine
