import DeviceFleet.Proofs.Jobs.Interleaving

/-!
# Refused starts change nothing

The checks of a start come in a fixed order, and a start they refuse, or of an unknown job,
leaves targets, executions, tasks and coordinators as they were.
-/

namespace DeviceFleet

/-- Keeping the first of each value never lengthens a list, and shortens it exactly when a value
is repeated. -/
theorem List.length_eraseDups_le_and_eq_iff {α : Type} [BEq α] [LawfulBEq α] :
    ∀ l : List α, l.eraseDups.length ≤ l.length ∧ (l.eraseDups.length = l.length ↔ l.Nodup)
  | [] => by simp
  | a :: as => by
    -- the head's repeats are dropped from the rest before the rest's own are
    obtain ⟨hE, hiff⟩ := List.length_eraseDups_le_and_eq_iff (as.filter fun b => !b == a)
    have hF : (as.filter fun b => !b == a).length ≤ as.length := List.length_filter_le _ _
    have hkeep : (as.filter fun b => !b == a) = as ↔ a ∉ as := by
      rw [List.filter_eq_self]
      constructor
      · intro hall ha
        simpa using hall a ha
      · intro hna b hb
        simpa using fun hba : b = a => hna (hba ▸ hb)
    rw [List.eraseDups_cons, List.length_cons, List.length_cons, List.nodup_cons]
    refine ⟨by omega, ⟨fun heq => ?_, fun ⟨hna, hnd⟩ => ?_⟩⟩
    · -- nothing was dropped: neither `a` from the rest nor a repeat of the rest
      have hfa : (as.filter fun b => !b == a) = as :=
        List.Sublist.eq_of_length List.filter_sublist (by omega)
      refine ⟨hkeep.mp hfa, ?_⟩
      rw [← hfa]
      exact hiff.mp (by omega)
    · have hfa := hkeep.mpr hna
      rw [hfa] at hiff ⊢
      have := hiff.mpr hnd
      omega
termination_by l => l.length
decreasing_by exact Nat.lt_succ_of_le (List.length_filter_le _ _)

/-! ### Checking a definition -/

/-- A job the engine can run: it has steps and targets, and no target twice. -/
structure Job.WellShaped (j : Job) : Prop where
  steps : j.steps ≠ []
  targets : j.targetIds ≠ []
  distinct : j.targetIds.Nodup

def Job.KnownProcessors (j : Job) : Prop :=
  ∀ s ∈ j.steps, s.processor ∈ Engine.knownProcessors

def Job.StartOptions.Refused (o : Job.StartOptions) (j : Job) : Prop :=
  (∃ f, o.fromStepIndex = some f ∧ (j.stepCount ≤ f ∨ o.resetStepIndex = false)) ∨
    ∃ t ∈ o.targetIdSublist, t ∉ j.targetIds

namespace Engine

open Job

/-- The three outcomes of checking a definition: invalid, with a step whose processor is
unknown (named by its index), or accepted. -/
theorem validate_cases (j : Job) :
    (¬ j.WellShaped ∧ ∃ r, validate j = .error (.invalidJob j.jobId r)) ∨
    (j.WellShaped ∧ ∃ i s, j.steps[i]? = some s ∧ s.processor ∉ knownProcessors ∧
        validate j = .error (.unknownProcessor j.jobId i s.processor)) ∨
    (j.WellShaped ∧ j.KnownProcessors ∧ validate j = .ok ()) := by
  by_cases hs : j.steps = []
  · exact .inl ⟨fun h => h.steps hs, _, by simp [validate, hs]; rfl⟩
  by_cases ht : j.targetIds = []
  · exact .inl ⟨fun h => h.targets ht, _, by simp [validate, hs, ht]; rfl⟩
  by_cases hd : j.targetIds.Nodup
  · have hw : j.WellShaped := ⟨hs, ht, hd⟩
    have hlen := (List.length_eraseDups_le_and_eq_iff j.targetIds).2.mpr hd
    cases hf : j.steps.zipIdx.find? (fun x => !decide (x.1.processor ∈ knownProcessors)) with
    | some x =>
      obtain ⟨s, i⟩ := x
      have hmem := List.mem_of_find?_eq_some hf
      have hp := List.find?_some hf
      refine .inr (.inl ⟨hw, i, s, List.mk_mem_zipIdx_iff_getElem?.mp hmem, by simpa using hp, ?_⟩)
      simp [validate, hs, ht, hlen, hf]
      rfl
    | none =>
      refine .inr (.inr ⟨hw, fun s hsm => ?_, by simp [validate, hs, ht, hlen, hf]; rfl⟩)
      rw [← List.zipIdx_map_fst 0 j.steps] at hsm
      obtain ⟨x, hx, rfl⟩ := List.mem_map.mp hsm
      simpa using List.find?_eq_none.mp hf x hx
  · have hlen : j.targetIds.eraseDups.length ≠ j.targetIds.length :=
      fun h => hd ((List.length_eraseDups_le_and_eq_iff j.targetIds).2.mp h)
    exact .inl ⟨fun h => hd h.distinct, _, by simp [validate, hs, ht, hlen]; rfl⟩

/-! ### Checking the start options -/

theorem find_foreign_target_cases (j : Job) (ts : List String) :
    ((∃ t ∈ ts, t ∉ j.targetIds) ∧ ∃ t, ts.find? (fun t => !decide (t ∈ j.targetIds)) = some t) ∨
      ((∀ t ∈ ts, t ∈ j.targetIds) ∧ ts.find? (fun t => !decide (t ∈ j.targetIds)) = none) := by
  cases hfind : ts.find? (fun t => !decide (t ∈ j.targetIds)) with
  | some t =>
    exact .inl ⟨⟨t, List.mem_of_find?_eq_some hfind, by simpa using List.find?_some hfind⟩, t, rfl⟩
  | none => exact .inr ⟨fun t ht => by simpa using List.find?_eq_none.mp hfind t ht, rfl⟩

theorem checkOptions_cases (j : Job) (o : StartOptions) :
    (o.Refused j ∧ ∃ r, checkOptions j o = .error (.invalidStartOptions j.jobId r)) ∨
      (¬ o.Refused j ∧ checkOptions j o = .ok ()) := by
  have htargets : (∀ f, o.fromStepIndex = some f → f < j.stepCount ∧ o.resetStepIndex = true) →
      (o.Refused j ∧ ∃ r, checkOptions j o = .error (.invalidStartOptions j.jobId r)) ∨
        (¬ o.Refused j ∧ checkOptions j o = .ok ()) := by
    intro hstep
    have hstart : ¬ ∃ f, o.fromStepIndex = some f ∧ (j.stepCount ≤ f ∨ o.resetStepIndex = false) := by
      rintro ⟨f, hf, hge | hres⟩
      · exact absurd (hstep f hf).1 (by omega)
      · simp [(hstep f hf).2] at hres
    have hpass : ∀ f, o.fromStepIndex = some f → ¬ f ≥ j.stepCount ∧ o.resetStepIndex = true :=
      fun f hf => ⟨by have := (hstep f hf).1; omega, (hstep f hf).2⟩
    rcases find_foreign_target_cases j o.targetIdSublist with ⟨hbad, t, hfind⟩ | ⟨hgood, hfind⟩
    · refine .inl ⟨.inr hbad, ?_⟩
      cases hf : o.fromStepIndex with
      | none => exact ⟨_, by simp [checkOptions, hf, hfind]; rfl⟩
      | some f => exact ⟨_, by simp [checkOptions, hf, hpass f hf, hfind]; rfl⟩
    · refine .inr ⟨fun h => h.elim hstart fun ⟨t, ht, hnt⟩ => hnt (hgood t ht), ?_⟩
      cases hf : o.fromStepIndex with
      | none => simp [checkOptions, hf, hfind]; rfl
      | some f => simp [checkOptions, hf, hpass f hf, hfind]; rfl
  cases hf : o.fromStepIndex with
  | none =>
    exact htargets fun f h => by
      rw [hf] at h
      cases h
  | some f =>
    by_cases hge : j.stepCount ≤ f
    · exact .inl ⟨.inl ⟨f, hf, .inl hge⟩, _, by simp [checkOptions, hf, hge]; rfl⟩
    · cases hres : o.resetStepIndex with
      | false =>
        exact .inl ⟨.inl ⟨f, hf, .inr hres⟩, _, by simp [checkOptions, hf, hge, hres]; rfl⟩
      | true =>
        exact htargets fun f' h => by
          rw [hf] at h
          cases h
          exact ⟨by omega, hres⟩

theorem checkOptions_beyond {j : Job} {o : StartOptions} {f : Nat} (hf : o.fromStepIndex = some f)
    (hge : j.stepCount ≤ f) :
    checkOptions j o = .error (.invalidStartOptions j.jobId ("fromStepIndex " ++ Text.natText f ++
      " is beyond the last step " ++ Text.natText (j.stepCount - 1))) := by
  simp [checkOptions, hf, hge]
  rfl

/-! ### A start -/

namespace Cluster

variable {w : Cluster} {tenantId jobId : String} {o : StartOptions}

theorem startJob_fst (w : Cluster) (tenantId jobId : String) (o : StartOptions) :
    (w.startJob tenantId jobId o).1 =
      match (w.findJob tenantId jobId).1 with
      | none => .error (.jobNotFound tenantId jobId)
      | some j => validate j >>= fun () => checkOptions j o := by
  unfold startJob loadJob
  cases hf : w.findJob tenantId jobId with
  | mk r w₁ =>
    cases r with
    | none => rfl
    | some j =>
      simp only
      cases hv : (validate j >>= fun () => checkOptions j o) with
      | error e => rfl
      | ok u =>
        simp only
        split <;> rfl

theorem startJob_snd_of_error {e : JobError} (h : (w.startJob tenantId jobId o).1 = .error e) :
    ∃ c, (w.startJob tenantId jobId o).2 = { w with jobCache := c } := by
  obtain ⟨c, hc⟩ := loadJob_snd w tenantId jobId
  cases hl : w.loadJob tenantId jobId with
  | mk r w₁ =>
    rw [hl] at hc
    cases r with
    | error err =>
      have he : (w.startJob tenantId jobId o).2 = w₁ := by simp [startJob, hl]
      exact ⟨c, he.trans hc⟩
    | ok j =>
      cases hv : (validate j >>= fun () => checkOptions j o) with
      | error err =>
        have he : (w.startJob tenantId jobId o).2 = w₁ := by simp [startJob, hl, hv]
        exact ⟨c, he.trans hc⟩
      | ok u =>
        have hj : (w.findJob tenantId jobId).1 = some j := by
          unfold loadJob at hl
          split at hl <;> simp_all
        rw [startJob_fst, hj] at h
        simp only [hv] at h
        cases h

end Cluster

/-- A start is refused for an unknown job, then for its definition in the order of the checks,
then for its options; every refusal has only read through the job cache, so no target, execution
or task is added. A step to start from past the last one is refused only for a job with steps,
so the last step's index the refusal names is a step of the job. -/
theorem refused_start_changes_nothing (w : Cluster) (tenantId jobId : String)
    (o : StartOptions) :
    (∀ e, (w.startJob tenantId jobId o).1 = .error e →
      ∃ c, (w.startJob tenantId jobId o).2 = { w with jobCache := c }) ∧
    ((w.findJob tenantId jobId).1 = none →
      (w.startJob tenantId jobId o).1 = .error (.jobNotFound tenantId jobId)) ∧
    ∀ j, (w.findJob tenantId jobId).1 = some j →
      ((∃ r, (w.startJob tenantId jobId o).1 = .error (.invalidJob j.jobId r)) ↔
        ¬ j.WellShaped) ∧
      ((∃ i p, (w.startJob tenantId jobId o).1 = .error (.unknownProcessor j.jobId i p)) ↔
        j.WellShaped ∧ ¬ j.KnownProcessors) ∧
      (∀ i p, (w.startJob tenantId jobId o).1 = .error (.unknownProcessor j.jobId i p) →
        p ∉ knownProcessors ∧ ∃ s, j.steps[i]? = some s ∧ s.processor = p) ∧
      ((∃ r, (w.startJob tenantId jobId o).1 = .error (.invalidStartOptions j.jobId r)) ↔
        j.WellShaped ∧ j.KnownProcessors ∧ o.Refused j) ∧
      (∀ f, o.fromStepIndex = some f → j.stepCount ≤ f → j.WellShaped → j.KnownProcessors →
        (w.startJob tenantId jobId o).1 = .error (.invalidStartOptions j.jobId
          ("fromStepIndex " ++ Text.natText f ++ " is beyond the last step " ++
            Text.natText (j.stepCount - 1))) ∧ j.stepCount - 1 < j.stepCount) := by
  refine ⟨fun e h => Cluster.startJob_snd_of_error h, fun hf => by rw [Cluster.startJob_fst, hf],
    fun j hj => ?_⟩
  rw [Cluster.startJob_fst, hj]
  dsimp only
  -- the definition's check decides first; the options are checked only for a valid job
  rcases validate_cases j with ⟨hns, r, hv⟩ | ⟨hw, i, s, hsi, hsp, hv⟩ | ⟨hw, hk, hv⟩
  · simp only [hv, bind, Except.bind]
    refine ⟨⟨fun _ => hns, fun _ => ⟨r, rfl⟩⟩, ?_, ?_, ?_, fun f _ _ hw' => absurd hw' hns⟩ <;>
      simp [hns]
  · simp only [hv, bind, Except.bind]
    refine ⟨?_, ⟨fun _ => ⟨hw, fun hk => hsp (hk s (List.mem_of_getElem? hsi))⟩,
      fun _ => ⟨i, s.processor, rfl⟩⟩, ?_, ?_, fun f _ _ _ hk => absurd (hk s
        (List.mem_of_getElem? hsi)) hsp⟩
    · simp [hw]
    · intro i' p h
      cases h
      exact ⟨hsp, s, hsi, rfl⟩
    · constructor
      · rintro ⟨r, h⟩
        cases h
      · rintro ⟨-, hk, -⟩
        exact absurd (hk s (List.mem_of_getElem? hsi)) hsp
  · simp only [hv, bind, Except.bind]
    -- a job that passed its check has a step, so its last step has an index
    have hpos : 0 < j.stepCount := List.length_pos_iff.mpr hw.steps
    rcases checkOptions_cases j o with ⟨hr, r, hc⟩ | ⟨hr, hc⟩
    · refine ⟨?_, ?_, ?_, ⟨fun _ => ⟨hw, hk, hr⟩, fun _ => ⟨r, hc⟩⟩,
        fun f hf hge _ _ => ⟨checkOptions_beyond hf hge, by omega⟩⟩ <;> simp [hc, hw, hk]
    · refine ⟨?_, ?_, ?_, ?_, fun f hf hge _ _ => ⟨checkOptions_beyond hf hge, by omega⟩⟩ <;>
        simp [hc, hw, hk, hr]

def statusStep : StepDefinition :=
  { name := "status", processor := "device-command",
    template := { appName := "STATUS", method := .read } }

def statusJob : Job :=
  { jobId := "status", tenantId := "1", name := "status job", steps := [statusStep],
    targetIds := ["gw-1"] }

def statusJobCluster : Cluster :=
  { now := 0, ids := ⟨0⟩, jobCache := Cache.Lookup.empty 8, coordinators := [default],
    jobs := [statusJob] }

def pastLastStep : StartOptions :=
  { fromStepIndex := some 1, resetStepIndex := true }

theorem start_past_last_step_refused :
    (statusJobCluster.startJob "1" "status" pastLastStep).1 =
        .error (.invalidStartOptions statusJob.jobId ("fromStepIndex " ++ Text.natText 1 ++
          " is beyond the last step " ++ Text.natText (statusJob.stepCount - 1))) ∧
      statusJob.stepCount - 1 < statusJob.stepCount ∧
      ∃ c, (statusJobCluster.startJob "1" "status" pastLastStep).2 =
        { statusJobCluster with jobCache := c } := by
  have h := refused_start_changes_nothing statusJobCluster "1" "status" pastLastStep
  have hw : statusJob.WellShaped := ⟨List.cons_ne_nil _ _, List.cons_ne_nil _ _, by decide⟩
  have hk : statusJob.KnownProcessors := by
    simp [Job.KnownProcessors, statusJob, statusStep, knownProcessors]
  obtain ⟨hres, hlast⟩ := (h.2.2 statusJob rfl).2.2.2.2 1 rfl (by decide) hw hk
  exact ⟨hres, hlast, h.1 _ hres⟩

end Engine

end DeviceFleet
