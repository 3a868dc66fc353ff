import DeviceFleet.Job.Stores
import DeviceFleet.Job.Driver

/-!
# Driving a target, and finding it by key

Driving a target changes its progress, operation, passes and failure only (`driveTarget_eq`),
and a write of the target store changes the written record only.
-/

namespace DeviceFleet.Job

namespace TargetProgress

def Past (p : TargetProgress) (i : Nat) : Prop :=
  i < p.stepIndex ∨ p.stepIndex = i ∧ (p.status = .processOk ∨ p.status = .processFailed)

variable {p : TargetProgress} {i j n : Nat}

theorem pending_cases (h : p.isPendingFor j n = true) :
    (p.status = .inQueue ∨ p.status = .processAgain) ∧ j = p.stepIndex ∨
      p.status = .processOk ∧ j = p.stepIndex + 1 := by
  obtain ⟨k, s⟩ := p
  cases s <;> simp [isPendingFor, nextStep] at h ⊢ <;> omega

theorem Past.lt_of_pending (hp : p.Past i) (h : p.isPendingFor j n = true) : i < j := by
  unfold Past at hp
  rcases pending_cases h with ⟨hs, rfl⟩ | ⟨hs, rfl⟩
  · rcases hp with hp | ⟨_, hp | hp⟩
    · exact hp
    · rcases hs with hs | hs <;> rw [hs] at hp <;> cases hp
    · rcases hs with hs | hs <;> rw [hs] at hp <;> cases hp
  · rcases hp with hp | ⟨hp, _⟩ <;> omega

theorem Past.not_pending (hp : p.Past i) : p.isPendingFor i n = false := by
  cases h : p.isPendingFor i n with
  | false => rfl
  | true => exact absurd (hp.lt_of_pending h) (Nat.lt_irrefl i)

theorem apply_of_pending (h : p.isPendingFor j n = true) (o : StepOutcome) :
    (p.apply j n o).2 = ⟨j, statusOf o⟩ := by
  simp [apply, h]

end TargetProgress

open TargetProgress

variable {m i j n : Nat} {t : JobTarget} {r : Except String TargetOutcome}

theorem countPass_eq (m j : Nat) (t : JobTarget) (o : StepOutcome) :
    ∃ a, (countPass m j t o).1 = { t with againPasses := a } := by
  cases o
  case again =>
    simp only [countPass]
    split <;> exact ⟨_, rfl⟩
  all_goals exact ⟨_, rfl⟩

theorem noteOutcome_eq (t : JobTarget) (o : StepOutcome) :
    ∃ e, noteOutcome t o = { t with lastException := e } := by
  cases o <;> exact ⟨_, rfl⟩

theorem driveTarget_eq (m j n : Nat) (t : JobTarget) (r : Except String TargetOutcome) :
    ∃ a e, driveTarget m j n t r =
      { t with operationId := (absorbResult t r).1.operationId, againPasses := a,
               lastException := e, progress := (driveTarget m j n t r).progress } := by
  obtain ⟨a, ha⟩ := countPass_eq m j (absorbResult t r).1 (absorbResult t r).2
  obtain ⟨e, he⟩ := noteOutcome_eq (countPass m j (absorbResult t r).1 (absorbResult t r).2).1
    (countPass m j (absorbResult t r).1 (absorbResult t r).2).2
  have habs : (absorbResult t r).1 =
      { t with operationId := (absorbResult t r).1.operationId } := by
    cases r <;> rfl
  refine ⟨a, e, ?_⟩
  simp only [driveTarget]
  rw [he, ha, habs]

theorem progress_driveTarget (h : t.progress.isPendingFor j n = true) :
    ∃ o, (driveTarget m j n t r).progress = ⟨j, statusOf o⟩ ∧
      (o = .again → ∃ v, r = .ok v ∧ v.outcome = .again) := by
  have e : (noteOutcome (countPass m j (absorbResult t r).1 (absorbResult t r).2).1
      (countPass m j (absorbResult t r).1 (absorbResult t r).2).2).progress = t.progress := by
    rw [noteOutcome_progress, countPass_progress, absorbResult_progress]
  refine ⟨(countPass m j (absorbResult t r).1 (absorbResult t r).2).2, ?_, ?_⟩
  · simp only [driveTarget]
    rw [apply_of_pending (by rw [e]; exact h)]
  · intro ha
    cases r with
    | error msg => simp [absorbResult, countPass] at ha
    | ok v =>
      refine ⟨v, rfl, ?_⟩
      cases hv : v.outcome
      case again => rfl
      all_goals simp [absorbResult, countPass, hv] at ha

/-- What identifies a job target in its store: its tenant, job and target id. -/
structure TargetKey where
  tenantId : String
  jobId : String
  targetId : String
  deriving DecidableEq

def JobTarget.key (t : JobTarget) : TargetKey :=
  ⟨t.tenantId, t.jobId, t.targetId⟩

theorem key_driveTarget (m j n : Nat) (t : JobTarget) (r : Except String TargetOutcome) :
    (driveTarget m j n t r).key = t.key ∧ (driveTarget m j n t r).version = t.version := by
  obtain ⟨a, e, h⟩ := driveTarget_eq m j n t r
  rw [h]
  exact ⟨rfl, rfl⟩

namespace TargetStore

def find (s : TargetStore) (k : TargetKey) : Option JobTarget :=
  s.targets.find? (isTarget k.tenantId k.jobId k.targetId)

variable {s s' : TargetStore} {k : TargetKey} {t t' : JobTarget}

theorem isTarget_eq (k : TargetKey) :
    isTarget k.tenantId k.jobId k.targetId = fun x => decide (x.key = k) := by
  funext x
  obtain ⟨a, b, c⟩ := k
  apply Bool.eq_iff_iff.mpr
  simp [isTarget, JobTarget.key, and_assoc]

theorem isTarget_of (y : JobTarget) :
    isTarget y.tenantId y.jobId y.targetId = fun x => decide (x.key = y.key) :=
  isTarget_eq y.key

theorem find_eq (s : TargetStore) (k : TargetKey) :
    s.find k = s.targets.find? fun x => decide (x.key = k) := by
  rw [find, isTarget_eq]

theorem find_key (h : s.find k = some t) : t.key = k := by
  rw [find_eq] at h
  simpa using List.find?_some h

theorem find_update (h : s.update t = .ok (t', s')) (k : TargetKey) :
    s'.find k = if k = t.key then some t' else s.find k := by
  unfold update at h
  dsimp only at h
  split at h
  · cases h
  · rename_i stored hs
    split at h
    · cases h
    · obtain ⟨rfl, rfl⟩ := Prod.mk.inj (Except.ok.inj h)
      simp only [isTarget_of] at hs ⊢
      simp only [find_eq, List.find?_map]
      have hp : ((fun x => decide (x.key = k)) ∘ fun x =>
          if decide (x.key = t.key) then ({ t with version := t.version + 1 } : JobTarget)
          else x) = fun x => decide (x.key = k) := by
        funext x
        by_cases hx : x.key = t.key
        · simp only [Function.comp, hx, decide_true, if_true]
          rfl
        · simp [hx]
      rw [hp]
      by_cases hk : k = t.key
      · subst hk
        simp [hs, (by simpa using List.find?_some hs : stored.key = t.key)]
      · rw [if_neg hk]
        cases hfk : s.targets.find? (fun x => decide (x.key = k)) with
        | none => rfl
        | some y =>
          have hy : y.key = k := by simpa using List.find?_some hfk
          simp [hy, hk]

theorem update_of_find (h : s.find t.key = some t') (hv : t'.version = t.version) :
    ∃ s', s.update t = .ok ({ t with version := t.version + 1 }, s') := by
  unfold update
  have h' : s.targets.find? (isTarget t.tenantId t.jobId t.targetId) = some t' := h
  simp [h', hv]

end TargetStore

end DeviceFleet.Job
