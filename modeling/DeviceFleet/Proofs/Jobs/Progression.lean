import DeviceFleet.Proofs.Jobs.Passes
import Mathlib.Order.WithBot

/-!
# How a target progresses through the steps of its job

Every progress a target reaches moves forward (`progress_moves_forward`), and each field of a
presented target follows its own rule (`presentation_classified`), the pass counter included.
-/

namespace DeviceFleet.Job

namespace TargetProgress

variable {p : TargetProgress} {n i s : Nat} {o : StepOutcome}

def applyAll (p : TargetProgress) (n : Nat) : List (Nat × StepOutcome) → TargetProgress
  | [] => p
  | c :: cs => (p.apply c.1 n c.2).2.applyAll n cs

def horizon (p : TargetProgress) (n : Nat) : WithTop ℕ :=
  match p.nextStep n with
  | some k => WithTop.some k
  | none => ⊤

theorem horizon_eq_top_iff : p.horizon n = ⊤ ↔ p.nextStep n = none := by
  unfold horizon
  split <;> simp_all

theorem apply_of_not_pending (h : p.isPendingFor i n = false) (o : StepOutcome) :
    p.apply i n o = (.notPending p.stepIndex p.status, p) := by
  simp [apply, h]

theorem stepIndex_apply_lt (h : p.stepIndex < n) (i : Nat) (o : StepOutcome) :
    (p.apply i n o).2.stepIndex < n := by
  cases hp : p.isPendingFor i n with
  | false => rw [apply_of_not_pending hp]; exact h
  | true => rw [apply_of_pending hp]; exact lt_of_pending hp

theorem stepIndex_applyAll_lt (h : p.stepIndex < n) (cs : List (Nat × StepOutcome)) :
    (p.applyAll n cs).stepIndex < n := by
  induction cs generalizing p with
  | nil => exact h
  | cons c cs ih => exact ih (stepIndex_apply_lt h c.1 c.2)

theorem nextStepChecked_of_lt (hn : n ≤ maxStepIndex) (h : p.stepIndex < n) :
    p.nextStepChecked n = .ok (p.nextStep n) := by
  have hno : p.overflows = false := by
    simp only [overflows, Bool.and_eq_false_iff, decide_eq_false_iff_not]
    omega
  simp [nextStepChecked, hno]

theorem horizon_le_apply (p : TargetProgress) (n i : Nat) (o : StepOutcome) :
    p.horizon n ≤ (p.apply i n o).2.horizon n := by
  cases hp : p.isPendingFor i n with
  | false => simp only [apply_of_not_pending hp, le_refl]
  | true =>
    have hi : p.nextStep n = some i := by simpa [isPendingFor] using hp
    have hlt : i < n := lt_of_pending hp
    rw [apply_of_pending hp]
    unfold horizon
    rw [hi]
    cases o with
    | ok =>
      by_cases h1 : i + 1 < n
      · simp [nextStep, statusOf, h1]
      · simp [nextStep, statusOf, h1]
    | again => simp [nextStep, statusOf, hlt]
    | failed reason => simp [nextStep, statusOf]

theorem horizon_le_applyAll (p : TargetProgress) (n : Nat) (cs : List (Nat × StepOutcome)) :
    p.horizon n ≤ (p.applyAll n cs).horizon n := by
  induction cs generalizing p with
  | nil => exact le_rfl
  | cons c cs ih => exact (horizon_le_apply p n c.1 c.2).trans (ih _)

theorem nextStep_applyAll_of_none (h : p.nextStep n = none) (cs : List (Nat × StepOutcome)) :
    (p.applyAll n cs).nextStep n = none := by
  rw [← horizon_eq_top_iff] at h ⊢
  exact top_le_iff.mp (h ▸ horizon_le_applyAll p n cs)

theorem valid_of_moved {a b : TargetStatus} (h : (p.apply i n o).1 = .moved a b)
    (hs : (p.apply i n o).2.stepIndex = p.stepIndex) : isValidTransition a b = true := by
  cases hp : p.isPendingFor i n with
  | false =>
    rw [apply_of_not_pending hp] at h
    cases h
  | true =>
    have hm : (p.apply i n o).1 = .moved p.status (statusOf o) := by simp [apply, hp]
    rw [hm] at h
    cases h
    rw [apply_of_pending hp] at hs
    rcases pending_cases hp with ⟨hq | hq, -⟩ | ⟨-, hi⟩
    · rw [hq]; cases o <;> rfl
    · rw [hq]; cases o <;> rfl
    · simp only at hs
      omega

/-- What holds of a progress reached among `n` steps, whatever it is told next: it is below
the step count and computes its next step without overflow, it ignores outcomes for steps it is
not pending for, its next step never comes earlier and never comes back once gone, and the
moves that keep it at its step are allowed. -/
structure Forward (n : Nat) (p : TargetProgress) : Prop where
  below : p.stepIndex < n
  checked : p.nextStepChecked n = .ok (p.nextStep n)
  ignores : ∀ i o, p.isPendingFor i n = false →
    p.apply i n o = (.notPending p.stepIndex p.status, p)
  horizon_le : ∀ later, p.horizon n ≤ (p.applyAll n later).horizon n
  done : p.nextStep n = none → ∀ later, (p.applyAll n later).nextStep n = none
  valid : ∀ i o a b, (p.apply i n o).1 = .moved a b →
    (p.apply i n o).2.stepIndex = p.stepIndex → isValidTransition a b = true

theorem forward_of_lt (hn : n ≤ maxStepIndex) (h : p.stepIndex < n) : p.Forward n :=
  ⟨h, nextStepChecked_of_lt hn h, fun _ o hp => apply_of_not_pending hp o,
    horizon_le_applyAll p n, nextStep_applyAll_of_none, fun _ _ _ _ => valid_of_moved⟩

/-- From a target queued at one of `n` steps, `n` a 32-bit count, every progress reached by
outcomes applied at any steps moves forward. -/
theorem progress_moves_forward (hn : n ≤ maxStepIndex) (hs : s < n)
    (calls : List (Nat × StepOutcome)) : ((queued s).applyAll n calls).Forward n :=
  forward_of_lt hn (stepIndex_applyAll_lt hs calls)

theorem progress_moves_forward_after_ok_and_again :
    3 ≤ maxStepIndex ∧ 0 < 3 ∧ ((queued 0).applyAll 3 [(0, .ok), (1, .again)]).Forward 3 :=
  ⟨by decide, by decide, progress_moves_forward (by decide) (by decide) _⟩

end TargetProgress

open TargetProgress

variable {m j n : Nat} {t : JobTarget} {r : Except String TargetOutcome} {v : TargetOutcome}

/-- The outcome a presentation at step `j` settles on, allowing `m` passes that ask to come
again: a failure fails the step with its message, an answer to come again once more than `m`
times fails it too, and every other answer stands. -/
def passOutcome (m j : Nat) (t : JobTarget) : Except String TargetOutcome → StepOutcome
  | .error reason => .failed reason
  | .ok v =>
    if v.outcome = .again ∧ m < t.againPasses + 1 then
      .failed ("still pending after " ++ Text.natText m ++ " passes on step " ++ Text.natText j)
    else v.outcome

def asksAgain : Except String TargetOutcome → Bool
  | .ok v => v.outcome == .again
  | .error _ => false

/-- How a presentation at step `j` of `n`, allowing `m` passes that ask to come again, leaves
each field of the target `t` whose processor answered `r`. -/
structure Classified (m j n : Nat) (t : JobTarget) (r : Except String TargetOutcome) : Prop where
  progress : (driveTarget m j n t r).progress = (t.progress.apply j n (passOutcome m j t r)).2
  againPasses : (driveTarget m j n t r).againPasses = if asksAgain r then t.againPasses + 1 else 0
  lastException : (driveTarget m j n t r).lastException =
    match passOutcome m j t r with
    | .failed reason => some reason
    | .ok => none
    | .again => t.lastException
  operationId : (driveTarget m j n t r).operationId =
    (r.toOption.bind TargetOutcome.operationId).or t.operationId

theorem countPass_absorbResult (m j : Nat) (t : JobTarget) (r : Except String TargetOutcome) :
    (countPass m j (absorbResult t r).1 (absorbResult t r).2).2 = passOutcome m j t r := by
  cases r with
  | error reason => rfl
  | ok v =>
    cases hv : v.outcome with
    | again =>
      simp only [absorbResult, countPass, passOutcome, hv, true_and, gt_iff_lt]
      split <;> rfl
    | ok => simp [absorbResult, countPass, passOutcome, hv]
    | failed reason => simp [absorbResult, countPass, passOutcome, hv]

theorem againPasses_countPass (m j : Nat) (t : JobTarget) (o : StepOutcome) :
    (countPass m j t o).1.againPasses = if o = .again then t.againPasses + 1 else 0 := by
  cases o
  case again =>
    simp only [countPass]
    split <;> rfl
  all_goals rfl

theorem lastException_countPass (m j : Nat) (t : JobTarget) (o : StepOutcome) :
    (countPass m j t o).1.lastException = t.lastException := by
  cases o
  case again =>
    simp only [countPass]
    split <;> rfl
  all_goals rfl

theorem operationId_countPass (m j : Nat) (t : JobTarget) (o : StepOutcome) :
    (countPass m j t o).1.operationId = t.operationId := by
  cases o
  case again =>
    simp only [countPass]
    split <;> rfl
  all_goals rfl

theorem driveTarget_unfold (m j n : Nat) (t : JobTarget) (r : Except String TargetOutcome) :
    driveTarget m j n t r =
      let t' := noteOutcome (countPass m j (absorbResult t r).1 (absorbResult t r).2).1
        (passOutcome m j t r)
      { t' with progress := (t'.progress.apply j n (passOutcome m j t r)).2 } := by
  simp only [driveTarget, ← countPass_absorbResult m j t r]

theorem progress_driveTarget_eq (m j n : Nat) (t : JobTarget) (r : Except String TargetOutcome) :
    (driveTarget m j n t r).progress = (t.progress.apply j n (passOutcome m j t r)).2 := by
  rw [driveTarget_unfold]
  simp only [noteOutcome_progress, countPass_progress, absorbResult_progress]

theorem againPasses_driveTarget (m j n : Nat) (t : JobTarget) (r : Except String TargetOutcome) :
    (driveTarget m j n t r).againPasses = if asksAgain r then t.againPasses + 1 else 0 := by
  rw [driveTarget_unfold]
  simp only [againPasses_noteOutcome, againPasses_countPass, againPasses_absorbResult]
  cases r with
  | error reason => simp [absorbResult, asksAgain]
  | ok v => cases hv : v.outcome <;> simp [absorbResult, asksAgain, hv]

theorem lastException_driveTarget (m j n : Nat) (t : JobTarget) (r : Except String TargetOutcome) :
    (driveTarget m j n t r).lastException =
      match passOutcome m j t r with
      | .failed reason => some reason
      | .ok => none
      | .again => t.lastException := by
  have hk : (countPass m j (absorbResult t r).1 (absorbResult t r).2).1.lastException =
      t.lastException := by
    rw [lastException_countPass]
    cases r <;> rfl
  rw [driveTarget_unfold]
  cases passOutcome m j t r <;> simp [noteOutcome, hk]

theorem operationId_driveTarget (m j n : Nat) (t : JobTarget) (r : Except String TargetOutcome) :
    (driveTarget m j n t r).operationId =
      (r.toOption.bind TargetOutcome.operationId).or t.operationId := by
  have hn : ∀ (x : JobTarget) (o : StepOutcome), (noteOutcome x o).operationId = x.operationId := by
    intro x o
    cases o <;> rfl
  rw [driveTarget_unfold]
  simp only [hn, operationId_countPass]
  cases r with
  | error reason => rfl
  | ok v =>
    obtain ⟨o, id⟩ := v
    cases id <;> rfl

theorem classified (m j n : Nat) (t : JobTarget) (r : Except String TargetOutcome) :
    Classified m j n t r :=
  ⟨progress_driveTarget_eq m j n t r, againPasses_driveTarget m j n t r,
    lastException_driveTarget m j n t r, operationId_driveTarget m j n t r⟩

/-- A target pending for step `j` whose processor asks it to come again is put back at the
step, asked again while it has passes left and failed after the last; one more pass is counted
either way. -/
theorem driveTarget_again (hp : t.progress.isPendingFor j n = true) (hv : v.outcome = .again) :
    (driveTarget m j n t (.ok v)).progress =
        ⟨j, if t.againPasses + 1 ≤ m then .processAgain else .processFailed⟩ ∧
      (driveTarget m j n t (.ok v)).againPasses = t.againPasses + 1 := by
  refine ⟨?_, ?_⟩
  · rw [progress_driveTarget_eq, apply_of_pending hp]
    by_cases hle : t.againPasses + 1 ≤ m
    · simp [passOutcome, hv, statusOf, hle, show ¬ m < t.againPasses + 1 by omega]
    · simp [passOutcome, hv, statusOf, hle, show m < t.againPasses + 1 by omega]
  · rw [againPasses_driveTarget]
    simp [asksAgain, hv]

theorem progress_iterate_of_not_pending (h : t.progress.isPendingFor j n = false) (k : Nat) :
    ((fun x => driveTarget m j n x r)^[k] t).progress = t.progress := by
  induction k generalizing t with
  | zero => rfl
  | succ k ih =>
    have hd := driveTarget_not_pending m j n t r h
    rw [Function.iterate_succ_apply, ih (by rw [hd]; exact h), hd]

/-- Presented to a step it is pending for by a processor that always asks it to come again, a
target that took `a` passes there is asked again at pass `k + 1` while `a + k + 1 ≤ m`, and is
failed from then on. -/
theorem status_iterate_again (hp : t.progress.isPendingFor j n = true) (hv : v.outcome = .again)
    (k : Nat) :
    ((fun x => driveTarget m j n x (.ok v))^[k + 1] t).progress.status =
      if t.againPasses + (k + 1) ≤ m then .processAgain else .processFailed := by
  induction k generalizing t with
  | zero => rw [Function.iterate_one, (driveTarget_again hp hv).1]
  | succ k ih =>
    obtain ⟨hprog, hpass⟩ := driveTarget_again (m := m) hp hv
    rw [Function.iterate_succ_apply]
    by_cases hle : t.againPasses + 1 ≤ m
    · have hp' : (driveTarget m j n t (.ok v)).progress.isPendingFor j n = true := by
        rw [hprog, if_pos hle, pending_iff_of_progress]
        exact .inl ⟨.inr rfl, rfl, lt_of_pending hp⟩
      have hsum : t.againPasses + 1 + (k + 1) = t.againPasses + (k + 1 + 1) := by omega
      rw [ih hp', hpass, hsum]
    · have hnp : (driveTarget m j n t (.ok v)).progress.isPendingFor j n = false := by
        rw [hprog, if_neg hle]
        simp [isPendingFor, nextStep]
      rw [progress_iterate_of_not_pending hnp, hprog, if_neg hle, if_neg (by omega)]

/-- A presentation to step `j` of a target pending for it, whose pass can be counted, updates
each field of the target by its own rule; and with a processor that always asks to come again,
the target is asked again after each presentation while its passes there are at most `m`, and
failed after the next, for as long as its counter has room for the presentations. -/
theorem presentation_classified (hp : t.progress.isPendingFor j n = true)
    (r : Except String TargetOutcome) :
    (countOverflows t r = false → Classified m j n t r) ∧
      ∀ v : TargetOutcome, v.outcome = .again → ∀ k, t.againPasses + k < maxPassCount →
        ((fun x => driveTarget m j n x (.ok v))^[k + 1] t).progress.status =
          if t.againPasses + (k + 1) ≤ m then .processAgain else .processFailed :=
  ⟨fun _ => classified m j n t r, fun _ hv k _ => status_iterate_again hp hv k⟩

theorem presentation_classified_after_breakdown :
    ({ jobId := "job-1", tenantId := "1", targetId := "a" } : JobTarget).progress.isPendingFor
        0 2 = true ∧
      Classified 2 0 2 { jobId := "job-1", tenantId := "1", targetId := "a" }
        (ScriptedResult.panicked.toResult "a") ∧
      ∀ v : TargetOutcome, v.outcome = .again → ∀ k, 0 + k < maxPassCount →
        ((fun x => driveTarget 2 0 2 x (.ok v))^[k + 1]
            { jobId := "job-1", tenantId := "1", targetId := "a" }).progress.status =
          if 0 + (k + 1) ≤ 2 then .processAgain else .processFailed :=
  have h := presentation_classified (m := 2) (t := { jobId := "job-1", tenantId := "1", targetId := "a" })
    (by decide) (ScriptedResult.panicked.toResult "a")
  ⟨by decide, h.1 (by decide), h.2⟩

theorem countOverflows_eq (t : JobTarget) (r : Except String TargetOutcome) :
    countOverflows t r = (asksAgain r && decide (maxPassCount ≤ t.againPasses)) := by
  cases r <;> rfl

theorem againPasses_iterate_again (hv : v.outcome = .again) (k : Nat) :
    ((fun x => driveTarget m j n x (.ok v))^[k] t).againPasses = t.againPasses + k := by
  induction k generalizing t with
  | zero => rfl
  | succ k ih =>
    rw [Function.iterate_succ_apply, ih, againPasses_driveTarget]
    simp [asksAgain, hv]
    omega

/-- With as many passes allowed as the counter holds, a target always asked to come again is
still asked again after presentation `maxPassCount`, and presentation `maxPassCount + 1` cannot
count its pass: it never fails. -/
theorem always_again_overflows_at_largest_limit :
    ((fun x => driveTarget maxPassCount 0 2 x (.ok ⟨.again, none⟩))^[maxPassCount]
        ({ jobId := "job-1", tenantId := "1", targetId := "a" } : JobTarget)).progress.status =
      .processAgain ∧
    countOverflows ((fun x => driveTarget maxPassCount 0 2 x (.ok ⟨.again, none⟩))^[maxPassCount]
        ({ jobId := "job-1", tenantId := "1", targetId := "a" } : JobTarget)) (.ok ⟨.again, none⟩) =
      true := by
  refine ⟨?_, ?_⟩
  · have h := status_iterate_again (m := maxPassCount) (j := 0) (n := 2) (v := ⟨.again, none⟩)
      (t := { jobId := "job-1", tenantId := "1", targetId := "a" }) (by decide) rfl
      (maxPassCount - 1)
    rw [Nat.sub_add_cancel (by decide : 1 ≤ maxPassCount)] at h
    rw [h, if_pos (show 0 + maxPassCount ≤ maxPassCount by omega)]
  · rw [countOverflows_eq, againPasses_iterate_again rfl]
    decide

end DeviceFleet.Job
