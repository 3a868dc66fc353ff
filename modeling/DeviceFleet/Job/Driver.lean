import DeviceFleet.Job.Model
import DeviceFleet.Text.Decimal

/-!
# Driving a target through a step

The driver turns a processor's answer into the target's new state: failures fail the step,
"again" counts a pass up to the limit (`countOverflows` past the counter's largest value), and
the progress moves only when the target was pending for the step.
-/

namespace DeviceFleet.Job

/-- What a processor made of a target at a step. -/
structure TargetOutcome where
  outcome : StepOutcome
  operationId : Option Uuid := none
  deriving DecidableEq, Repr

def targetFailure (targetId reason : String) : String :=
  "Target " ++ targetId ++ ": " ++ reason

def targetPanicked (targetId : String) : String :=
  targetFailure targetId "processor panicked"

/-- A processor's result taken in: the operation it names, and the outcome, a failure
failing the step. -/
def absorbResult (t : JobTarget) : Except String TargetOutcome → JobTarget × StepOutcome
  | .ok o =>
    ({ t with operationId := if o.operationId.isSome then o.operationId else t.operationId },
      o.outcome)
  | .error reason => (t, .failed reason)

/-- Count a pass that asks to come again, failing the step past `maxAgainPasses` passes; any
other outcome resets the count. -/
def countPass (maxAgainPasses stepIndex : Nat) (t : JobTarget) :
    StepOutcome → JobTarget × StepOutcome
  | .again =>
    let t := { t with againPasses := t.againPasses + 1 }
    if t.againPasses > maxAgainPasses then
      (t, .failed ("still pending after " ++ Text.natText maxAgainPasses ++ " passes on step " ++
        Text.natText stepIndex))
    else (t, .again)
  | o => ({ t with againPasses := 0 }, o)

def maxPassCount : Nat := Nat.pow 2 32 - 1

/-- Whether counting the pass of a result overflows the target's counter: the result asks to
come again while the counter already holds its largest count. -/
def countOverflows (t : JobTarget) (result : Except String TargetOutcome) : Bool :=
  (absorbResult t result).2 == .again && decide (maxPassCount ≤ t.againPasses)

theorem countOverflows_eq_false {t : JobTarget} (h : t.againPasses < maxPassCount)
    (r : Except String TargetOutcome) : countOverflows t r = false := by
  simp [countOverflows, Nat.not_le.mpr h]

def noteOutcome (t : JobTarget) : StepOutcome → JobTarget
  | .failed r => { t with lastException := some r }
  | .ok => { t with lastException := none }
  | .again => t

/-- The target after a processor's result at step `stepIndex` of `stepCount`, allowing
`maxAgainPasses` passes that ask to come again. -/
def driveTarget (maxAgainPasses stepIndex stepCount : Nat) (t : JobTarget)
    (result : Except String TargetOutcome) : JobTarget :=
  let (t, outcome) := absorbResult t result
  let (t, outcome) := countPass maxAgainPasses stepIndex t outcome
  let t := noteOutcome t outcome
  { t with progress := (t.progress.apply stepIndex stepCount outcome).2 }

theorem absorbResult_progress (t : JobTarget) (r : Except String TargetOutcome) :
    (absorbResult t r).1.progress = t.progress := by
  cases r <;> rfl

theorem countPass_progress (m i : Nat) (t : JobTarget) (o : StepOutcome) :
    (countPass m i t o).1.progress = t.progress := by
  cases o
  case again =>
    simp only [countPass]
    split <;> rfl
  all_goals rfl

theorem noteOutcome_progress (t : JobTarget) (o : StepOutcome) :
    (noteOutcome t o).progress = t.progress := by
  cases o <;> rfl

/-- What the scripted processor does with a target at a step. -/
inductive ScriptedResult where
  | outcome (o : StepOutcome)
  | failure (message : String)
  | panicked
  deriving DecidableEq, Repr

/-- Whether the scripted behaviour of a target applies at a step. Without `@` it applies at
every step; with one, only at the step numbered by the digits right after the first `@`, and
at no step when no digit follows it. -/
def scriptedActsAt (targetId : String) (stepIndex : Nat) : Bool :=
  match targetId.splitOn "@" with
  | _ :: k :: rest =>
    let ds := ("@".intercalate (k :: rest)).toList.takeWhile Char.isDigit
    !ds.isEmpty && ds.foldl (fun n c => n * 10 + (c.toNat - 48)) 0 == stepIndex
  | _ => true

/-- The decision of the scripted processor for a target at step `stepIndex`, named
`stepName`. -/
def scripted (targetId stepName : String) (stepIndex : Nat) : ScriptedResult :=
  let word := (targetId.splitOn "@").headD targetId
  if !scriptedActsAt targetId stepIndex then .outcome .ok
  else if word.startsWith "panic" then .panicked
  else if word.startsWith "fail" then
    .failure (targetFailure targetId ("scripted failure at step " ++ Text.natText stepIndex))
  else if word.startsWith "again" then .outcome .again
  else if word.startsWith "reject" then
    .outcome (.failed ("rejected " ++ targetId ++ " on " ++ stepName))
  else .outcome .ok

def ScriptedResult.toResult (targetId : String) : ScriptedResult → Except String TargetOutcome
  | .outcome o => .ok { outcome := o }
  | .failure m => .error m
  | .panicked => .error (targetPanicked targetId)

theorem driveTarget_not_pending (m i n : Nat) (t : JobTarget) (r : Except String TargetOutcome)
    (h : t.progress.isPendingFor i n = false) :
    (driveTarget m i n t r).progress = t.progress := by
  have e : (noteOutcome (countPass m i (absorbResult t r).1 (absorbResult t r).2).1
      (countPass m i (absorbResult t r).1 (absorbResult t r).2).2).progress = t.progress := by
    rw [noteOutcome_progress, countPass_progress, absorbResult_progress]
  simp only [driveTarget]
  rw [apply_moves_only_pending _ _ _ _ (by rw [e]; exact h), e]

end DeviceFleet.Job
