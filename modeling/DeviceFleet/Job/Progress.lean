/-!
# Target progress

A target's progress is the step it is at and how that step went; it is pending for the step it
should run next, and an outcome moves it only for that step. Step indices are 32-bit.
-/

namespace DeviceFleet.Job

/-- How a target's current step went. -/
inductive TargetStatus where
  | inQueue
  | processOk
  | processFailed
  | processAgain
  deriving DecidableEq, Repr, Inhabited

namespace TargetStatus

def name : TargetStatus → String
  | .inQueue => "IN_QUEUE"
  | .processOk => "PROCESS_OK"
  | .processFailed => "PROCESS_FAILED"
  | .processAgain => "PROCESS_AGAIN"

def ofName? : String → Option TargetStatus
  | "IN_QUEUE" => some .inQueue
  | "PROCESS_OK" => some .processOk
  | "PROCESS_FAILED" => some .processFailed
  | "PROCESS_AGAIN" => some .processAgain
  | _ => none

theorem ofName_name (s : TargetStatus) : ofName? s.name = some s := by
  cases s <;> rfl

end TargetStatus

/-- How running a step for a target went. -/
inductive StepOutcome where
  | ok
  | again
  | failed (reason : String)
  deriving DecidableEq, Repr

/-- What applying an outcome did. -/
inductive Transition where
  | moved (source target : TargetStatus)
  | notPending (stepIndex : Nat) (status : TargetStatus)
  deriving DecidableEq, Repr

/-- Where a target is. -/
structure TargetProgress where
  stepIndex : Nat
  status : TargetStatus
  deriving DecidableEq, Repr, Inhabited

def maxStepIndex : Nat := Nat.pow 2 32 - 1

def addOverflow : String := "attempt to add with overflow"

namespace TargetProgress

def queued (stepIndex : Nat) : TargetProgress := ⟨stepIndex, .inQueue⟩

def nextStep (p : TargetProgress) (stepCount : Nat) : Option Nat :=
  let next := match p.status with
    | .inQueue | .processAgain => some p.stepIndex
    | .processOk => some (p.stepIndex + 1)
    | .processFailed => none
  next.bind fun n => if n < stepCount then some n else none

def overflows (p : TargetProgress) : Bool :=
  p.status = .processOk && p.stepIndex ≥ maxStepIndex

def nextStepChecked (p : TargetProgress) (stepCount : Nat) : Except String (Option Nat) :=
  if p.overflows then .error addOverflow else .ok (p.nextStep stepCount)

def isPendingFor (p : TargetProgress) (stepIndex stepCount : Nat) : Bool :=
  p.nextStep stepCount = some stepIndex

def isTerminal (p : TargetProgress) (stepCount : Nat) : Bool :=
  (p.nextStep stepCount).isNone

def statusOf : StepOutcome → TargetStatus
  | .ok => .processOk
  | .again => .processAgain
  | .failed _ => .processFailed

/-- Apply the outcome of running a step: the target moves only when pending for that step. -/
def apply (p : TargetProgress) (stepIndex stepCount : Nat) (o : StepOutcome) :
    Transition × TargetProgress :=
  if p.isPendingFor stepIndex stepCount then
    (.moved p.status (statusOf o), ⟨stepIndex, statusOf o⟩)
  else (.notPending p.stepIndex p.status, p)

end TargetProgress

/-- Whether a stored status may be replaced by another: a queued or retried step may end in
any result, and any target may be queued again. -/
def isValidTransition (source target : TargetStatus) : Bool :=
  match source, target with
  | .inQueue, .processOk | .inQueue, .processFailed | .inQueue, .processAgain => true
  | .processAgain, .processOk | .processAgain, .processFailed
  | .processAgain, .processAgain => true
  | _, .inQueue => true
  | _, _ => false

def resumeStep (ps : List TargetProgress) (stepCount : Nat) : Option Nat :=
  ps.foldl (fun acc p =>
    match acc, p.nextStep stepCount with
    | some a, some n => some (min a n)
    | none, some n => some n
    | a, none => a) none

theorem apply_moves_only_pending (p : TargetProgress) (i n : Nat) (o : StepOutcome)
    (h : p.isPendingFor i n = false) : (p.apply i n o).2 = p := by
  simp [TargetProgress.apply, h]

end DeviceFleet.Job
