import DeviceFleet.Bench.Basic
import DeviceFleet.Job.Progress

/-!
# The bench: target progress

-/

namespace DeviceFleet.Bench

open Job

def statusOfJson (key : String) (j : Json) : Except Json TargetStatus :=
  match j.str?.bind TargetStatus.ofName? with
  | some s => .ok s
  | none => .error (badInput (key ++ ": unknown variant `" ++ (j.str?.getD "") ++
      "`, expected one of `IN_QUEUE`, `PROCESS_OK`, `PROCESS_FAILED`, `PROCESS_AGAIN`"))

def progressOfJson (j : Json) : Except Json TargetProgress := do
  let s ← statusOfJson "status" ((j.field? "status").getD .null)
  pure ⟨(j.intOr "step_index" 0).toNat, s⟩

def progressJson (p : TargetProgress) : Json :=
  .obj [("step_index", .int p.stepIndex), ("status", .str p.status.name)]

def transitionJson : Transition → Json
  | .moved s t => .obj [("moved", .obj [("from", .str s.name), ("to", .str t.name)])]
  | .notPending i s =>
    .obj [("not_pending", .obj [("step_index", .int i), ("status", .str s.name)])]

def progressCall (p : TargetProgress) (c : Json) : Except Json (Except String (Json × TargetProgress)) :=
  let count := (c.intOr "step_count" 0).toNat
  let index := (c.intOr "step_index" 0).toNat
  match c.strOr "call" "" with
  | "next_step" =>
    .ok (if p.overflows then .error addOverflow
      else .ok (Json.optInt ((p.nextStep count).map Int.ofNat), p))
  | "is_terminal" =>
    .ok (if p.overflows then .error addOverflow else .ok (.bool (p.isTerminal count), p))
  | "is_pending_for" =>
    .ok (if p.overflows then .error addOverflow
      else .ok (.bool (p.isPendingFor index count), p))
  | "apply" =>
    let outcome : Except Json StepOutcome := match c.strOr "outcome" "" with
      | "ok" => .ok .ok
      | "again" => .ok .again
      | "failed" => .ok (.failed (c.strOr "reason" ""))
      | other => .error (badInput ("unknown outcome " ++ other))
    outcome.map fun o =>
      if p.overflows then .error addOverflow
      else
        let (t, p') := p.apply index count o
        .ok (transitionJson t, p')
  | other => .error (badInput ("unknown call " ++ other))

def progressReport (input : Json) : Answer :=
  let start : Except Json TargetProgress := match input.field? "start" with
    | some s => progressOfJson s
    | none => .ok (TargetProgress.queued (input.intOr "queued" 0).toNat)
  match start with
  | .error j => .ok j
  | .ok p0 =>
    let calls := ((input.field? "calls").bind Json.arr?).getD []
    let run := calls.foldlM (fun (acc : List Json × TargetProgress) c =>
      match progressCall acc.2 c with
      | .error j => (Except.error (Stop.answer j) : Except Stop _)
      | .ok (.error fatal) => .error (.fatal fatal)
      | .ok (.ok (r, p')) =>
        .ok (acc.1 ++ [Json.obj [("result", r), ("progress", progressJson p')]], p')) ([], p0)
    match run with
    | .ok (out, _) => .ok (.arr out)
    | .error stop => stop.toAnswer

def transitionReport (input : Json) : Answer :=
  match statusOfJson "from" ((input.field? "from").getD .null),
      statusOfJson "to" ((input.field? "to").getD .null) with
  | .ok s, .ok t => .ok (.bool (isValidTransition s t))
  | .error j, _ => .ok j
  | _, .error j => .ok j

def resumeReport (input : Json) : Answer :=
  match (((input.field? "progress").bind Json.arr?).getD []).mapM progressOfJson with
  | .error j => .ok j
  | .ok ps =>
    if ps.any TargetProgress.overflows then .error addOverflow
    else .ok (Json.optInt ((resumeStep ps (input.intOr "step_count" 0).toNat).map Int.ofNat))

end DeviceFleet.Bench
