import DeviceFleet.Json.Value

/-!
# The bench: common shapes

The bench drives the library from JSON commands and reports in JSON. A command answers a
document, or stops with a panic: the text a fatal error of the server would print. Failures
of the library are answered as `{"error": kind, "message": text}`.
-/

namespace DeviceFleet.Bench

abbrev Answer := Except String Json

def failure (kind message : String) : Json :=
  .obj [("error", .str kind), ("message", .str message)]

def failureWith (kind message : String) (more : List (String × Json)) : Json :=
  .obj ([("error", .str kind), ("message", .str message)] ++ more)

def badInput (message : String) : Json :=
  failure "bad_input" message

/-- Why a run of calls stopped early: a document that answers the whole command, or a fatal
error. -/
inductive Stop where
  | answer (j : Json)
  | fatal (message : String)

def Stop.toAnswer : Stop → Answer
  | .answer j => .ok j
  | .fatal m => .error m

def sortTexts (xs : List String) : List String :=
  xs.foldl (fun acc x => insertText x acc) []
where
  insertText (x : String) : List String → List String
    | [] => [x]
    | y :: ys => if x < y then x :: y :: ys else y :: insertText x ys

/-- A session: a state built from the command's settings and the clock reading at its start,
and one step at a time. -/
structure Session where
  State : Type
  start : Int → Json → Except Json State
  step : State → Json → Except String (Json × State)

end DeviceFleet.Bench
