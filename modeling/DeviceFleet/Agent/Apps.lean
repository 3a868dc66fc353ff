import DeviceFleet.Agent.Fingerprint
import DeviceFleet.Collections.SortedMap
import DeviceFleet.Protocol.Message
import DeviceFleet.Text.Quoted
import DeviceFleet.Text.Decimal

/-!
# Device applications

A device runs four applications over its state: bundles (`BUN-V1`), key material (`KEYS-V1`),
asset values (`ASSET-V1`) and status reports (`STATUS-V1`). Addressing one item takes one
non-empty resource segment; bodies are read as text with blanks around dropped.
-/

namespace DeviceFleet.Agent

/-- What running a request on a device gave. -/
inductive CommandResult where
  | completed (body : Bytes) (metrics : List Metric)
  | created
  | notFound (message : String)
  | notAllowed (message : String)
  | rejected (message : String)
  | failed (message : String)
  deriving DecidableEq, Repr

namespace CommandResult

def text (s : String) : CommandResult :=
  .completed s.toUTF8.toList []

def empty : CommandResult :=
  .completed [] []

def resultCode : CommandResult → Nat
  | .completed .. => 200
  | .created => 201
  | .rejected _ => 400
  | .notFound _ => 404
  | .notAllowed _ => 405
  | .failed _ => 500

end CommandResult

/-- What a device keeps: bundles and their versions, keys by alias, asset values, when it
started (milliseconds) and how often keys were rotated. -/
structure DeviceState where
  bundles : SortedMap String
  keys : SortedMap String
  assets : SortedMap String
  startedMs : Int
  keyRotations : Nat
  deriving DecidableEq, Repr

def DeviceState.seeded (now : Int) : DeviceState :=
  { bundles := [("core", "1.0.0")], keys := [("device", "k0-device")],
    assets := [("firmware", "1.0.0"), ("location", "unknown")], startedMs := now,
    keyRotations := 0 }

/-- A request as an application sees it. -/
structure AppRequest where
  method : Method
  resource : List String
  body : Bytes
  deriving DecidableEq, Repr

namespace AppRequest

def item (r : AppRequest) : Except CommandResult String :=
  match r.resource with
  | [name] => if name.isEmpty then .error (rejectedShape r.resource) else .ok name
  | _ => .error (rejectedShape r.resource)
where
  rejectedShape (resource : List String) : CommandResult :=
    .rejected ("expected one resource segment, got " ++ Text.listShown resource)

def bodyText (r : AppRequest) : String :=
  Text.trimBlank (Text.lossyText r.body)

end AppRequest

def listing (m : SortedMap String) : CommandResult :=
  CommandResult.text ("\n".intercalate (m.map fun (k, v) => k ++ "=" ++ v))

def notAllowed (app : String) (m : Method) : CommandResult :=
  .notAllowed (app ++ " does not support " ++ m.name)

/-- The bundles application. -/
def bundlesApp (s : DeviceState) (r : AppRequest) : CommandResult × DeviceState :=
  if r.method = .read && r.resource.isEmpty then (listing s.bundles, s)
  else
    match r.item with
    | .error res => (res, s)
    | .ok name =>
      let missing := CommandResult.notFound ("bundle " ++ name ++ " is not installed")
      match r.method with
      | .read =>
        match s.bundles.find? name with
        | some v => (.text v, s)
        | none => (missing, s)
      | .create =>
        let version := r.bodyText
        if version.isEmpty then (.rejected "bundle version missing", s)
        else if s.bundles.contains name then
          (.rejected ("bundle " ++ name ++ " is already installed"), s)
        else (.created, { s with bundles := s.bundles.insert name version })
      | .write =>
        if s.bundles.contains name then
          (.empty, { s with bundles := s.bundles.insert name r.bodyText })
        else (missing, s)
      | .delete =>
        if s.bundles.contains name then (.empty, { s with bundles := s.bundles.erase name })
        else (missing, s)
      | m => (notAllowed "BUN-V1" m, s)

/-- The key store application. -/
def keysApp (s : DeviceState) (r : AppRequest) : CommandResult × DeviceState :=
  match r.method, r.resource with
  | .read, [] => (.text ("\n".intercalate s.keys.keys), s)
  | .execute, [action] =>
    if action = "rotate" then
      let gen := s.keyRotations + 1
      let keys := s.keys.map fun (name, _) => (name, "k" ++ Text.natText gen ++ "-" ++ name)
      (.completed [] [Metric.ofInt64 "keys.rotated" keys.length],
        { s with keys, keyRotations := gen })
    else (notAllowed "KEYS-V1" .execute, s)
  | .read, _ | .write, _ | .delete, _ =>
    match r.item with
    | .error res => (res, s)
    | .ok name =>
      let missing := CommandResult.notFound ("no key with alias " ++ name)
      match r.method with
      | .read =>
        match s.keys.find? name with
        | some material => (.text (fingerprint material), s)
        | none => (missing, s)
      | .write =>
        let material := r.bodyText
        if material.isEmpty then (.rejected "key material missing", s)
        else (.empty, { s with keys := s.keys.insert name material })
      | _ =>
        if s.keys.contains name then (.empty, { s with keys := s.keys.erase name })
        else (missing, s)
  | m, _ => (notAllowed "KEYS-V1" m, s)

/-- The assets application. -/
def assetsApp (s : DeviceState) (r : AppRequest) : CommandResult × DeviceState :=
  match r.method with
  | .read | .write =>
    if r.method = .read && r.resource.isEmpty then (listing s.assets, s)
    else
      match r.item with
      | .error res => (res, s)
      | .ok name =>
        match s.assets.find? name with
        | none => (.notFound ("no asset " ++ name), s)
        | some old =>
          -- only a write stores the new value; a read leaves the device as it is
          let value := if r.method = .write then r.bodyText else old
          (.completed value.toUTF8.toList [Metric.ofText ("asset." ++ name) value],
            if r.method = .write then { s with assets := s.assets.insert name value } else s)
  | m => (notAllowed "ASSET-V1" m, s)

def statusApp (now : Int) (s : DeviceState) (r : AppRequest) : CommandResult × DeviceState :=
  match r.method with
  | .read | .options =>
    (.completed [] [Metric.ofInt64 "uptime.ms" (max 0 (now - s.startedMs)),
      Metric.ofInt64 "bundles.count" s.bundles.length, Metric.ofInt64 "keys.count" s.keys.length,
      Metric.ofInt64 "assets.count" s.assets.length, Metric.ofBool "healthy" true], s)
  | m => (notAllowed "STATUS-V1" m, s)

def appOf? (now : Int) : String → Option (DeviceState → AppRequest → CommandResult × DeviceState)
  | "BUN-V1" => some bundlesApp
  | "KEYS-V1" => some keysApp
  | "ASSET-V1" => some assetsApp
  | "STATUS-V1" => some (statusApp now)
  | _ => none

end DeviceFleet.Agent
