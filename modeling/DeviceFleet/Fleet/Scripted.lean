import DeviceFleet.Agent.Executor

/-!
# A scripted fleet of devices

Each client id behaves as scripted: it replies (once or twice), never replies, is unreachable,
holds requests until released, or runs them on an agent of its own.
-/

namespace DeviceFleet

namespace Fleet

/-- How a scripted device replies. -/
structure ReplyScript where
  code : Nat := 200
  message : Option String := none
  app : Option String := none
  badMetricKind : Option Int := none
  body : Option String := none
  duplicate : Bool := false
  deriving DecidableEq, Repr, Inhabited

def replyStamp : Int := 1600000000000

/-- The scripted reply to a request envelope. -/
def ReplyScript.reply (s : ReplyScript) (request : Envelope) : Envelope :=
  let channel := request.channel.map fun c =>
    let r := c.replyTo s.code
    match s.app with
    | some a => { r with appName := a }
    | none => r
  let metrics :=
    (match s.message with
      | some m => [Metric.ofText exceptionMessageMetric m]
      | none => []) ++
    (match s.badMetricKind with
      | some k => [({ name := "scripted", kind := k } : Metric)]
      | none => [])
  { channel,
    payload := some { timestampMs := replyStamp, metrics,
                      body := match s.body with
                        | some b => b.toUTF8.toList
                        | none => [] } }

/-- What a device does with requests. -/
inductive DeviceMode where
  | reply (script : ReplyScript)
  | silent
  | unreachable
  | hold
  | agent
  deriving DecidableEq, Repr, Inhabited

/-- A request handed to a device, as logged. -/
structure PublishedRequest where
  client : String
  app : String
  method : String
  requester : String
  requestId : String
  deriving DecidableEq, Repr

end Fleet

/-- The fleet: the devices' modes (others take the default), their agents, the requests held
and the requests handed over. -/
structure Fleet where
  defaultMode : Fleet.DeviceMode := .reply {}
  modes : List (String × Fleet.DeviceMode) := []
  agents : List (String × Agent.Device) := []
  held : List (String × Envelope) := []
  published : List Fleet.PublishedRequest := []
  deriving Inhabited

namespace Fleet

def modeOf (f : Fleet) (client : String) : DeviceMode :=
  (f.modes.lookup client).getD f.defaultMode

/-- Set the mode of a client; an agent keeps its state once created at `nowMs`. -/
def setMode (f : Fleet) (client : String) (m : DeviceMode) (nowMs : Int) : Fleet :=
  let f := { f with modes := (client, m) :: f.modes.filter (·.1 != client) }
  if m == .agent && (f.agents.lookup client).isNone then
    { f with agents := f.agents ++ [(client, ⟨client, Agent.DeviceState.seeded nowMs⟩)] }
  else f

def heldCount (f : Fleet) : Nat :=
  f.held.length

def takeHeld (f : Fleet) (client : String) : Option (Envelope × Fleet) :=
  match f.held.findIdx? (·.1 == client) with
  | none => none
  | some i => (f.held[i]?).map fun (_, e) => (e, { f with held := f.held.eraseIdx i })

/-- Hand a request to its device at `nowMs`: the failure of an unreachable device, or the
replies the device sends back. -/
def publish (f : Fleet) (topic : Topic) (e : Envelope) (nowMs : Int) :
    Except String (List Envelope × Fleet) :=
  let client := topic.clientId
  match f.modeOf client with
  | .unreachable => .error ("Device not connected: " ++ topic.text)
  | mode =>
    let c := e.channel.getD {}
    let f := { f with published := f.published ++
      [⟨client, c.appName, c.method, c.requester, c.requestId⟩] }
    match mode with
    | .reply s => .ok (if s.duplicate then [s.reply e, s.reply e] else [s.reply e], f)
    | .hold => .ok ([], { f with held := f.held ++ [(client, e)] })
    | .agent =>
      match f.agents.lookup client with
      | none => .ok ([], f)
      | some d =>
        let (reply, d) := d.execute nowMs e
        .ok (reply.toList,
          { f with agents := f.agents.map fun (k, x) => if k == client then (k, d) else (k, x) })
    | _ => .ok ([], f)

theorem publish_unreachable (f : Fleet) (t : Topic) (e : Envelope) (now : Int)
    (h : f.modeOf t.clientId = .unreachable) :
    f.publish t e now = .error ("Device not connected: " ++ t.text) := by
  simp [Fleet.publish, h]

end Fleet

end DeviceFleet
