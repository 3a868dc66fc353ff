import DeviceFleet.Protocol.Method
import DeviceFleet.Text.Bytes

/-!
# Device messages

An envelope holds a channel (routing and correlation headers) and a payload (a timestamp,
typed metrics and a raw body), either possibly absent; messages travel on topics
`{tenant}/{client}/{app}/{direction}`.
-/

namespace DeviceFleet

/-- Message classes by their wire number. -/
inductive MessageClass where
  | unspecified
  | birth
  | request
  | response
  deriving DecidableEq, Repr, Inhabited

namespace MessageClass

def code : MessageClass → Int
  | .unspecified => 0
  | .birth => 1
  | .request => 2
  | .response => 3

/-- The class a wire number names; unknown numbers name none. -/
def ofCode? : Int → Option MessageClass
  | 0 => some .unspecified
  | 1 => some .birth
  | 2 => some .request
  | 3 => some .response
  | _ => none

def name : MessageClass → String
  | .unspecified => "UNSPECIFIED"
  | .birth => "BIRTH"
  | .request => "REQUEST"
  | .response => "RESPONSE"

end MessageClass

/-- Metric kinds by their wire number. -/
inductive MetricKind where
  | unspecified
  | text
  | int32
  | int64
  | double
  | boolean
  | blob
  deriving DecidableEq, Repr, Inhabited

namespace MetricKind

/-- The wire number of a kind. -/
def code : MetricKind → Int
  | .unspecified => 0
  | .text => 1
  | .int32 => 2
  | .int64 => 3
  | .double => 4
  | .boolean => 5
  | .blob => 6

/-- The kind a wire number names; unknown numbers name none. -/
def ofCode? : Int → Option MetricKind
  | 0 => some .unspecified
  | 1 => some .text
  | 2 => some .int32
  | 3 => some .int64
  | 4 => some .double
  | 5 => some .boolean
  | 6 => some .blob
  | _ => none

end MetricKind

def exceptionMessageMetric : String := "response.exception.message"

/-- Routing and correlation headers. The class and the kind are kept as wire numbers, since a
message may carry a number no class has. -/
structure Channel where
  messageClass : Int := 0
  tenantId : String := ""
  clientId : String := ""
  appName : String := ""
  appVersion : String := ""
  method : String := ""
  resource : List String := []
  requester : String := ""
  requestId : String := ""
  username : String := ""
  clientIp : String := ""
  connectionId : String := ""
  resultCode : Nat := 0
  errorCode : String := ""
  deriving DecidableEq, Repr, Inhabited

/-- One typed metric. Which value field counts is told by the kind. -/
structure Metric where
  name : String := ""
  kind : Int := 0
  textValue : String := ""
  intValue : Int := 0
  doubleBits : UInt64 := 0
  boolValue : Bool := false
  blobValue : Bytes := []
  deriving DecidableEq, Repr, Inhabited

/-- Timestamp (milliseconds since the epoch, 0 when unstamped), metrics and body. -/
structure Payload where
  timestampMs : Int := 0
  metrics : List Metric := []
  body : Bytes := []
  deriving DecidableEq, Repr, Inhabited

/-- A message: a channel and a payload, each possibly absent. -/
structure Envelope where
  channel : Option Channel := none
  payload : Option Payload := none
  deriving DecidableEq, Repr, Inhabited

namespace Metric

def ofText (name value : String) : Metric :=
  { name, kind := MetricKind.text.code, textValue := value }

def ofInt64 (name : String) (value : Int) : Metric :=
  { name, kind := MetricKind.int64.code, intValue := value }

def ofBool (name : String) (value : Bool) : Metric :=
  { name, kind := MetricKind.boolean.code, boolValue := value }

end Metric

namespace Envelope

/-- The class of an envelope; unspecified when the channel is missing or its number unknown. -/
def messageClass (e : Envelope) : MessageClass :=
  match e.channel with
  | some c => (MessageClass.ofCode? c.messageClass).getD .unspecified
  | none => .unspecified

def birth (tenantId clientId : String) (now : Int) : Envelope :=
  { channel := some { messageClass := MessageClass.birth.code, tenantId, clientId },
    payload := some { timestampMs := now } }

end Envelope

namespace Channel

/-- The channel of a reply to `request`: the correlation headers echoed, the class set to
response, the result code given, and no error code. -/
def replyTo (request : Channel) (resultCode : Nat) : Channel :=
  { request with messageClass := MessageClass.response.code, resultCode, errorCode := "" }

end Channel

/-- Direction of a topic. -/
inductive Direction where
  | birth
  | request
  | reply
  deriving DecidableEq, Repr, Inhabited

namespace Direction

def word : Direction → String
  | .birth => "BIRTH"
  | .request => "REQ"
  | .reply => "REPLY"

def ofWord? : String → Option Direction
  | "BIRTH" => some .birth
  | "REQ" => some .request
  | "REPLY" => some .reply
  | _ => none

@[simp] theorem ofWord_word (d : Direction) : ofWord? d.word = some d := by
  cases d <;> rfl

end Direction

/-- A publish/subscribe address. -/
structure Topic where
  tenantId : String
  clientId : String
  appName : String
  direction : Direction
  deriving DecidableEq, Repr, Inhabited

namespace Topic

def request (c : Channel) : Topic :=
  ⟨c.tenantId, c.clientId, c.appName, .request⟩

def reply (c : Channel) : Topic :=
  ⟨c.tenantId, c.clientId, c.appName, .reply⟩

/-- The text of a topic: its four segments joined by `/`. -/
def text (t : Topic) : String :=
  t.tenantId ++ "/" ++ t.clientId ++ "/" ++ t.appName ++ "/" ++ t.direction.word

/-- Read a topic: exactly four `/`-separated segments, the first three not empty and the last
a direction word. -/
def parse? (raw : String) : Option Topic :=
  match raw.splitOn "/" with
  | [t, c, a, d] =>
    if t.isEmpty || c.isEmpty || a.isEmpty then none
    else (Direction.ofWord? d).map fun dir => ⟨t, c, a, dir⟩
  | _ => none

end Topic

end DeviceFleet
