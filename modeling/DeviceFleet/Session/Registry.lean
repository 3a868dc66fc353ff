import DeviceFleet.Wire.Frame

/-!
# The device session registry

One session per device, keyed by tenant and client: a newer connection replaces the older,
and a closing connection removes the session only while it is still its own. A request for a
device without a session fails as not connected.
-/

namespace DeviceFleet.Session

open Wire

/-- The address of a connection's peer; no two open connections share one. -/
abbrev Address := String

abbrev DeviceKey := String × String

/-- The sending side of an identified connection. -/
structure Handle where
  tenantId : String
  clientId : String
  addr : Address
  connectedAt : Int
  deriving DecidableEq, Repr

def Handle.key (h : Handle) : DeviceKey :=
  (h.tenantId, h.clientId)

/-- What the registry knows about a connected device: its session and when it was last heard
from. -/
structure DeviceInfo where
  handle : Handle
  lastSeen : Int
  deriving DecidableEq, Repr

/-- Why a request could not be handed to a device. -/
inductive TransportError where
  /-- No session for the topic's device. -/
  | notConnected (topic : String)
  /-- The request could not be framed. -/
  | codec (e : FrameError)
  /-- Writing to the session's stream failed. -/
  | io (message : String)
  deriving DecidableEq, Repr

def TransportError.message : TransportError → String
  | .notConnected t => "Device not connected: " ++ t
  | .codec e => "Failed to frame envelope: " ++ e.message
  | .io m => "I/O error: " ++ m

/-- Whether one device key comes before another: by tenant, then by client. -/
def keyLe (a b : DeviceKey) : Bool :=
  a.1 < b.1 || (a.1 == b.1 && a.2 ≤ b.2)

/-- The sessions of connected devices, at most one per device. -/
structure Registry where
  entries : List DeviceInfo := []
  deriving DecidableEq, Repr

namespace Registry

def empty : Registry := {}

def info? (r : Registry) (tenantId clientId : String) : Option DeviceInfo :=
  r.entries.find? (·.handle.key == (tenantId, clientId))

def get? (r : Registry) (tenantId clientId : String) : Option Handle :=
  (r.info? tenantId clientId).map (·.handle)

def drop (r : Registry) (k : DeviceKey) : Registry :=
  ⟨r.entries.filter (·.handle.key != k)⟩

def register (r : Registry) (h : Handle) (now : Int) : Registry :=
  ⟨(r.drop h.key).entries ++ [⟨h, now⟩]⟩

/-- Remove a device's session if it is still the one of the connection at `addr`; answers
whether it was removed. -/
def unregister (r : Registry) (tenantId clientId : String) (addr : Address) : Bool × Registry :=
  match r.info? tenantId clientId with
  | some e => if e.handle.addr == addr then (true, r.drop (tenantId, clientId)) else (false, r)
  | none => (false, r)

def touch (r : Registry) (tenantId clientId : String) (now : Int) : Registry :=
  ⟨r.entries.map fun e => if e.handle.key == (tenantId, clientId) then { e with lastSeen := now }
    else e⟩

def devices (r : Registry) : List DeviceKey :=
  (r.entries.map (·.handle.key)).mergeSort keyLe

def count (r : Registry) : Nat :=
  r.entries.length

/-- Hand a request to the session of the topic's device: the session and the frame written
to its stream. -/
def publish (r : Registry) (topic : Topic) (e : Envelope) : Except TransportError (Handle × Bytes) :=
  match r.get? topic.tenantId topic.clientId with
  | none => .error (.notConnected topic.text)
  | some h =>
    match encodeFrame e with
    | .ok frame => .ok (h, frame)
    | .error err => .error (.codec err)

end Registry

theorem info?_drop_self (r : Registry) (t c : String) : (r.drop (t, c)).info? t c = none := by
  simp only [Registry.info?, Registry.drop, List.find?_eq_none, List.mem_filter]
  intro e he
  simpa using he.2

theorem info?_drop_other (r : Registry) (k : DeviceKey) (t c : String) (h : k ≠ (t, c)) :
    (r.drop k).info? t c = r.info? t c := by
  simp only [Registry.info?, Registry.drop, List.find?_filter]
  congr 1
  funext e
  by_cases he : e.handle.key = (t, c)
  · have : (t, c) ≠ k := fun h' => h h'.symm
    simp [he, this]
  · simp [he]

theorem get?_register (r : Registry) (h : Handle) (now : Int) :
    (r.register h now).get? h.tenantId h.clientId = some h := by
  have hd := info?_drop_self r h.tenantId h.clientId
  simp only [Registry.info?] at hd
  simp only [Registry.get?, Registry.info?, Registry.register, List.find?_append]
  rw [show h.key = (h.tenantId, h.clientId) from rfl, hd]
  simp [Handle.key]

theorem get?_register_other (r : Registry) (h : Handle) (now : Int) (t c : String)
    (hk : h.key ≠ (t, c)) : (r.register h now).get? t c = r.get? t c := by
  have hd := info?_drop_other r h.key t c hk
  simp only [Registry.get?, Registry.info?, Registry.register, List.find?_append]
  simp only [Registry.info?] at hd
  rw [hd]
  cases hf : r.entries.find? (·.handle.key == (t, c)) with
  | some e => rfl
  | none =>
    have : ¬ (h.tenantId, h.clientId) = (t, c) := hk
    simp [Handle.key, this]

theorem unregister_other_addr (r : Registry) (t c : String) (a : Address) (h : Handle)
    (hg : r.get? t c = some h) (ha : h.addr ≠ a) : r.unregister t c a = (false, r) := by
  simp only [Registry.get?, Option.map_eq_some_iff] at hg
  obtain ⟨e, he, rfl⟩ := hg
  simp [Registry.unregister, he, ha]

theorem publish_empty (t : Topic) (e : Envelope) :
    Registry.empty.publish t e = .error (.notConnected t.text) := rfl

end DeviceFleet.Session
