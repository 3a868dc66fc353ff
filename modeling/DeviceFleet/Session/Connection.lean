import DeviceFleet.Session.Registry

/-!
# Device connections

A connection is anonymous until its first BIRTH gives it its handle; connections are served
side by side, and the registry after any interleaving of their events is `Server.run` of it.
-/

namespace DeviceFleet.Session

open Wire

/-- A device connection as the server reads it: its peer, when it was accepted, the bytes
read and not yet taken as frames, its handle once the device announced itself, and the
device it registered. -/
structure Connection where
  addr : Address
  connectedAt : Int
  frames : FrameReader := {}
  handle : Option Handle := none
  identity : Option DeviceKey := none
  deriving DecidableEq, Repr

namespace Connection

/-- Learn who is on the line: the first BIRTH with a tenant and a client gives the handle;
every other envelope leaves the connection as it is. -/
def identify (c : Connection) (e : Envelope) : Connection :=
  if c.handle.isSome || e.messageClass != .birth then c
  else
    match e.channel with
    | none => c
    | some ch =>
      if ch.tenantId.isEmpty || ch.clientId.isEmpty then c
      else { c with handle := some ⟨ch.tenantId, ch.clientId, c.addr, c.connectedAt⟩ }

/-- Serve one envelope at `now`: register the device the first time its handle is known,
note it as heard from, and hand a reply to the dispatcher. -/
def serveEnvelope (c : Connection) (r : Registry) (e : Envelope) (now : Int) :
    Connection × Registry × Option Envelope :=
  let c := c.identify e
  let (c, r) :=
    match c.identity, c.handle with
    | none, some h => ({ c with identity := some h.key }, r.register h now)
    | _, _ => (c, r)
  let r :=
    match c.identity with
    | some (t, k) => r.touch t k now
    | none => r
  (c, r, if e.messageClass == .response then some e else none)

/-- Serve the whole frames the connection holds: the connection and registry after, the
replies for the dispatcher, and whether a frame failed, which ends the connection. `fuel`
bounds the frames taken. -/
def serveFrames (c : Connection) (r : Registry) (now : Int) :
    Nat → Connection × Registry × List Envelope × Bool
  | 0 => (c, r, [], false)
  | fuel + 1 =>
    match c.frames.next with
    | (.ok (some e), fr) =>
      let (c, r, reply) := { c with frames := fr }.serveEnvelope r e now
      let (c, r, replies, failed) := serveFrames c r now fuel
      (c, r, reply.toList ++ replies, failed)
    | (.ok none, fr) => ({ c with frames := fr }, r, [], false)
    | (.error _, fr) => ({ c with frames := fr }, r, [], true)

/-- Bytes read from the connection at `now`, served. Every frame is at least four bytes
long, so the fuel covers every frame the bytes complete. -/
def receive (c : Connection) (r : Registry) (data : Bytes) (now : Int) :
    Connection × Registry × List Envelope × Bool :=
  let c := { c with frames := c.frames.extend data }
  c.serveFrames r now (c.frames.buffer.length / 4 + 1)

/-- The registry once the connection has ended: the device it registered is unregistered
if its session is still this connection's. -/
def close (c : Connection) (r : Registry) : Registry :=
  match c.identity with
  | some (t, k) => (r.unregister t k c.addr).2
  | none => r

end Connection

/-- What happens on the server's device connections. -/
inductive ConnectionEvent where
  /-- A connection from a peer is accepted. -/
  | opened (addr : Address)
  /-- Bytes arrive on a connection. -/
  | data (addr : Address) (bytes : Bytes)
  /-- A connection's stream ends. -/
  | closed (addr : Address)
  deriving DecidableEq, Repr

/-- The device side of the server: the registry, the open connections and the replies handed
to the dispatcher so far, oldest first. -/
structure Server where
  registry : Registry := {}
  connections : List Connection := []
  replies : List Envelope := []
  deriving DecidableEq, Repr

namespace Server

def empty : Server := {}

def connection? (s : Server) (addr : Address) : Option Connection :=
  s.connections.find? (·.addr == addr)

def forget (s : Server) (addr : Address) : List Connection :=
  s.connections.filter (·.addr != addr)

/-- Take one event at `now`. A peer that already has an open connection cannot open
another, and events on connections that are not open change nothing. -/
def step (s : Server) (now : Int) : ConnectionEvent → Server
  | .opened a =>
    if (s.connection? a).isSome then s
    else { s with connections := s.connections ++ [{ addr := a, connectedAt := now }] }
  | .data a bytes =>
    match s.connection? a with
    | none => s
    | some c =>
      let (c, r, replies, failed) := c.receive s.registry bytes now
      if failed then
        { registry := c.close r, connections := s.forget a, replies := s.replies ++ replies }
      else
        { registry := r, replies := s.replies ++ replies,
          connections := s.connections.map fun x => if x.addr == a then c else x }
  | .closed a =>
    match s.connection? a with
    | none => s
    | some c => { s with registry := c.close s.registry, connections := s.forget a }

def run (s : Server) (events : List (Int × ConnectionEvent)) : Server :=
  events.foldl (fun s (now, e) => s.step now e) s

end Server

theorem identify_handle_kept (c : Connection) (e : Envelope) (h : c.handle.isSome = true) :
    (c.identify e).handle = c.handle := by
  simp [Connection.identify, h]

theorem close_anonymous (c : Connection) (r : Registry) (h : c.identity = none) :
    c.close r = r := by
  simp [Connection.close, h]

theorem run_nil (s : Server) : s.run [] = s := rfl

end DeviceFleet.Session
