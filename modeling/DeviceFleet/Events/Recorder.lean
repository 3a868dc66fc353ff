import DeviceFleet.Events.Store
import DeviceFleet.Events.Error

/-!
# Recording events once

A delivery claims its event in the shared store: a processed event is a duplicate, a held one
is waited for, and otherwise the effect runs, marked processed and told to the listeners when
it succeeds and released when it fails.
-/

namespace DeviceFleet.Events

/-- How a listener reacts to an event. -/
inductive ListenerMode where
  | log
  | fail
  | panic
  deriving DecidableEq, Repr, Inhabited

/-- A subscriber to recorded events, with the context ids of the events it was told of. -/
structure Listener where
  name : String
  mode : ListenerMode
  received : List String := []
  deriving Inhabited

/-- What telling a listener of an event came to. -/
inductive Heard where
  | accepted
  | failed
  | panicked
  deriving DecidableEq, Repr

def Listener.tell (l : Listener) (e : ServiceEvent) : Listener × Heard :=
  ({ l with received := l.received ++ [e.contextId] },
    match l.mode with
    | .log => .accepted
    | .fail => .failed
    | .panic => .panicked)

/-- A node's recorder: its name, the lease its claims take, and its listeners. -/
structure Recorder where
  nodeId : String
  claimLease : Nat
  listeners : List Listener := []
  deriving Inhabited

namespace Recorder

def subscribe (r : Recorder) (l : Listener) : Recorder :=
  { r with listeners := r.listeners ++ [l] }

/-- Tell every listener of an event, in order; what any of them answers is absorbed. -/
def notify (r : Recorder) (e : ServiceEvent) : Recorder :=
  { r with listeners := r.listeners.map fun l => (l.tell e).1 }

def pollInterval (r : Recorder) : Nat :=
  min (max (r.claimLease / 10) 1000) 100000

end Recorder

theorem notify_keeps_count (r : Recorder) (e : ServiceEvent) :
    (r.notify e).listeners.length = r.listeners.length := by
  simp [Recorder.notify]

/-- What recording an event came to: the effect's value, or a duplicate left alone. -/
inductive RecordOutcome (α : Type) where
  | applied (value : α)
  | duplicate
  deriving Inhabited

/-- An effect: what it gives, or the message it fails with, and how long it takes. -/
structure Effect (α : Type) where
  result : Except String α
  duration : Nat

/-- Where one delivery stands: it will claim at a time, its effect is running until a time,
or it is over with an outcome. -/
inductive Delivery (α : Type) where
  | claiming (due : Int)
  | running (record : EventRecord) (ends : Int)
  | over (outcome : Except EventStoreError (RecordOutcome α)) (due : Int)
  deriving Inhabited

namespace Delivery

variable {α : Type}

/-- When a delivery acts next; a delivery that is over does not. -/
def wake? : Delivery α → Option Int
  | .claiming t => some t
  | .running _ t => some t
  | .over .. => none

def outcome? : Delivery α → Option (Except EventStoreError (RecordOutcome α))
  | .over o _ => some o
  | _ => none

def endedAt? : Delivery α → Option Int
  | .over _ t => some t
  | _ => none

end Delivery

/-- Deliveries of one event on one node against a shared store. -/
structure Deliveries (α : Type) where
  store : EventStore
  ids : UuidSource
  recorder : Recorder
  event : ServiceEvent
  effect : Effect α
  pending : List (Delivery α)
  effectRuns : Nat := 0

namespace Deliveries

variable {α : Type}

def earliest (ds : List (Delivery α)) : Option (Nat × Int) :=
  ds.zipIdx.foldl (fun best (d, i) =>
    match d.wake?, best with
    | some t, none => some (i, t)
    | some t, some (j, u) => if t < u then some (i, t) else some (j, u)
    | none, b => b) none

/-- The effect's end at `t` for a claimed record: mark it processed and tell the listeners, or
release the claim. -/
def finish (w : Deliveries α) (r : EventRecord) (t : Int) : Deliveries α × Delivery α :=
  match w.effect.result with
  | .ok v =>
    match w.store.markProcessed r.recordId with
    | .error e => (w, .over (.error (.store e)) t)
    | .ok (_, s) =>
      ({ w with store := s, recorder := w.recorder.notify w.event }, .over (.ok (.applied v)) t)
  | .error m =>
    let s := match w.store.release r.recordId r.claimToken with
      | .ok s => s
      | .error _ => w.store
    ({ w with store := s },
      .over (.error (.effectFailed w.event.contextId w.event.sourceService m)) t)

/-- One delivery's next action at time `t`. -/
def act (w : Deliveries α) (d : Delivery α) (t : Int) : Deliveries α × Delivery α :=
  match d with
  | .claiming _ =>
    match w.store.claim w.event w.recorder.nodeId w.recorder.claimLease t w.ids with
    | (.claimed r, s, ids) =>
      let w := { w with store := s, ids, effectRuns := w.effectRuns + 1 }
      if w.effect.duration = 0 then w.finish r t
      else (w, .running r (t + w.effect.duration))
    | (.alreadyProcessed, s, ids) => ({ w with store := s, ids }, .over (.ok .duplicate) t)
    | (.inFlight, s, ids) => ({ w with store := s, ids }, .claiming (t + w.recorder.pollInterval))
  | .running r _ => w.finish r t
  | .over .. => (w, d)

/-- Run the deliveries for at most `fuel` actions. -/
def run : Nat → Deliveries α → Deliveries α
  | 0, w => w
  | fuel + 1, w =>
    match earliest w.pending with
    | none => w
    | some (i, t) =>
      let (w', d) := w.act (w.pending.getD i (.claiming t)) t
      run fuel { w' with pending := w'.pending.set i d }

end Deliveries

/-- The actions a run of deliveries may take before it is given up: enough to wait out any
lease that a bench or a node would use. -/
def deliveryFuel : Nat := 1000000

def recordCopies {α : Type} (store : EventStore) (ids : UuidSource) (r : Recorder)
    (e : ServiceEvent) (effect : Effect α) (copies : Nat) (now : Int) : Deliveries α :=
  Deliveries.run deliveryFuel
    { store, ids, recorder := r, event := e, effect,
      pending := List.replicate copies (.claiming now) }

end DeviceFleet.Events
