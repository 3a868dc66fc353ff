import DeviceFleet.Conversion.Response

/-!
# Matching replies to pending calls

A call registers its correlation identifier, expected application and deadline, and waits on a
handle; a reply takes its call out and hands the waiter its response, and a waiter whose call
is still pending at its deadline times out.
-/

namespace DeviceFleet.Command

open Conversion

/-- What a waiter receives. -/
inductive CallResult where
  | completed (response : CanonicalResponse)
  | conversionFailed (error : ConversionError)
  | timedOut

/-- Where a handle's reply stands: not yet sent, sent, dropped unsent, or already taken by the
waiter. -/
inductive Slot where
  | awaiting
  | sent (result : CallResult)
  | dropped
  | taken

/-- A pending call: its identifier, the application expected to reply, its deadline and the
handle its waiter holds. -/
structure PendingCall where
  id : CorrelationId
  expectedApp : String
  deadline : Int
  handle : Nat
  deriving DecidableEq

/-- What resolving a reply came to. -/
inductive ResolveOutcome where
  | delivered (id : CorrelationId)
  | unmatched (id : CorrelationId)
  | uncorrelated (error : ConversionError)

/-- Registering an identifier that is already pending. -/
structure AlreadyRegistered where
  id : CorrelationId

def AlreadyRegistered.message (e : AlreadyRegistered) : String :=
  "Correlation id " ++ e.id.text ++ " is already registered"

/-- What a waiter holds besides its slot: the identifier the call was registered under and
its deadline. -/
structure Handle where
  id : CorrelationId
  deadline : Int

/-- The pending calls, and every handle given out with its slot, by number. -/
structure Correlator where
  pending : List PendingCall := []
  slots : List (Handle × Slot) := []

namespace Correlator

def isPending (c : Correlator) (id : CorrelationId) : Bool :=
  c.pending.any (·.id == id)

def count (c : Correlator) : Nat :=
  c.pending.length

def countFor (c : Correlator) (tenantId deviceId : String) : Nat :=
  (c.pending.filter fun p => p.id.tenantId == tenantId && p.id.deviceId == deviceId).length

def fill (c : Correlator) (handle : Nat) (s : Slot) : Correlator :=
  { c with slots := c.slots.modify handle fun x => (x.1, s) }

def take (c : Correlator) (id : CorrelationId) : Option (PendingCall × Correlator) :=
  match c.pending.find? (·.id == id) with
  | none => none
  | some p => some (p, { c with pending := c.pending.filter (·.id != id) })

/-- Register a call expecting a reply from `app` within `timeout` of `now`; answers the handle
to wait on. -/
def register (c : Correlator) (id : CorrelationId) (app : String) (timeout : Nat) (now : Int) :
    Except AlreadyRegistered (Nat × Correlator) :=
  if c.isPending id then .error ⟨id⟩
  else
    let h := c.slots.length
    .ok (h, { pending := c.pending ++ [⟨id, app, now + timeout, h⟩],
              slots := c.slots ++ [(⟨id, now + timeout⟩, .awaiting)] })

/-- The failure of a reply from application `got` to a call expecting application
`expected`. -/
def channelMismatch (got expected : String) : ConversionError :=
  .invalidChannel ("reply from app '" ++ got ++ "' where '" ++ expected ++ "' was expected")

/-- What the waiter of a call receives for a reply envelope, stamped at `stampMs` when it
carries no stamp. -/
def replyResult (expectedApp : String) (stampMs : Int) (e : Envelope) : CallResult :=
  match convertResponse stampMs e with
  | .ok r =>
    if r.appName != expectedApp then .conversionFailed (channelMismatch r.appName expectedApp)
    else .completed r
  | .error err => .conversionFailed err

def resolve (c : Correlator) (stampMs : Int) (e : Envelope) : ResolveOutcome × Correlator :=
  match convertCorrelation e with
  | .error err => (.uncorrelated err, c)
  | .ok id =>
    match c.take id with
    | none => (.unmatched id, c)
    | some (p, c) => (.delivered id, c.fill p.handle (.sent (replyResult p.expectedApp stampMs e)))

/-- Cancel a pending call; its waiter is left with nothing. Answers whether it was pending. -/
def cancel (c : Correlator) (id : CorrelationId) : Bool × Correlator :=
  match c.take id with
  | none => (false, c)
  | some (p, c) => (true, c.fill p.handle .dropped)

/-- Expire the calls whose deadline has come by `now`; their waiters time out. -/
def expireOverdue (c : Correlator) (now : Int) : List CorrelationId × Correlator :=
  let overdue := c.pending.filter fun p => decide (p.deadline ≤ now)
  (overdue.map (·.id),
    overdue.foldl (fun c p => c.fill p.handle (.sent .timedOut))
      { c with pending := c.pending.filter fun p => !decide (p.deadline ≤ now) })

/-- Wait on a handle at `now`: answers what the waiter receives and the instant it receives
it, or `none` for a handle never given out or already waited on. A slot still empty is
waited on until the handle's deadline; then whatever call is pending under the handle's
identifier is taken out, and the waiter times out. -/
def wait (c : Correlator) (handle : Nat) (now : Int) : Option (CallResult × Int × Correlator) :=
  match c.slots[handle]? with
  | none | some (_, .taken) => none
  | some (_, .sent r) => some (r, now, c.fill handle .taken)
  | some (_, .dropped) => some (.timedOut, now, c.fill handle .taken)
  | some (k, .awaiting) =>
    match c.take k.id with
    | none => some (.timedOut, max now k.deadline, c.fill handle .taken)
    | some (_, c') => some (.timedOut, max now k.deadline, c'.fill handle .taken)

theorem register_pending (c : Correlator) (id : CorrelationId) (app : String) (timeout : Nat)
    (now : Int) (h : Nat) (c' : Correlator) (hr : c.register id app timeout now = .ok (h, c')) :
    c'.isPending id = true := by
  unfold register at hr
  split at hr
  · cases hr
  · cases hr
    simp [isPending]

end Correlator

end DeviceFleet.Command
