import DeviceFleet.Session.Connection
import Mathlib.Data.List.Nodup

/-!
# The registry keeps each device's newest session

After every run of connections registering and ending side by side, the registry holds each
device's newest registration unless its connection has ended since (`registry_holds_newest`).
-/

namespace DeviceFleet.Session

/-! ## Sessions under registry updates -/

theorem key_of_get? {r : Registry} {t k : String} {h : Handle} (hg : r.get? t k = some h) :
    h.key = (t, k) := by
  simp only [Registry.get?, Registry.info?, Option.map_eq_some_iff] at hg
  obtain ⟨e, he, rfl⟩ := hg
  simpa using List.find?_some he

theorem get?_touch (r : Registry) (t k : String) (now : Int) (t' k' : String) :
    (r.touch t k now).get? t' k' = r.get? t' k' := by
  simp only [Registry.get?, Registry.info?, Registry.touch, List.find?_map, Option.map_map]
  -- the update keeps each entry's handle, so the search and the handle found are the same
  have hkeep : ∀ e : DeviceInfo,
      (if e.handle.key == (t, k) then { e with lastSeen := now } else e).handle = e.handle := by
    intro e
    split <;> rfl
  simp only [Function.comp_def, hkeep]

theorem get?_unregister_self (r : Registry) (t k : String) (a : Address) :
    (r.unregister t k a).2.get? t k = (r.get? t k).filter (fun h => h.addr != a) := by
  unfold Registry.unregister
  cases hi : r.info? t k with
  | none => simp [Registry.get?, hi]
  | some e =>
    by_cases ha : e.handle.addr = a
    · have hd := info?_drop_self r t k
      simp [Registry.get?, hi, ha, hd, Option.filter_some]
    · simp [Registry.get?, hi, ha, Option.filter_some]

theorem get?_unregister_other (r : Registry) {t k : String} (a : Address) {t' k' : String}
    (hne : (t', k') ≠ (t, k)) : (r.unregister t k a).2.get? t' k' = r.get? t' k' := by
  unfold Registry.unregister
  cases hi : r.info? t k with
  | none => rfl
  | some e =>
    dsimp only
    split
    · simp only [Registry.get?]
      rw [info?_drop_other r (t, k) t' k' (Ne.symm hne)]
    · rfl

theorem get?_register_congr {r r' : Registry} (hr : ∀ t k, r'.get? t k = r.get? t k)
    (h : Handle) (now : Int) (t k : String) :
    (r'.register h now).get? t k = (r.register h now).get? t k := by
  by_cases hk : h.key = (t, k)
  · obtain ⟨rfl, rfl⟩ := Prod.mk.inj hk
    rw [get?_register, get?_register]
  · rw [get?_register_other _ _ _ _ _ hk, get?_register_other _ _ _ _ _ hk, hr]

theorem get?_close (c : Connection) (r : Registry) (t k : String) :
    (c.close r).get? t k =
      if c.identity = some (t, k) then (r.get? t k).filter (fun h => h.addr != c.addr)
      else r.get? t k := by
  unfold Connection.close
  split
  · next t' k' hid =>
    rw [hid]
    by_cases he : (t', k') = (t, k)
    · obtain ⟨rfl, rfl⟩ := Prod.mk.inj he
      rw [if_pos rfl, get?_unregister_self]
    · rw [if_neg (fun h => he (Option.some.inj h)), get?_unregister_other _ _ (Ne.symm he)]
  · next hid => simp [hid]

/-! ## Serving one connection -/

namespace Connection

/-- A connection whose handle, once learned, names its own peer, and whose identity is the
device of that handle. -/
structure Sound (c : Connection) : Prop where
  identity_eq : c.identity = c.handle.map Handle.key
  addr_eq : ∀ h, c.handle = some h → h.addr = c.addr

theorem identify_cases (c : Connection) (e : Envelope) :
    c.identify e = c ∨ c.handle = none ∧
      ∃ t k, c.identify e = { c with handle := some ⟨t, k, c.addr, c.connectedAt⟩ } := by
  unfold identify
  split
  · exact .inl rfl
  · next hc =>
    split
    · exact .inl rfl
    · split
      · exact .inl rfl
      · simp only [Bool.or_eq_true, not_or] at hc
        exact .inr ⟨Option.not_isSome_iff_eq_none.mp hc.1, _, _, rfl⟩

end Connection

/-- What serving bytes on a connection at `now` did to it and to the sessions: nothing but
note its device as heard from, or, on an anonymous connection, learn its handle and register
it. Either way the connection keeps its peer. -/
inductive Served (now : Int) (c : Connection) (r : Registry) : Connection → Registry → Prop where
  | same {c' : Connection} {r' : Registry} (addr : c'.addr = c.addr) (handle : c'.handle = c.handle)
      (identity : c'.identity = c.identity) (get : ∀ t k, r'.get? t k = r.get? t k) :
      Served now c r c' r'
  | registered {c' : Connection} {r' : Registry} (h : Handle) (anonymous : c.handle = none)
      (addr : c'.addr = c.addr) (handle : c'.handle = some h) (identity : c'.identity = some h.key)
      (own : h.addr = c.addr) (get : ∀ t k, r'.get? t k = (r.register h now).get? t k) :
      Served now c r c' r'

namespace Served

variable {now : Int} {c c₁ c₂ : Connection} {r r₁ r₂ : Registry}

theorem refl (c : Connection) (r : Registry) : Served now c r c r :=
  .same rfl rfl rfl fun _ _ => rfl

theorem trans (h₁ : Served now c r c₁ r₁) (h₂ : Served now c₁ r₁ c₂ r₂) : Served now c r c₂ r₂ := by
  cases h₁ with
  | same a₁ hd₁ i₁ g₁ =>
    cases h₂ with
    | same a₂ hd₂ i₂ g₂ =>
      exact .same (a₂.trans a₁) (hd₂.trans hd₁) (i₂.trans i₁) fun t k => (g₂ t k).trans (g₁ t k)
    | registered h an a₂ hd₂ i₂ o₂ g₂ =>
      exact .registered h (hd₁ ▸ an) (a₂.trans a₁) hd₂ i₂ (o₂.trans a₁)
        fun t k => (g₂ t k).trans (get?_register_congr g₁ h now t k)
  | registered h an a₁ hd₁ i₁ o₁ g₁ =>
    cases h₂ with
    | same a₂ hd₂ i₂ g₂ =>
      exact .registered h an (a₂.trans a₁) (hd₂.trans hd₁) (i₂.trans i₁) o₁
        fun t k => (g₂ t k).trans (g₁ t k)
    | registered _ an₂ => exact absurd (hd₁.symm.trans an₂) (by simp)

theorem sound (hs : Served now c r c' r') (hc : c.Sound) : c'.Sound := by
  cases hs with
  | same a hd i _ =>
    exact ⟨by rw [i, hd, hc.identity_eq], fun h hh => by rw [a]; exact hc.addr_eq h (hd ▸ hh)⟩
  | registered h _ a hd i o _ =>
    refine ⟨by rw [i, hd]; rfl, fun h' hh => ?_⟩
    rw [hd] at hh
    cases hh
    rw [a, o]

end Served

theorem serveEnvelope_served {c : Connection} (hc : c.Sound) (r : Registry) (e : Envelope)
    (now : Int) : Served now c r (c.serveEnvelope r e now).1 (c.serveEnvelope r e now).2.1 := by
  unfold Connection.serveEnvelope
  rcases Connection.identify_cases c e with hid | ⟨hnone, t, k, hid⟩
  · rw [hid]
    cases hh : c.handle with
    | none =>
      have hi : c.identity = none := by rw [hc.identity_eq, hh]; rfl
      simp only [hi, hh]
      exact .refl c r
    | some h =>
      have hi : c.identity = some h.key := by rw [hc.identity_eq, hh]; rfl
      simp only [hi, hh]
      exact .same rfl rfl rfl fun _ _ => get?_touch ..
  · have hi : c.identity = none := by rw [hc.identity_eq, hnone]; rfl
    rw [hid]
    simp only [hi]
    exact .registered _ hnone rfl rfl rfl rfl fun _ _ => get?_touch ..

theorem Served.frames (now : Int) (c : Connection) (fr : Wire.FrameReader) (r : Registry) :
    Served now c r { c with frames := fr } r :=
  .same rfl rfl rfl fun _ _ => rfl

theorem Connection.Sound.frames {c : Connection} (hc : c.Sound) (fr : Wire.FrameReader) :
    ({ c with frames := fr } : Connection).Sound :=
  ⟨hc.identity_eq, hc.addr_eq⟩

theorem serveFrames_served (now : Int) : ∀ (fuel : Nat) {c : Connection} (r : Registry),
    c.Sound → Served now c r (c.serveFrames r now fuel).1 (c.serveFrames r now fuel).2.1
  | 0, c, r, _ => .refl c r
  | fuel + 1, c, r, hc => by
    unfold Connection.serveFrames
    split
    · next e fr _ =>
      have h₁ := serveEnvelope_served (hc.frames fr) r e now
      have h₂ := serveFrames_served now fuel
        (({ c with frames := fr } : Connection).serveEnvelope r e now).2.1 (h₁.sound (hc.frames fr))
      exact (Served.frames now c fr r).trans (h₁.trans h₂)
    · next fr _ => exact Served.frames now c fr r
    · next fr _ => exact Served.frames now c fr r

theorem receive_served {c : Connection} (hc : c.Sound) (r : Registry) (data : Bytes) (now : Int) :
    Served now c r (c.receive r data now).1 (c.receive r data now).2.1 :=
  (Served.frames now c _ r).trans (serveFrames_served now _ r (hc.frames _))

/-! ## The server's invariant -/

namespace Server

variable {s : Server} {a : Address} {c : Connection}

theorem mem_of_connection? (h : s.connection? a = some c) : c ∈ s.connections ∧ c.addr = a :=
  ⟨List.mem_of_find?_eq_some h, by simpa using List.find?_some h⟩

/-- What every server reached from one without connections satisfies: open connections have
distinct peers and are sound, and every session in the registry is the handle of an open
connection. -/
structure Inv (s : Server) : Prop where
  nodup : (s.connections.map (·.addr)).Nodup
  sound : ∀ c ∈ s.connections, c.Sound
  held : ∀ t k h, s.registry.get? t k = some h →
    ∃ c ∈ s.connections, c.addr = h.addr ∧ c.handle = some h

theorem Inv.eq_of_addr (hs : s.Inv) {c₁ c₂ : Connection} (h₁ : c₁ ∈ s.connections)
    (h₂ : c₂ ∈ s.connections) (ha : c₁.addr = c₂.addr) : c₁ = c₂ :=
  List.inj_on_of_nodup_map hs.nodup h₁ h₂ ha

theorem Inv.holder (hs : s.Inv) {t k : String} {h : Handle} (hg : s.registry.get? t k = some h)
    (hc : s.connection? a = some c) (ha : h.addr = a) :
    c.handle = some h ∧ c.identity = some (t, k) := by
  obtain ⟨c₀, hm₀, ha₀, hh₀⟩ := hs.held t k h hg
  obtain ⟨hm, hca⟩ := mem_of_connection? hc
  obtain rfl := hs.eq_of_addr hm₀ hm (ha₀.trans (ha.trans hca.symm))
  refine ⟨hh₀, ?_⟩
  rw [(hs.sound c₀ hm₀).identity_eq, hh₀, Option.map_some, key_of_get? hg]

theorem Inv.get?_close (hs : s.Inv) (hc : s.connection? a = some c) {c' : Connection}
    {r' : Registry} (hid : c'.identity = c.identity) (haddr : c'.addr = a)
    (hget : ∀ t k, r'.get? t k = s.registry.get? t k) (t k : String) :
    (c'.close r').get? t k = (s.registry.get? t k).filter (fun h => h.addr != a) := by
  rw [DeviceFleet.Session.get?_close, hget, hid, haddr]
  split
  · rfl
  · next hne =>
    cases hcur : s.registry.get? t k with
    | none => rfl
    | some h =>
      -- the session's peer is not `a`, or the connection from `a` would be its device's
      have ha : h.addr ≠ a := fun ha => hne (hs.holder hcur hc ha).2
      simp [Option.filter_some, ha]

end Server

/-! ## What one step does to a device's session -/

/-- One step of a run: the event, its time, and the server it acts on. -/
structure TraceStep where
  server : Server
  now : Int
  event : ConnectionEvent

namespace TraceStep

/-- The handle a step registers: bytes arrive on a connection without a handle and complete
its first BIRTH. -/
def registered (x : TraceStep) : Option Handle :=
  match x.event with
  | .data a bytes =>
    match x.server.connection? a with
    | some c => if c.handle.isNone then (c.receive x.server.registry bytes x.now).1.handle else none
    | none => none
  | _ => none

/-- Whether a step ends the open connection from peer `a`: its stream closes, or bytes arrive
on it that do not read as frames. -/
def ends (x : TraceStep) (a : Address) : Bool :=
  match x.event with
  | .opened _ => false
  | .closed a' => a' == a && (x.server.connection? a').isSome
  | .data a' bytes =>
    a' == a &&
      match x.server.connection? a' with
      | some c => (c.receive x.server.registry bytes x.now).2.2.2
      | none => false

def registersFor (x : TraceStep) (k : DeviceKey) : Option Handle :=
  x.registered.filter fun h => decide (h.key = k)

end TraceStep

def after (k : DeviceKey) (cur : Option Handle) (x : TraceStep) : Option Handle :=
  ((x.registersFor k).or cur).filter fun h => !x.ends h.addr

theorem after_of_quiet {k : DeviceKey} {cur : Option Handle} {x : TraceStep}
    (hreg : x.registered = none) (hends : ∀ b, x.ends b = false) : after k cur x = cur := by
  cases cur <;> simp [after, TraceStep.registersFor, hreg, hends, Option.filter_some]

theorem after_of_ends {k : DeviceKey} {cur : Option Handle} {x : TraceStep} {a : Address}
    (hreg : x.registered = none) (hends : ∀ b, x.ends b = (a == b)) :
    after k cur x = cur.filter (fun h => h.addr != a) := by
  cases cur with
  | none => simp [after, TraceStep.registersFor, hreg]
  | some h =>
    by_cases ha : h.addr = a
    · simp [after, TraceStep.registersFor, hreg, hends, Option.filter_some, ha]
    · have ha' : ¬ a = h.addr := fun e => ha e.symm
      simp [after, TraceStep.registersFor, hreg, hends, Option.filter_some, ha, ha']

theorem after_of_registered {k : DeviceKey} {cur : Option Handle} {x : TraceStep} {h : Handle}
    (hreg : x.registered = some h) :
    after k cur x = (if h.key = k then some h else cur).filter fun h => !x.ends h.addr := by
  by_cases hk : h.key = k <;> simp [after, TraceStep.registersFor, hreg, Option.filter_some, hk]

namespace Server

variable {s : Server}

theorem get?_step_opened (now : Int) (a : Address) (t k : String) :
    (s.step now (.opened a)).registry.get? t k =
      after (t, k) (s.registry.get? t k) ⟨s, now, .opened a⟩ := by
  have hreg : (s.step now (.opened a)).registry = s.registry := by
    simp only [step]
    split <;> rfl
  rw [hreg, after_of_quiet rfl fun _ => rfl]

theorem get?_step_closed (hs : s.Inv) (now : Int) (a : Address) (t k : String) :
    (s.step now (.closed a)).registry.get? t k =
      after (t, k) (s.registry.get? t k) ⟨s, now, .closed a⟩ := by
  cases hc : s.connection? a with
  | none =>
    simp only [step, hc]
    rw [after_of_quiet rfl fun b => by simp [TraceStep.ends, hc]]
  | some c =>
    simp only [step, hc]
    rw [hs.get?_close hc rfl (mem_of_connection? hc).2 fun _ _ => rfl,
      after_of_ends (a := a) rfl fun b => by simp [TraceStep.ends, hc]]

section Data

variable {a : Address} {bytes : Bytes} {now : Int} {c c' : Connection} {r' : Registry}
  {replies : List Envelope} {failed : Bool}

theorem ends_data (hc : s.connection? a = some c)
    (hrec : c.receive s.registry bytes now = (c', r', replies, failed)) (b : Address) :
    TraceStep.ends ⟨s, now, .data a bytes⟩ b = (a == b && failed) := by
  simp [TraceStep.ends, hc, hrec]

theorem registered_data (hc : s.connection? a = some c)
    (hrec : c.receive s.registry bytes now = (c', r', replies, failed)) :
    TraceStep.registered ⟨s, now, .data a bytes⟩ = if c.handle.isNone then c'.handle else none := by
  simp [TraceStep.registered, hc, hrec]

end Data

theorem get?_step_data (hs : s.Inv) (now : Int) (a : Address) (bytes : Bytes) (t k : String) :
    (s.step now (.data a bytes)).registry.get? t k =
      after (t, k) (s.registry.get? t k) ⟨s, now, .data a bytes⟩ := by
  cases hc : s.connection? a with
  | none =>
    simp only [step, hc]
    rw [after_of_quiet (by simp [TraceStep.registered, hc]) fun b => by simp [TraceStep.ends, hc]]
  | some c =>
    obtain ⟨hm, hca⟩ := mem_of_connection? hc
    have hserved := receive_served (hs.sound c hm) s.registry bytes now
    rcases hrec : c.receive s.registry bytes now with ⟨c', r', replies, failed⟩
    rw [hrec] at hserved
    dsimp only at hserved
    have hends := ends_data hc hrec
    simp only [step, hc, hrec]
    rw [apply_ite Server.registry]
    dsimp only
    cases hserved with
    | same haddr hhandle hid hget =>
      have hreg : TraceStep.registered ⟨s, now, .data a bytes⟩ = none := by
        rw [registered_data hc hrec, hhandle]
        cases c.handle <;> rfl
      cases failed with
      | false =>
        rw [if_neg (by simp), hget, after_of_quiet hreg fun b => by simp [hends]]
      | true =>
        rw [if_pos rfl, hs.get?_close hc hid (haddr.trans hca) hget,
          after_of_ends (a := a) hreg fun b => by simp [hends]]
    | registered h hanon haddr hhandle hid hown hget =>
      have hreg : TraceStep.registered ⟨s, now, .data a bytes⟩ = some h := by
        rw [registered_data hc hrec, hanon, hhandle]
        rfl
      rw [after_of_registered hreg]
      by_cases hk : h.key = (t, k)
      · rw [if_pos hk]
        cases failed with
        | false =>
          rw [if_neg (by simp), hget]
          obtain ⟨rfl, rfl⟩ := Prod.mk.inj hk
          simp [get?_register, Option.filter_some, hends]
        | true =>
          rw [if_pos rfl, DeviceFleet.Session.get?_close, if_pos (hid.trans (congrArg some hk)),
            hget]
          obtain ⟨rfl, rfl⟩ := Prod.mk.inj hk
          simp [get?_register, Option.filter_some, hends, haddr, hown, hca]
      · have hfar : ∀ h₀, s.registry.get? t k = some h₀ → h₀.addr ≠ a := fun h₀ hg ha => by
          have := (hs.holder hg hc ha).1
          rw [hanon] at this
          cases this
        have hother : (if failed = true then c'.close r' else r').get? t k = s.registry.get? t k := by
          have hid' : c'.identity ≠ some (t, k) := fun he => hk (Option.some.inj (hid.symm.trans he))
          cases failed <;> simp [DeviceFleet.Session.get?_close, hid', hget,
            get?_register_other _ _ _ _ _ hk]
        rw [if_neg hk, hother]
        cases hcur : s.registry.get? t k with
        | none => rfl
        | some h₀ =>
          have ha : ¬ a = h₀.addr := fun e => hfar h₀ hcur e.symm
          simp [Option.filter_some, hends, ha]

theorem get?_step (hs : s.Inv) (now : Int) (e : ConnectionEvent) (t k : String) :
    (s.step now e).registry.get? t k = after (t, k) (s.registry.get? t k) ⟨s, now, e⟩ := by
  cases e with
  | opened a => exact get?_step_opened now a t k
  | data a bytes => exact get?_step_data hs now a bytes t k
  | closed a => exact get?_step_closed hs now a t k

/-! ## The invariant along a run -/

theorem mem_forget {a : Address} {c : Connection} (hm : c ∈ s.connections) (ha : c.addr ≠ a) :
    c ∈ s.forget a :=
  List.mem_filter.mpr ⟨hm, by simpa using ha⟩

theorem mem_of_mem_forget {a : Address} {c : Connection} (hm : c ∈ s.forget a) :
    c ∈ s.connections :=
  (List.mem_filter.mp hm).1

theorem Inv.nodup_forget (hs : s.Inv) (a : Address) : ((s.forget a).map (·.addr)).Nodup :=
  (List.filter_sublist.map _).nodup hs.nodup

theorem after_eq_some {k : DeviceKey} {cur : Option Handle} {x : TraceStep} {h : Handle}
    (he : after k cur x = some h) :
    x.ends h.addr = false ∧ (x.registered = some h ∨ cur = some h) := by
  unfold after at he
  obtain ⟨hor, hends⟩ := Option.filter_eq_some_iff.mp he
  refine ⟨by simpa using hends, ?_⟩
  rcases Option.or_eq_some_iff.mp hor with h₁ | ⟨-, h₂⟩
  · exact .inl (Option.filter_eq_some_iff.mp h₁).1
  · exact .inr h₂

theorem empty_inv : Server.empty.Inv where
  nodup := List.nodup_nil
  sound := fun _ h => by simp [Server.empty] at h
  held := fun _ _ _ hg => by simp [Server.empty, Registry.get?, Registry.info?] at hg

theorem Inv.step_opened (hs : s.Inv) (now : Int) (a : Address) : (s.step now (.opened a)).Inv := by
  cases hc : s.connection? a with
  | some c => simpa [step, hc] using hs
  | none =>
    simp only [step, hc, Option.isSome_none, Bool.false_eq_true, if_false]
    have hfresh : ∀ c ∈ s.connections, c.addr ≠ a := by
      intro c hmc hca
      have := List.find?_eq_none.mp hc c hmc
      simp [hca] at this
    refine ⟨?_, fun c hm => ?_, fun t k h hg => ?_⟩
    · rw [List.map_append, List.nodup_append]
      refine ⟨hs.nodup, by simp, fun x hx y hy => ?_⟩
      obtain ⟨c, hmc, rfl⟩ := List.mem_map.mp hx
      have hy' : y = a := by simpa using hy
      rw [hy']
      exact hfresh c hmc
    · rcases List.mem_append.mp hm with hm | hm
      · exact hs.sound c hm
      · rw [List.mem_singleton.mp hm]
        exact ⟨rfl, fun _ h => by cases h⟩
    · obtain ⟨c, hm, ha, hh⟩ := hs.held t k h hg
      exact ⟨c, List.mem_append_left _ hm, ha, hh⟩

theorem Inv.step_closed (hs : s.Inv) (now : Int) (a : Address) : (s.step now (.closed a)).Inv := by
  have hget := get?_step_closed hs now a
  cases hc : s.connection? a with
  | none => simpa [step, hc] using hs
  | some c =>
    simp only [step, hc] at hget ⊢
    refine ⟨hs.nodup_forget a, fun c' hm => hs.sound c' (mem_of_mem_forget hm), fun t k h hg => ?_⟩
    rw [hget] at hg
    obtain ⟨hend, hsrc⟩ := after_eq_some hg
    rcases hsrc with hreg | hcur
    · simp [TraceStep.registered] at hreg
    · obtain ⟨c₀, hm₀, ha₀, hh₀⟩ := hs.held t k h hcur
      have hne : c₀.addr ≠ a := by
        intro he
        simp [TraceStep.ends, hc, ← ha₀, he] at hend
      exact ⟨c₀, mem_forget hm₀ hne, ha₀, hh₀⟩

theorem Inv.step_data (hs : s.Inv) (now : Int) (a : Address) (bytes : Bytes) :
    (s.step now (.data a bytes)).Inv := by
  have hget := get?_step_data hs now a bytes
  cases hc : s.connection? a with
  | none => simpa [step, hc] using hs
  | some c =>
    obtain ⟨hm, hca⟩ := mem_of_connection? hc
    have hserved := receive_served (hs.sound c hm) s.registry bytes now
    rcases hrec : c.receive s.registry bytes now with ⟨c', r', replies, failed⟩
    rw [hrec] at hserved
    dsimp only at hserved
    have hends := ends_data hc hrec
    have hreg := registered_data hc hrec
    have hsound : c'.Sound := hserved.sound (hs.sound c hm)
    have haddr : c'.addr = a := by
      cases hserved with
      | same haddr => exact haddr.trans hca
      | registered _ _ haddr => exact haddr.trans hca
    have hown : ∀ h, TraceStep.registered ⟨s, now, .data a bytes⟩ = some h →
        c'.handle = some h ∧ h.addr = a := by
      intro h hr
      rw [hreg] at hr
      split at hr
      · exact ⟨hr, (hsound.addr_eq h hr).trans haddr⟩
      · cases hr
    simp only [step, hc, hrec] at hget ⊢
    cases failed with
    | true =>
      simp only [if_true] at hget ⊢
      refine ⟨hs.nodup_forget a, fun c₁ hm₁ => hs.sound c₁ (mem_of_mem_forget hm₁),
        fun t k h hg => ?_⟩
      rw [hget] at hg
      obtain ⟨hend, hsrc⟩ := after_eq_some hg
      have hne : h.addr ≠ a := fun he => by simp [hends, he] at hend
      rcases hsrc with hr | hcur
      · exact absurd (hown h hr).2 hne
      · obtain ⟨c₀, hm₀, ha₀, hh₀⟩ := hs.held t k h hcur
        exact ⟨c₀, mem_forget hm₀ (ha₀.trans_ne hne), ha₀, hh₀⟩
    | false =>
      simp only [Bool.false_eq_true, if_false] at hget ⊢
      have hupd : ∀ x : Connection,
          (if (x.addr == a) = true then c' else x).addr = x.addr := by
        intro x
        split
        · next hx => rw [haddr, (beq_iff_eq.mp hx)]
        · rfl
      refine ⟨?_, fun c₁ hm₁ => ?_, fun t k h hg => ?_⟩
      · rw [List.map_map, Function.comp_def]
        simp only [hupd]
        exact hs.nodup
      · obtain ⟨x, hx, rfl⟩ := List.mem_map.mp hm₁
        split
        · exact hsound
        · exact hs.sound x hx
      · rw [hget] at hg
        have hc' : c' ∈ s.connections.map fun x => if (x.addr == a) = true then c' else x :=
          List.mem_map.mpr ⟨c, hm, by simp [hca]⟩
        rcases (after_eq_some hg).2 with hr | hcur
        · obtain ⟨hh, ha⟩ := hown h hr
          exact ⟨c', hc', haddr.trans ha.symm, hh⟩
        · obtain ⟨c₀, hm₀, ha₀, hh₀⟩ := hs.held t k h hcur
          by_cases ha : c₀.addr = a
          · obtain rfl := hs.eq_of_addr hm₀ hm (ha.trans hca.symm)
            cases hserved with
            | same _ hhandle => exact ⟨c', hc', haddr.trans ha.symm |>.trans ha₀, hhandle.trans hh₀⟩
            | registered _ hanon => rw [hanon] at hh₀; cases hh₀
          · refine ⟨c₀, List.mem_map.mpr ⟨c₀, hm₀, by simp [ha]⟩, ha₀, hh₀⟩

theorem Inv.step (hs : s.Inv) (now : Int) (e : ConnectionEvent) : (s.step now e).Inv := by
  cases e with
  | opened a => exact hs.step_opened now a
  | data a bytes => exact hs.step_data now a bytes
  | closed a => exact hs.step_closed now a

def trace (s : Server) : List (Int × ConnectionEvent) → List TraceStep
  | [] => []
  | (now, e) :: rest => ⟨s, now, e⟩ :: (s.step now e).trace rest

theorem run_cons (s : Server) (now : Int) (e : ConnectionEvent) (rest : List (Int × ConnectionEvent)) :
    s.run ((now, e) :: rest) = (s.step now e).run rest :=
  rfl

theorem get?_run (hs : s.Inv) (evs : List (Int × ConnectionEvent)) (t k : String) :
    (s.run evs).registry.get? t k = (s.trace evs).foldl (after (t, k)) (s.registry.get? t k) := by
  induction evs generalizing s with
  | nil => rfl
  | cons ev rest ih =>
    obtain ⟨now, e⟩ := ev
    rw [run_cons, ih (hs.step now e), get?_step hs now e]
    rfl

end Server

/-! ## The newest registration -/

/-- The session a device should have after a run, read off the run's steps: the handle of the
device's newest registration, unless the connection that made it ended in that step or a later
one; none if the device never registered. -/
def newest (k : DeviceKey) : List TraceStep → Option Handle
  | [] => none
  | x :: rest =>
    if rest.any (fun y => (y.registersFor k).isSome) then newest k rest
    else
      match x.registersFor k with
      | some h => if (x :: rest).any (fun y => y.ends h.addr) then none else some h
      | none => none

/-- Folding `after` over steps gives the newest registration among them, if there is one, and
otherwise the session from before, unless its connection ended. The induction is on the
steps, the session from before generalised. -/
theorem foldl_after (k : DeviceKey) : ∀ (l : List TraceStep) (cur : Option Handle),
    l.foldl (after k) cur =
      if l.any (fun y => (y.registersFor k).isSome) then newest k l
      else cur.filter fun h => !l.any (fun y => y.ends h.addr)
  | [], cur => by cases cur <;> simp [Option.filter_some]
  | x :: rest, cur => by
    rw [List.foldl_cons, foldl_after k rest]
    by_cases hr : rest.any (fun y => (y.registersFor k).isSome) = true
    · rw [if_pos hr, if_pos (by simp [List.any_cons, hr]), newest, if_pos hr]
    · have hnew : (x :: rest).any (fun y => (y.registersFor k).isSome) =
          (x.registersFor k).isSome := by
        simp only [List.any_cons, Bool.eq_false_iff.mpr hr, Bool.or_false]
      rw [if_neg hr, hnew]
      cases hx : x.registersFor k with
      | some h =>
        rw [Option.isSome_some, if_pos rfl, newest, if_neg hr, hx]
        cases hend : x.ends h.addr <;> cases hrest : rest.any (fun y => y.ends h.addr) <;>
          simp [after, hx, Option.filter_some, List.any_cons, hend, hrest]
      | none =>
        rw [Option.isSome_none, if_neg Bool.false_ne_true]
        cases cur with
        | none => simp [after, hx]
        | some h =>
          cases hend : x.ends h.addr <;> cases hrest : rest.any (fun y => y.ends h.addr) <;>
            simp [after, hx, Option.filter_some, List.any_cons, hend, hrest]

/-- After every run from a server without connections, the registry holds for each device the
handle of its newest registration, unless the connection that made it has ended since: an
older connection ending never takes or changes a newer connection's session. -/
theorem registry_holds_newest (evs : List (Int × ConnectionEvent)) (t c : String) :
    (Server.empty.run evs).registry.get? t c = newest (t, c) (Server.empty.trace evs) := by
  rw [Server.get?_run Server.empty_inv, foldl_after]
  split
  · rfl
  · next hno =>
    cases hl : Server.empty.trace evs with
    | nil => rfl
    | cons x rest =>
      rw [hl] at hno
      simp only [List.any_cons, Bool.or_eq_true, not_or] at hno
      rw [newest, if_neg hno.2, Option.not_isSome_iff_eq_none.mp hno.1]
      rfl

/-- Two connections of one device announce themselves, the older first: the older one closing
leaves the newer one's session. -/
example : (Server.empty.run [(0, .opened "a1"), (0, .opened "a2"),
    (1, .data "a1" [0, 0, 0, 16, 10, 12, 8, 1, 18, 1, 49, 26, 5, 103, 119, 45, 48, 55, 18, 0]),
    (2, .data "a2" [0, 0, 0, 16, 10, 12, 8, 1, 18, 1, 49, 26, 5, 103, 119, 45, 48, 55, 18, 0]),
    (3, .closed "a1")]).registry.get? "1" "gw-07" = some ⟨"1", "gw-07", "a2", 0⟩ := by
  decide

end DeviceFleet.Session
