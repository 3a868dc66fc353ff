import Mathlib.Data.List.Nodup
import DeviceFleet.Command.Correlator

/-!
# Atomic steps of a reply correlator

Five kinds of atomic step (register, resolve, cancel, expire, wait), what each does to the
pending calls and the slots, and which calls it takes out (`removals`).
-/

namespace DeviceFleet.Command

open Conversion

namespace Correlator

/-- One atomic step on a correlator. -/
inductive Action where
  | register (id : CorrelationId) (app : String) (timeout : Nat) (now : Int)
  | resolve (stampMs : Int) (e : Envelope)
  | cancel (id : CorrelationId)
  | expire (now : Int)
  | wait (handle : Nat) (now : Int)

/-- The correlator after a step. A refused registration, and a wait on a handle that cannot
be waited on, leave it as it was. -/
def perform (c : Correlator) : Action → Correlator
  | .register id app timeout now =>
    match c.register id app timeout now with
    | .ok (_, c') => c'
    | .error _ => c
  | .resolve stampMs e => (c.resolve stampMs e).2
  | .cancel id => (c.cancel id).2
  | .expire now => (c.expireOverdue now).2
  | .wait handle now =>
    match c.wait handle now with
    | some (_, _, c') => c'
    | none => c

/-- A pending call taken out, and the step that took it out. -/
structure Removal where
  call : PendingCall
  cause : Action

def removals (c : Correlator) (a : Action) : List Removal :=
  (c.pending.filter fun p => p ∉ (c.perform a).pending).map fun p => ⟨p, a⟩

def Removal.owed (x : Removal) : CallResult :=
  match x.cause with
  | .resolve stampMs e => replyResult x.call.expectedApp stampMs e
  | _ => .timedOut

/-- The calls a step acts for: a reply acts for the call of its identifier, a cancel for the
call of the identifier it names, a sweep for the calls whose deadline has come, and a wait
for the call of its handle. A registration takes nothing out. -/
def Action.ActsFor : Action → PendingCall → Prop
  | .register .., _ => False
  | .resolve _ e, p => convertCorrelation e = .ok p.id
  | .cancel id, p => id = p.id
  | .expire now, p => p.deadline ≤ now
  | .wait handle _, p => handle = p.handle

variable {c : Correlator}

/-! ### Pending calls and slots -/

theorem isPending_eq_true {id : CorrelationId} :
    c.isPending id = true ↔ ∃ p ∈ c.pending, p.id = id := by
  simp [isPending]

theorem isPending_eq_false {id : CorrelationId} :
    c.isPending id = false ↔ ∀ p ∈ c.pending, p.id ≠ id := by
  simp [isPending]

@[simp] theorem fill_pending (handle : Nat) (s : Slot) : (c.fill handle s).pending = c.pending :=
  rfl

@[simp] theorem length_fill (handle : Nat) (s : Slot) :
    (c.fill handle s).slots.length = c.slots.length := by
  simp [fill]

theorem getElem?_fill (handle i : Nat) (s : Slot) :
    (c.fill handle s).slots[i]? =
      if handle = i then c.slots[i]?.map (fun x => (x.1, s)) else c.slots[i]? := by
  simp only [fill, List.getElem?_modify]
  by_cases h : handle = i <;> simp [h]

theorem getElem?_fill_self (handle : Nat) (s : Slot) {k : Handle} {s₀ : Slot}
    (h : c.slots[handle]? = some (k, s₀)) : (c.fill handle s).slots[handle]? = some (k, s) := by
  simp [getElem?_fill, h]

theorem getElem?_fill_of_ne {handle i : Nat} (s : Slot) (h : handle ≠ i) :
    (c.fill handle s).slots[i]? = c.slots[i]? := by
  simp [getElem?_fill, h]

theorem take_eq_none {id : CorrelationId} : c.take id = none ↔ c.isPending id = false := by
  unfold take
  split
  · rename_i hf
    simp only [true_iff, isPending_eq_false]
    intro p hp hid
    exact List.find?_eq_none.mp hf p hp (by simp [hid])
  · rename_i p hf
    simp only [reduceCtorEq, false_iff, Bool.not_eq_false, isPending_eq_true]
    exact ⟨p, List.mem_of_find?_eq_some hf, by simpa using List.find?_some hf⟩

theorem take_eq_some {id : CorrelationId} {p : PendingCall} {c' : Correlator}
    (h : c.take id = some (p, c')) :
    p ∈ c.pending ∧ p.id = id ∧ c' = { c with pending := c.pending.filter (·.id != id) } := by
  unfold take at h
  split at h
  · cases h
  · rename_i q hf
    simp only [Option.some.injEq, Prod.mk.injEq] at h
    obtain ⟨rfl, rfl⟩ := h
    exact ⟨List.mem_of_find?_eq_some hf, by simpa using List.find?_some hf, rfl⟩

theorem filter_id_eq_singleton {l : List PendingCall} (hn : (l.map (·.id)).Nodup)
    {p : PendingCall} (hp : p ∈ l) : l.filter (·.id == p.id) = [p] := by
  induction l with
  | nil => cases hp
  | cons q l ih =>
    rw [List.map_cons, List.nodup_cons] at hn
    rcases List.mem_cons.mp hp with rfl | hl
    · have hnone : l.filter (·.id == p.id) = [] := by
        rw [List.filter_eq_nil_iff]
        intro x hx hxid
        exact hn.1 (List.mem_map.mpr ⟨x, hx, by simpa using hxid⟩)
      simp [hnone]
    · have hq : q.id ≠ p.id := fun hid =>
        hn.1 (List.mem_map.mpr ⟨p, hl, hid.symm⟩)
      simp [hq, ih hn.2 hl]

/-! ### Removals -/

theorem removals_of_pending_subset {a : Action}
    (h : ∀ p ∈ c.pending, p ∈ (c.perform a).pending) : c.removals a = [] := by
  unfold removals
  rw [List.map_eq_nil_iff, List.filter_eq_nil_iff]
  intro p hp hout
  exact of_decide_eq_true hout (h p hp)

theorem removals_of_perform_eq_self {a : Action} (h : c.perform a = c) : c.removals a = [] := by
  apply removals_of_pending_subset
  intro p hp
  rw [h]
  exact hp

theorem removals_of_pending_filter {a : Action} {q : PendingCall → Bool}
    (h : (c.perform a).pending = c.pending.filter q) :
    c.removals a = (c.pending.filter fun p => !q p).map fun p => ⟨p, a⟩ := by
  unfold removals
  rw [h]
  congr 1
  apply List.filter_congr
  intro p hp
  simp [List.mem_filter, hp]

theorem removals_of_take {a : Action} {p : PendingCall} (hn : (c.pending.map (·.id)).Nodup)
    (hp : p ∈ c.pending) (h : (c.perform a).pending = c.pending.filter (·.id != p.id)) :
    c.removals a = [⟨p, a⟩] := by
  rw [removals_of_pending_filter h]
  have hf : (c.pending.filter fun x => !(x.id != p.id)) = c.pending.filter (·.id == p.id) := by
    apply List.filter_congr
    intro x _
    simp [bne]
  rw [hf, filter_id_eq_singleton hn hp]
  rfl

/-! ### Registering -/

theorem perform_register_of_pending {id : CorrelationId} {app : String} {timeout : Nat}
    {now : Int} (h : c.isPending id = true) : c.perform (.register id app timeout now) = c := by
  simp [perform, register, h]

theorem perform_register_of_not_pending {id : CorrelationId} {app : String} {timeout : Nat}
    {now : Int} (h : c.isPending id = false) :
    c.perform (.register id app timeout now) =
      { pending := c.pending ++ [⟨id, app, now + timeout, c.slots.length⟩],
        slots := c.slots ++ [(⟨id, now + timeout⟩, .awaiting)] } := by
  simp [perform, register, h]

theorem register_eq_ok {id : CorrelationId} {app : String} {timeout : Nat} {now : Int}
    {h : Nat} {c' : Correlator} (hr : c.register id app timeout now = .ok (h, c')) :
    c.isPending id = false ∧ h = c.slots.length := by
  unfold register at hr
  split at hr
  · cases hr
  · rename_i hp
    simp only [Except.ok.injEq, Prod.mk.injEq] at hr
    exact ⟨by simpa using hp, hr.1.symm⟩

theorem register_eq_error_iff {id : CorrelationId} {app : String} {timeout : Nat} {now : Int} :
    (∃ err, c.register id app timeout now = .error err) ↔ c.isPending id = true := by
  unfold register
  split
  · rename_i h
    simp [h]
  · rename_i h
    simp [h]

/-! ### Taking a call out: replies, cancels and sweeps -/

theorem perform_resolve_cases (stampMs : Int) (e : Envelope) :
    c.perform (.resolve stampMs e) = c ∨
      ∃ p ∈ c.pending, convertCorrelation e = .ok p.id ∧
        c.perform (.resolve stampMs e) =
          { c with pending := c.pending.filter (·.id != p.id) }.fill p.handle
            (.sent (replyResult p.expectedApp stampMs e)) := by
  simp only [perform, resolve]
  split
  · exact .inl rfl
  · rename_i id hid
    split
    · exact .inl rfl
    · rename_i p c' ht
      obtain ⟨hp, rfl, rfl⟩ := take_eq_some ht
      exact .inr ⟨p, hp, hid, rfl⟩

theorem perform_cancel_cases (id : CorrelationId) :
    c.perform (.cancel id) = c ∨
      ∃ p ∈ c.pending, id = p.id ∧
        c.perform (.cancel id) =
          { c with pending := c.pending.filter (·.id != p.id) }.fill p.handle .dropped := by
  simp only [perform, cancel]
  split
  · exact .inl rfl
  · rename_i p c' ht
    obtain ⟨hp, rfl, rfl⟩ := take_eq_some ht
    exact .inr ⟨p, hp, rfl, rfl⟩

theorem resolve_fst_eq (stampMs : Int) (e : Envelope) :
    (c.resolve stampMs e).1 =
      match convertCorrelation e with
      | .error err => .uncorrelated err
      | .ok id => if c.isPending id then .delivered id else .unmatched id := by
  cases he : convertCorrelation e with
  | error err => simp [resolve, he]
  | ok id =>
    cases ht : c.take id with
    | none => simp [resolve, he, ht, take_eq_none.mp ht]
    | some x =>
      have hp : c.isPending id = true := by
        by_contra hn
        rw [Bool.not_eq_true, ← take_eq_none, ht] at hn
        cases hn
      simp [resolve, he, ht, hp]

theorem removals_resolve (stampMs : Int) (e : Envelope) :
    c.removals (.resolve stampMs e) =
      match convertCorrelation e with
      | .error _ => []
      | .ok id => (c.pending.filter (·.id == id)).map fun p => ⟨p, .resolve stampMs e⟩ := by
  cases he : convertCorrelation e with
  | error err =>
    apply removals_of_perform_eq_self
    simp [perform, resolve, he]
  | ok id =>
    cases ht : c.take id with
    | none =>
      have hnone : c.pending.filter (·.id == id) = [] := by
        rw [List.filter_eq_nil_iff]
        intro p hp hid
        exact isPending_eq_false.mp (take_eq_none.mp ht) p hp (by simpa using hid)
      simp only [hnone, List.map_nil]
      apply removals_of_perform_eq_self
      simp [perform, resolve, he, ht]
    | some x =>
      obtain ⟨p, c'⟩ := x
      obtain ⟨-, -, rfl⟩ := take_eq_some ht
      have hpend : (c.perform (.resolve stampMs e)).pending = c.pending.filter (·.id != id) := by
        simp [perform, resolve, he, ht]
      rw [removals_of_pending_filter hpend]
      congr 1
      apply List.filter_congr
      intro q _
      simp [bne]

theorem getElem?_foldl_fill (l : List PendingCall) (s : Slot) (c₀ : Correlator) (i : Nat) :
    (l.foldl (fun c p => c.fill p.handle s) c₀).slots[i]? =
      if ∃ p ∈ l, p.handle = i then c₀.slots[i]?.map (fun x => (x.1, s)) else c₀.slots[i]? := by
  induction l generalizing c₀ with
  | nil => simp
  | cons p l ih =>
    rw [List.foldl_cons, ih, getElem?_fill]
    by_cases hp : p.handle = i
    · simp [hp, Option.map_map, Function.comp_def]
    · simp [hp]

theorem pending_foldl_fill (l : List PendingCall) (s : Slot) (c₀ : Correlator) :
    (l.foldl (fun c p => c.fill p.handle s) c₀).pending = c₀.pending := by
  induction l generalizing c₀ with
  | nil => rfl
  | cons p l ih => rw [List.foldl_cons, ih, fill_pending]

theorem length_foldl_fill (l : List PendingCall) (s : Slot) (c₀ : Correlator) :
    (l.foldl (fun c p => c.fill p.handle s) c₀).slots.length = c₀.slots.length := by
  induction l generalizing c₀ with
  | nil => rfl
  | cons p l ih => rw [List.foldl_cons, ih, length_fill]

theorem perform_expire_pending (now : Int) :
    (c.perform (.expire now)).pending = c.pending.filter fun p => !decide (p.deadline ≤ now) := by
  simp only [perform, expireOverdue, pending_foldl_fill]

theorem mem_expire_pending {now : Int} {q : PendingCall} :
    q ∈ (c.perform (.expire now)).pending ↔ q ∈ c.pending ∧ ¬ q.deadline ≤ now := by
  rw [perform_expire_pending, List.mem_filter]
  simp

theorem perform_expire_slots (now : Int) (i : Nat) :
    (c.perform (.expire now)).slots[i]? =
      if ∃ p ∈ c.pending, p.deadline ≤ now ∧ p.handle = i then
        c.slots[i]?.map (fun x => (x.1, .sent .timedOut))
      else c.slots[i]? := by
  simp only [perform, expireOverdue, getElem?_foldl_fill, List.mem_filter, decide_eq_true_eq,
    and_assoc]

theorem length_perform_expire (now : Int) :
    (c.perform (.expire now)).slots.length = c.slots.length := by
  simp only [perform, expireOverdue, length_foldl_fill]

theorem removals_expire (now : Int) :
    c.removals (.expire now) =
      (c.pending.filter fun p => decide (p.deadline ≤ now)).map fun p => ⟨p, .expire now⟩ := by
  rw [removals_of_pending_filter (perform_expire_pending now)]
  simp

/-! ### Waiting -/

/-- A wait changes nothing on a handle never given out or already waited on; takes a
received result or a dropped slot; and on an empty slot takes out the call pending under
the handle's identifier, if any. Every wait that ends marks the slot taken. -/
theorem perform_wait_cases (handle : Nat) (now : Int) :
    c.perform (.wait handle now) = c ∨
      (∃ k s, c.slots[handle]? = some (k, s) ∧ s ≠ .awaiting ∧ s ≠ .taken ∧
        c.perform (.wait handle now) = c.fill handle .taken) ∨
      (∃ k, c.slots[handle]? = some (k, .awaiting) ∧ c.isPending k.id = false ∧
        c.perform (.wait handle now) = c.fill handle .taken) ∨
      (∃ k, c.slots[handle]? = some (k, .awaiting) ∧ ∃ p ∈ c.pending, p.id = k.id ∧
        c.perform (.wait handle now) =
          { c with pending := c.pending.filter (·.id != k.id) }.fill handle .taken) := by
  have hw : c.perform (.wait handle now) =
      match c.wait handle now with
      | some (_, _, c') => c'
      | none => c := rfl
  rw [hw]
  unfold wait
  rcases hs : c.slots[handle]? with _ | ⟨k, _ | r | _ | _⟩
  · exact .inl rfl
  · cases ht : c.take k.id with
    | none => exact .inr (.inr (.inl ⟨k, rfl, take_eq_none.mp ht, by simp [ht]⟩))
    | some x =>
      obtain ⟨p, c'⟩ := x
      obtain ⟨hp, hid, rfl⟩ := take_eq_some ht
      exact .inr (.inr (.inr ⟨k, rfl, p, hp, hid, by simp [ht]⟩))
  · exact .inr (.inl ⟨k, .sent r, rfl, by simp, by simp, rfl⟩)
  · exact .inr (.inl ⟨k, .dropped, rfl, by simp, by simp, rfl⟩)
  · exact .inl rfl

theorem perform_wait_of_awaiting {handle : Nat} {now : Int} {k : Handle} {p : PendingCall}
    (hs : c.slots[handle]? = some (k, .awaiting)) (hp : p ∈ c.pending) (hid : p.id = k.id) :
    c.perform (.wait handle now) =
      { c with pending := c.pending.filter (·.id != k.id) }.fill handle .taken := by
  cases ht : c.take k.id with
  | none =>
    exact absurd hid (isPending_eq_false.mp (take_eq_none.mp ht) p hp)
  | some x =>
    obtain ⟨q, c'⟩ := x
    obtain ⟨-, -, rfl⟩ := take_eq_some ht
    simp [perform, wait, hs, ht]

theorem wait_eq_some_cases {handle : Nat} {now : Int} {r : CallResult} {t : Int}
    {c' : Correlator} (h : c.wait handle now = some (r, t, c')) :
    (∃ k, c.slots[handle]? = some (k, .sent r)) ∨
      (∃ k, c.slots[handle]? = some (k, .dropped) ∧ r = .timedOut) ∨
      (∃ k, c.slots[handle]? = some (k, .awaiting) ∧ r = .timedOut) := by
  unfold wait at h
  split at h
  · cases h
  · cases h
  · rename_i k r' hs
    simp only [Option.some.injEq, Prod.mk.injEq] at h
    exact .inl ⟨k, h.1 ▸ hs⟩
  · rename_i k hs
    simp only [Option.some.injEq, Prod.mk.injEq] at h
    exact .inr (.inl ⟨k, hs, h.1.symm⟩)
  · rename_i k hs
    split at h <;>
    · simp only [Option.some.injEq, Prod.mk.injEq] at h
      exact .inr (.inr ⟨k, hs, h.1.symm⟩)

end Correlator

end DeviceFleet.Command
