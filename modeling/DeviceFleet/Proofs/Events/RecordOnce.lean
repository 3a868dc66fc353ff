import Mathlib.Data.List.Basic
import DeviceFleet.Proofs.Events.StoreLaws

/-!
# Recording an event once, across nodes

Deliveries of one event on any nodes, their claims, waits and effects interleaved and no claim
held past the lease: at most one effect succeeds, its node hears of the event once, and every
other delivery returns duplicate or its own failure (`records_once`).
-/

namespace DeviceFleet.Events

namespace Delivery

variable {α : Type}

def isApplied : Delivery α → Bool
  | .over (.ok (.applied _)) _ => true
  | _ => false

def owns : Delivery α → Bool
  | .running .. => true
  | d => d.isApplied

theorem owns_of_isApplied {d : Delivery α} (h : d.isApplied) : d.owns := by
  cases d <;> simp_all [owns, isApplied]

theorem owns_cases {d : Delivery α} (h : d.owns) : (∃ r t, d = .running r t) ∨ d.isApplied := by
  cases d with
  | running r t => exact .inl ⟨r, t, rfl⟩
  | _ => exact .inr (by simpa [owns] using h)

end Delivery

namespace EventStore

variable {s s' : EventStore} {k : EventKey}

def Indexed (s : EventStore) (k : EventKey) : Prop :=
  ∀ r, s.find k = some r → s.byId r.recordId = some r

theorem Indexed.put (hx : s.Indexed k) {r₀ : EventRecord} (r : EventRecord)
    (hf : s.find k = some r₀) (hk : r.key = k) (hid : r.recordId = r₀.recordId) :
    (s.put r).find k = some r ∧ (s.put r).Indexed k := by
  have hk₀ : r₀.key = k := (find_eq_some hf).2
  have hfr : (s.put r).find k = some r := by
    subst hk
    exact find_put_self (by simp [hf])
  refine ⟨hfr, fun x hx' => ?_⟩
  rw [hfr] at hx'
  cases hx'
  rw [hid]
  exact byId_put (hx r₀ hf) (hk.trans hk₀.symm)

theorem Inv.indexed {D : List Uuid} {M : List EventKey} (hi : s.Inv D M) (hn : D.Nodup)
    (k : EventKey) : s.Indexed k := by
  intro r hf
  obtain ⟨hr, hk⟩ := find_eq_some hf
  have hl : s.keysById.lookup r.recordId = some k :=
    (hi.index hn r.recordId k).mpr (List.mem_map.mpr ⟨r, hr, by rw [hk]⟩)
  simp [byId, hl, hf]

theorem claimed_held {e : ServiceEvent} {node : String} {lease : Nat} {now : Int}
    {g g' : UuidSource} {r : EventRecord} (hx : s.Indexed e.key)
    (h : s.claim e node lease now g = (.claimed r, s', g')) :
    s'.isTombstoned e.key = false ∧ s'.find e.key = some r ∧ r.status = .unprocessed ∧
      r.inFlight = true ∧ s'.Indexed e.key := by
  obtain ⟨ht, ⟨hf, hr, -, hs'⟩ | ⟨r₀, hf, hu, -, hr, -, rfl⟩⟩ := claim_eq_claimed h
  · have hfr : s'.find e.key = some r := by
      subst hs' hr
      simp only [find] at hf ⊢
      rw [List.find?_append, hf]
      simp [EventRecord.key]
    have hid : s'.keysById.lookup r.recordId = some e.key := by
      subst hs' hr
      rw [List.lookup_append, lookup_filter_id (· != g.next.1)]
      simp
    refine ⟨by rw [hs']; exact ht, hfr, by rw [hr], by rw [hr], fun x hx' => ?_⟩
    rw [hfr] at hx'
    cases hx'
    simp [byId, hid, hfr]
  · obtain ⟨hfr, hix⟩ := hx.put r hf (by rw [hr]; exact (find_eq_some hf).2) (by rw [hr])
    exact ⟨by simpa using ht, hfr, by rw [hr]; exact hu, by rw [hr], hix⟩

theorem markProcessed_held (hx : s.Indexed k) {r : EventRecord} (hf : s.find k = some r)
    (hu : r.status = .unprocessed) :
    ∃ r' s', s.markProcessed r.recordId = .ok (r', s') ∧ s'.find k = some r' ∧
      r'.status = .processed ∧ s'.Indexed k := by
  have hk : r.key = k := (find_eq_some hf).2
  obtain ⟨hfr, hix⟩ := hx.put { r with status := .processed, inFlight := false, claimedOn := none,
                                       sequence := s.lastSequence + 1 } hf hk rfl
  exact ⟨_, _, markProcessed_of_unprocessed (hx r hf) hu, hfr, rfl, hix⟩

theorem release_held (hx : s.Indexed k) {r : EventRecord} (ht : s.isTombstoned k = false)
    (hf : s.find k = some r) (hu : r.status = .unprocessed) :
    s.release r.recordId r.claimToken = .ok (s.put { r with inFlight := false, claimedOn := none }) ∧
      (s.put { r with inFlight := false, claimedOn := none }).find k =
        some { r with inFlight := false, claimedOn := none } ∧
      (s.put { r with inFlight := false, claimedOn := none }).Indexed k ∧
      ∀ lease now, (s.put { r with inFlight := false, claimedOn := none }).claimable k lease now := by
  have hk : r.key = k := (find_eq_some hf).2
  obtain ⟨hfr, hix⟩ := hx.put { r with inFlight := false, claimedOn := none } hf hk rfl
  refine ⟨release_of_holder (hx r hf) hu, hfr, hix, fun lease now => ?_⟩
  simp only [claimable, hfr]
  simp [hu, ht]

end EventStore

/-- A delivery of an event on a node: the node it runs on, the event, and where it stands. -/
structure Copy (α : Type) where
  node : Nat
  event : ServiceEvent
  stage : Delivery α

/-- Deliveries on nodes sharing one store: the store and its source of identifiers, each node's
recorder, and the deliveries. -/
structure Fleet (α : Type) where
  store : EventStore
  ids : UuidSource
  recorders : List Recorder
  copies : List (Copy α)

namespace Fleet

variable {α : Type}

def recorderOf (w : Fleet α) (c : Copy α) : Recorder :=
  w.recorders.getD c.node default

def view (w : Fleet α) (c : Copy α) (result : Except String α) : Deliveries α :=
  { store := w.store, ids := w.ids, recorder := w.recorderOf c, event := c.event,
    effect := ⟨result, 1⟩, pending := [] }

def step (w : Fleet α) (i : Nat) (now : Int) (result : Except String α) : Fleet α :=
  match w.copies[i]? with
  | none => w
  | some c =>
    let (v, d) := (w.view c result).act c.stage now
    { store := v.store, ids := v.ids, recorders := w.recorders.set c.node v.recorder,
      copies := w.copies.set i { c with stage := d } }

def Timely (w : Fleet α) (i : Nat) (now : Int) : Prop :=
  ∀ c, w.copies[i]? = some c → (∃ t, c.stage = .claiming t) →
    ∀ d ∈ w.copies, ∀ r t, d.stage = .running r t →
      r.leaseExpired (w.recorderOf c).claimLease now = false

/-- The fleets a run from `w₀` reaches, each claim timely. -/
inductive Reach (w₀ : Fleet α) : Fleet α → Prop where
  | refl : Reach w₀ w₀
  | step {w : Fleet α} {i : Nat} {now : Int} (result : Except String α) :
      Reach w₀ w → w.Timely i now → Reach w₀ (w.step i now result)

/-- Deliveries of events of identity `k`, each about to claim, against a store whose record of
`k`, if it has one, is reachable by its id. -/
structure Start (w : Fleet α) (k : EventKey) : Prop where
  keys : ∀ c ∈ w.copies, c.event.key = k
  claiming : ∀ c ∈ w.copies, ∃ t, c.stage = .claiming t
  indexed : w.store.Indexed k

def appliedOn (cs : List (Copy α)) (n : Nat) : Nat :=
  cs.countP fun c => c.node == n && c.stage.isApplied

def Answered (k : EventKey) : Except EventStoreError (RecordOutcome α) → Prop
  | .ok _ => True
  | .error e => ∃ m, e = .effectFailed k.1 k.2 m

def SoleOwner (cs : List (Copy α)) : Prop :=
  ∀ (i j : Nat) (ci cj : Copy α), cs[i]? = some ci → cs[j]? = some cj → ci.stage.owns → cj.stage.owns → i = j

/-- What every reachable fleet keeps: the record of `k` is indexed; a running delivery holds it
unprocessed; an applied one left it processed; at most one delivery owns the effect; the
listeners of each node heard of `k` once per delivery applied there. -/
structure Inv (w w₀ : Fleet α) (k : EventKey) : Prop where
  keys : ∀ c ∈ w.copies, c.event.key = k
  indexed : w.store.Indexed k
  held : ∀ c ∈ w.copies, ∀ r t, c.stage = .running r t →
    w.store.isTombstoned k = false ∧ w.store.find k = some r ∧ r.status = .unprocessed ∧
      r.inFlight = true
  done : ∀ c ∈ w.copies, c.stage.isApplied →
    ∃ r, w.store.find k = some r ∧ r.status = .processed
  sole : SoleOwner w.copies
  ended : ∀ c ∈ w.copies, ∀ o t, c.stage = .over o t → Answered k o
  length : w.recorders.length = w₀.recorders.length
  heard : ∀ n, (w.recorders.getD n default).listeners.map (·.received) =
    (w₀.recorders.getD n default).listeners.map
      fun l => l.received ++ List.replicate (appliedOn w.copies n) k.1

def OthersIdle (cs : List (Copy α)) (i : Nat) : Prop :=
  ∀ (j : Nat) (d : Copy α), j ≠ i → cs[j]? = some d → d.stage.owns = false

/-! ### Replacing one delivery -/

section Replace

variable {l : List (Copy α)} {i : Nat} {c x d : Copy α}

theorem getElem?_set_eq_some {β : Type} {l : List β} {i j : Nat} {x d : β}
    (h : (l.set i x)[j]? = some d) : (j = i ∧ d = x) ∨ (j ≠ i ∧ l[j]? = some d) := by
  rw [List.getElem?_set] at h
  by_cases hij : i = j
  · subst hij
    by_cases hl : i < l.length
    · rw [if_pos rfl, if_pos hl] at h
      exact .inl ⟨rfl, (Option.some.inj h).symm⟩
    · simp [hl] at h
  · rw [if_neg hij] at h
    exact .inr ⟨Ne.symm hij, h⟩

theorem mem_set_cases {β : Type} {l : List β} {i : Nat} {x d : β} (hd : d ∈ l.set i x) :
    d = x ∨ ∃ j, j ≠ i ∧ l[j]? = some d := by
  obtain ⟨j, hj⟩ := List.mem_iff_getElem?.mp hd
  rcases getElem?_set_eq_some hj with ⟨-, rfl⟩ | ⟨hne, hj⟩
  · exact .inl rfl
  · exact .inr ⟨j, hne, hj⟩

theorem SoleOwner.idle (hs : SoleOwner l) (hc : l[i]? = some c) (ho : c.stage.owns) :
    OthersIdle l i := by
  intro j d hj hd
  by_contra hdo
  exact hj (hs j i d c hd hc (by simpa using hdo) ho)

theorem owner_set (h : OthersIdle l i) (hd : d ∈ l.set i x) (ho : d.stage.owns) : d = x := by
  rcases mem_set_cases hd with rfl | ⟨j, hne, hj⟩
  · rfl
  · simp [h j d hne hj] at ho

theorem sole_set (hs : SoleOwner l) (hx : x.stage.owns → OthersIdle l i) :
    SoleOwner (l.set i x) := by
  intro a b ca cb ha hb hoa hob
  rcases getElem?_set_eq_some ha with ⟨rfl, rfl⟩ | ⟨hna, ha'⟩ <;>
    rcases getElem?_set_eq_some hb with ⟨rfl, rfl⟩ | ⟨hnb, hb'⟩
  · rfl
  · simp [hx hoa b cb hnb hb'] at hob
  · simp [hx hob a ca hna ha'] at hoa
  · exact hs a b ca cb ha' hb' hoa hob

theorem keys_set {k : EventKey} (hk : ∀ d ∈ l, d.event.key = k) (hc : l[i]? = some c)
    (hx : x.event = c.event) : ∀ d ∈ l.set i x, d.event.key = k := by
  intro d hd
  rcases List.mem_or_eq_of_mem_set hd with hd | rfl
  · exact hk d hd
  · rw [hx]
    exact hk c (List.mem_of_getElem? hc)

theorem ended_set {k : EventKey} (he : ∀ d ∈ l, ∀ o t, d.stage = .over o t → Answered k o)
    (hx : ∀ o t, x.stage = .over o t → Answered k o) :
    ∀ d ∈ l.set i x, ∀ o t, d.stage = .over o t → Answered k o := by
  intro d hd
  rcases List.mem_or_eq_of_mem_set hd with hd | rfl
  · exact he d hd
  · exact hx

theorem appliedOn_set (hc : l[i]? = some c) (x : Copy α) (n : Nat) :
    appliedOn (l.set i x) n + (if (c.node == n && c.stage.isApplied) = true then 1 else 0) =
      appliedOn l n + (if (x.node == n && x.stage.isApplied) = true then 1 else 0) := by
  obtain ⟨hi, rfl⟩ := List.getElem?_eq_some_iff.mp hc
  have hpos : (if (l[i].node == n && l[i].stage.isApplied) = true then 1 else 0) ≤
      appliedOn l n := by
    split_ifs with hp
    · exact List.countP_pos_iff.mpr ⟨_, List.getElem_mem hi, hp⟩
    · exact Nat.zero_le _
  simp only [appliedOn, List.countP_set hi] at hpos ⊢
  omega

theorem appliedOn_set_idle (hc : l[i]? = some c) (hca : c.stage.isApplied = false)
    (hxa : x.stage.isApplied = false) (n : Nat) : appliedOn (l.set i x) n = appliedOn l n := by
  have h := appliedOn_set hc x n
  simp only [hca, hxa, Bool.and_false, Bool.false_eq_true, if_false] at h
  omega

theorem default_listeners : (default : Recorder).listeners = [] := rfl

theorem heard_notify (w : Fleet α) (c : Copy α) (n : Nat) :
    ((w.recorders.set c.node ((w.recorderOf c).notify c.event)).getD n default).listeners.map
        (·.received) =
      (w.recorders.getD n default).listeners.map
        fun l => l.received ++ if c.node = n then [c.event.contextId] else [] := by
  unfold recorderOf
  simp only [List.getD_eq_getElem?_getD, List.getElem?_set]
  by_cases hn : c.node = n
  · subst hn
    by_cases hl : c.node < w.recorders.length
    · simp [hl, Recorder.notify, Listener.tell]
    · simp [hl, default_listeners]
  · simp [hn]

end Replace

/-! ### What one step does -/

section Steps

variable {w : Fleet α} {i : Nat} {c : Copy α} {now : Int} {result : Except String α}

theorem set_recorderOf (w : Fleet α) (c : Copy α) :
    w.recorders.set c.node (w.recorderOf c) = w.recorders := by
  unfold recorderOf
  by_cases h : c.node < w.recorders.length
  · rw [List.getD_eq_getElem?_getD, List.getElem?_eq_getElem h, Option.getD_some]
    exact List.set_getElem_self h
  · exact List.set_eq_of_length_le (by omega)

theorem step_claimed {t : Int} {r : EventRecord} {s : EventStore} {g : UuidSource}
    (hc : w.copies[i]? = some c) (hs : c.stage = .claiming t)
    (h : w.store.claim c.event (w.recorderOf c).nodeId (w.recorderOf c).claimLease now w.ids =
      (.claimed r, s, g)) :
    w.step i now result =
      { w with store := s, ids := g,
               copies := w.copies.set i { c with stage := .running r (now + 1) } } := by
  simp only [step, hc, hs, view, Deliveries.act, h]
  simp [set_recorderOf]

theorem step_duplicate {t : Int} {s : EventStore} {g : UuidSource}
    (hc : w.copies[i]? = some c) (hs : c.stage = .claiming t)
    (h : w.store.claim c.event (w.recorderOf c).nodeId (w.recorderOf c).claimLease now w.ids =
      (.alreadyProcessed, s, g)) :
    w.step i now result =
      { w with store := s, ids := g,
               copies := w.copies.set i { c with stage := .over (.ok .duplicate) now } } := by
  simp only [step, hc, hs, view, Deliveries.act, h]
  simp [set_recorderOf]

theorem step_waits {t : Int} {s : EventStore} {g : UuidSource}
    (hc : w.copies[i]? = some c) (hs : c.stage = .claiming t)
    (h : w.store.claim c.event (w.recorderOf c).nodeId (w.recorderOf c).claimLease now w.ids =
      (.inFlight, s, g)) :
    w.step i now result =
      { w with store := s, ids := g,
               copies := w.copies.set i
                 { c with stage := .claiming (now + (w.recorderOf c).pollInterval) } } := by
  simp only [step, hc, hs, view, Deliveries.act, h]
  simp [set_recorderOf]

theorem step_applied {r r' : EventRecord} {t : Int} {s : EventStore} {v : α}
    (hc : w.copies[i]? = some c) (hs : c.stage = .running r t)
    (hm : w.store.markProcessed r.recordId = .ok (r', s)) :
    w.step i now (.ok v) =
      { w with store := s, recorders := w.recorders.set c.node ((w.recorderOf c).notify c.event),
               copies := w.copies.set i { c with stage := .over (.ok (.applied v)) now } } := by
  simp [step, hc, hs, view, Deliveries.act, Deliveries.finish, hm]

theorem step_failed {r : EventRecord} {t : Int} {s : EventStore} {m : String}
    (hc : w.copies[i]? = some c) (hs : c.stage = .running r t)
    (hr : w.store.release r.recordId r.claimToken = .ok s) :
    w.step i now (.error m) =
      { w with store := s,
               copies := w.copies.set i
                 { c with stage := .over (.error (.effectFailed c.event.contextId
                                                   c.event.sourceService m)) now } } := by
  simp [step, hc, hs, view, Deliveries.act, Deliveries.finish, hr, set_recorderOf]

theorem step_over {o : Except EventStoreError (RecordOutcome α)} {t : Int}
    (hc : w.copies[i]? = some c) (hs : c.stage = .over o t) : w.step i now result = w := by
  simp only [step, hc, hs, view, Deliveries.act]
  rw [set_recorderOf, ← hs]
  obtain ⟨hi, rfl⟩ := List.getElem?_eq_some_iff.mp hc
  exact congrArg (fun l => { w with copies := l }) (List.set_getElem_self hi)

end Steps

/-! ### The invariant -/

section Invariant

variable {w₀ w : Fleet α} {k : EventKey} {i : Nat} {c : Copy α} {now : Int}

theorem inv_start (h : w₀.Start k) : w₀.Inv w₀ k := by
  have hc : ∀ d ∈ w₀.copies, d.stage.owns = false := by
    intro d hd
    obtain ⟨t, ht⟩ := h.claiming d hd
    simp [ht, Delivery.owns, Delivery.isApplied]
  have happ : ∀ n, appliedOn w₀.copies n = 0 := by
    intro n
    refine List.countP_eq_zero.mpr fun d hd => ?_
    have := hc d hd
    cases hds : d.stage <;> simp_all [Delivery.owns, Delivery.isApplied]
  refine ⟨h.keys, h.indexed, ?_, ?_, ?_, ?_, rfl, fun n => by simp [happ n]⟩
  · intro d hd r t hr
    exact absurd (hc d hd) (by simp [hr, Delivery.owns])
  · intro d hd ha
    exact absurd (hc d hd) (by simp [Delivery.owns_of_isApplied ha])
  · intro a b ca _ ha _ hoa _
    exact absurd (hc ca (List.mem_of_getElem? ha)) (by simp [hoa])
  · intro d hd o t ho
    obtain ⟨t', ht'⟩ := h.claiming d hd
    rw [ht'] at ho
    cases ho

theorem Inv.idle (hi : w.Inv w₀ k) (hc : w.copies[i]? = some c) (hco : c.stage.owns = false)
    {x : Copy α} (hxe : x.event = c.event) (hxn : x.node = c.node) (hxo : x.stage.owns = false)
    (hxa : ∀ o t, x.stage = .over o t → Answered k o) :
    ({ w with copies := w.copies.set i x }).Inv w₀ k := by
  have hca : c.stage.isApplied = false := by
    cases h : c.stage.isApplied
    · rfl
    · simp [Delivery.owns_of_isApplied h] at hco
  have hxa' : x.stage.isApplied = false := by
    cases h : x.stage.isApplied
    · rfl
    · simp [Delivery.owns_of_isApplied h] at hxo
  refine ⟨keys_set hi.keys hc hxe, hi.indexed, ?_, ?_, sole_set hi.sole (by simp [hxo]),
    ended_set hi.ended hxa, hi.length, fun n => ?_⟩
  · intro d hd r t hr
    rcases List.mem_or_eq_of_mem_set hd with hd | rfl
    · exact hi.held d hd r t hr
    · simp [hr, Delivery.owns] at hxo
  · intro d hd ha
    rcases List.mem_or_eq_of_mem_set hd with hd | rfl
    · exact hi.done d hd ha
    · simp [ha] at hxa'
  · rw [appliedOn_set_idle hc hca hxa']
    exact hi.heard n

/-- A claim that succeeds: no delivery owned the effect, since a running one would have made the
claim wait and an applied one would have made it a duplicate; the claimant is now the owner. -/
theorem Inv.claimed (hi : w.Inv w₀ k) (hc : w.copies[i]? = some c) {t : Int}
    (hs : c.stage = .claiming t)
    (ht : ∀ d ∈ w.copies, ∀ r t, d.stage = .running r t →
      r.leaseExpired (w.recorderOf c).claimLease now = false)
    {r : EventRecord} {s : EventStore} {g : UuidSource}
    (h : w.store.claim c.event (w.recorderOf c).nodeId (w.recorderOf c).claimLease now w.ids =
      (.claimed r, s, g)) (result : Except String α) :
    (w.step i now result).Inv w₀ k := by
  have hkc : c.event.key = k := hi.keys c (List.mem_of_getElem? hc)
  have hidle : ∀ d ∈ w.copies, d.stage.owns = false := by
    intro d hd
    by_contra hown
    rcases Delivery.owns_cases (by simpa using hown) with ⟨r', t', hr'⟩ | hap
    · obtain ⟨htb, hf, hu, hfl⟩ := hi.held d hd r' t' hr'
      rw [← hkc] at htb hf
      have hw : (w.store.claim c.event (w.recorderOf c).nodeId (w.recorderOf c).claimLease now
          w.ids).1 = .inFlight := EventStore.claim_of_held htb hf hu hfl (ht d hd r' t' hr')
      simp [h] at hw
    · obtain ⟨r', hf, hp⟩ := hi.done d hd hap
      rw [← hkc] at hf
      have hw : w.store.claim c.event (w.recorderOf c).nodeId (w.recorderOf c).claimLease now
          w.ids = (.alreadyProcessed, w.store, w.ids) := EventStore.claim_of_done (.inr ⟨r', hf, hp⟩)
      simp [h] at hw
  have hothers : OthersIdle w.copies i := fun j d _ hj => hidle d (List.mem_of_getElem? hj)
  obtain ⟨htb, hf, hu, hfl, hix⟩ := EventStore.claimed_held (hkc ▸ hi.indexed) h
  rw [hkc] at htb hf hix
  have hca : c.stage.isApplied = false := by simp [hs, Delivery.isApplied]
  rw [step_claimed hc hs h]
  refine ⟨keys_set hi.keys hc rfl, hix, ?_, ?_, sole_set hi.sole fun _ => hothers,
    ended_set hi.ended (by simp), hi.length, fun n => ?_⟩
  · intro d hd r' t' hr'
    obtain rfl := owner_set hothers hd (by simp [hr', Delivery.owns])
    obtain ⟨rfl, -⟩ := Delivery.running.inj hr'
    exact ⟨htb, hf, hu, hfl⟩
  · intro d hd hap
    obtain rfl := owner_set hothers hd (Delivery.owns_of_isApplied hap)
    simp [Delivery.isApplied] at hap
  · rw [appliedOn_set_idle hc hca (by simp [Delivery.isApplied])]
    exact hi.heard n

theorem Inv.claim (hi : w.Inv w₀ k) (hc : w.copies[i]? = some c) {t : Int}
    (hs : c.stage = .claiming t)
    (ht : ∀ d ∈ w.copies, ∀ r t, d.stage = .running r t →
      r.leaseExpired (w.recorderOf c).claimLease now = false)
    (result : Except String α) : (w.step i now result).Inv w₀ k := by
  have hco : c.stage.owns = false := by simp [hs, Delivery.owns, Delivery.isApplied]
  rcases EventStore.claim_cases w.store c.event (w.recorderOf c).nodeId
      (w.recorderOf c).claimLease now w.ids with ⟨-, r, s, g, h⟩ | ⟨-, o, ho, h⟩
  · exact hi.claimed hc hs ht h result
  · rcases ho with rfl | rfl
    · rw [step_duplicate hc hs h]
      exact hi.idle hc hco rfl rfl (by simp [Delivery.owns, Delivery.isApplied])
        fun o t ho => by simp [(Delivery.over.inj ho).1.symm, Answered]
    · rw [step_waits hc hs h]
      exact hi.idle hc hco rfl rfl (by simp [Delivery.owns, Delivery.isApplied])
        fun o t ho => by cases ho

/-- An effect that succeeds: its delivery, the one owner, marks the record processed, turns from
running to applied, and its node's listeners hear of the event. -/
theorem Inv.applied (hi : w.Inv w₀ k) (hc : w.copies[i]? = some c) {r : EventRecord} {t : Int}
    (hs : c.stage = .running r t) (v : α) : (w.step i now (.ok v)).Inv w₀ k := by
  have hkc : c.event.key = k := hi.keys c (List.mem_of_getElem? hc)
  obtain ⟨-, hf, hu, -⟩ := hi.held c (List.mem_of_getElem? hc) r t hs
  obtain ⟨r', s, hm, hf', hp, hix⟩ := EventStore.markProcessed_held hi.indexed hf hu
  have hothers := hi.sole.idle hc (by simp [hs, Delivery.owns])
  rw [step_applied hc hs hm]
  refine ⟨keys_set hi.keys hc rfl, hix, ?_, ?_, sole_set hi.sole fun _ => hothers,
    ended_set hi.ended (by simp [Answered]), by simp [hi.length], fun n => ?_⟩
  · intro d hd r₁ t₁ hr₁
    obtain rfl := owner_set hothers hd (by simp [hr₁, Delivery.owns])
    cases hr₁
  · intro d hd hap
    obtain rfl := owner_set hothers hd (Delivery.owns_of_isApplied hap)
    exact ⟨r', hf', hp⟩
  · have happ := appliedOn_set hc { c with stage := .over (.ok (.applied v)) now } n
    simp only [hs, Delivery.isApplied, Bool.and_false, Bool.false_eq_true, if_false,
      Bool.and_true, beq_iff_eq, Nat.add_zero] at happ
    have h := congrArg (List.map (· ++ if c.node = n then [c.event.contextId] else []))
      (hi.heard n)
    simp only [List.map_map, Function.comp_def, List.append_assoc] at h
    rw [heard_notify, h]
    refine List.map_congr_left fun l _ => ?_
    dsimp only
    rw [happ, ← hkc]
    split_ifs <;> simp [List.replicate_succ', ServiceEvent.key]
  
theorem Inv.failed (hi : w.Inv w₀ k) (hc : w.copies[i]? = some c) {r : EventRecord} {t : Int}
    (hs : c.stage = .running r t) (m : String) : (w.step i now (.error m)).Inv w₀ k := by
  have hkc : c.event.key = k := hi.keys c (List.mem_of_getElem? hc)
  obtain ⟨htb, hf, hu, -⟩ := hi.held c (List.mem_of_getElem? hc) r t hs
  obtain ⟨hrel, -, hix, -⟩ := EventStore.release_held hi.indexed htb hf hu
  have hothers := hi.sole.idle hc (by simp [hs, Delivery.owns])
  rw [step_failed hc hs hrel]
  refine ⟨keys_set hi.keys hc rfl, hix, ?_, ?_,
    sole_set hi.sole (by simp [Delivery.owns, Delivery.isApplied]), ended_set hi.ended ?_,
    hi.length, fun n => ?_⟩
  · intro d hd r₁ t₁ hr₁
    obtain rfl := owner_set hothers hd (by simp [hr₁, Delivery.owns])
    cases hr₁
  · intro d hd hap
    obtain rfl := owner_set hothers hd (Delivery.owns_of_isApplied hap)
    simp [Delivery.isApplied] at hap
  · intro o t' ho
    rw [← (Delivery.over.inj ho).1, ← hkc]
    exact ⟨m, rfl⟩
  · rw [appliedOn_set_idle hc (by simp [hs, Delivery.isApplied]) (by simp [Delivery.isApplied])]
    exact hi.heard n

theorem Inv.step (hi : w.Inv w₀ k) (ht : w.Timely i now) (result : Except String α) :
    (w.step i now result).Inv w₀ k := by
  cases hc : w.copies[i]? with
  | none =>
    have hw : w.step i now result = w := by simp [Fleet.step, hc]
    rw [hw]
    exact hi
  | some c =>
    rcases hs : c.stage with t | ⟨r, t⟩ | ⟨o, t⟩
    · exact hi.claim hc hs (ht c hc ⟨t, hs⟩) result
    · cases result with
      | ok v => exact hi.applied hc hs v
      | error m => exact hi.failed hc hs m
    · rw [step_over hc hs]
      exact hi

theorem Reach.inv (h₀ : w₀.Start k) (hr : Reach w₀ w) : w.Inv w₀ k := by
  induction hr with
  | refl => exact inv_start h₀
  | step result _ ht ih => exact ih.step ht result

end Invariant

/-! ### Recording once -/

theorem countP_le_one {β : Type} {p : β → Bool} : ∀ {l : List β},
    (∀ (i j : Nat) (a b : β), l[i]? = some a → l[j]? = some b → p a → p b → i = j) →
      l.countP p ≤ 1
  | [], _ => by simp
  | a :: l, h => by
    have ih := countP_le_one (l := l) fun i j x y hx hy px py =>
      Nat.succ.inj (h (i + 1) (j + 1) x y (by simpa using hx) (by simpa using hy) px py)
    rw [List.countP_cons]
    by_cases ha : p a
    · -- the head holds it, so no later entry does
      have h0 : l.countP p = 0 := List.countP_eq_zero.mpr fun b hb pb => by
        obtain ⟨j, hj⟩ := List.mem_iff_getElem?.mp hb
        exact absurd (h 0 (j + 1) a b rfl (by simpa using hj) ha pb) (by omega)
      simp [ha, h0]
    · simp [ha, ih]

/-- What recording an event once promises of every fleet a run from `w₀` reaches. -/
structure Once (w w₀ : Fleet α) (k : EventKey) : Prop where
  applied_once : ∀ (i j : Nat) (ci cj : Copy α), w.copies[i]? = some ci → w.copies[j]? = some cj →
    ci.stage.isApplied → cj.stage.isApplied → i = j
  runs_alone : ∀ (i j : Nat) (ci cj : Copy α) r t, w.copies[i]? = some ci →
    ci.stage = .running r t → w.copies[j]? = some cj → cj.stage.owns → j = i
  answered : ∀ c ∈ w.copies, ∀ o t, c.stage = .over o t → Answered k o
  heard : ∀ n, (w.recorders.getD n default).listeners.map (·.received) =
    (w₀.recorders.getD n default).listeners.map
      fun l => l.received ++ List.replicate (appliedOn w.copies n) k.1
  heard_once : ∀ n, appliedOn w.copies n ≤ 1
  processed : ∀ c ∈ w.copies, c.stage.isApplied → ∀ (e : ServiceEvent) node lease now g,
    e.key = k → w.store.claim e node lease now g = (.alreadyProcessed, w.store, g)
  applies : ∀ i c r t now (v : α), w.copies[i]? = some c → c.stage = .running r t →
    (w.step i now (.ok v)).copies[i]? = some { c with stage := .over (.ok (.applied v)) now }
  fails : ∀ i c r t now m, w.copies[i]? = some c → c.stage = .running r t →
    (w.step i now (.error m)).copies[i]? =
        some { c with stage := .over (.error (.effectFailed k.1 k.2 m)) now } ∧
      ∃ r', (w.step i now (.error m)).store.find k = some r' ∧ r'.status = .unprocessed ∧
        r'.inFlight = false ∧
        ∀ (e : ServiceEvent) node lease now' g, e.key = k →
          ∃ r'' s g', (w.step i now (.error m)).store.claim e node lease now' g = (.claimed r'', s, g')

/-- Deliveries of one event identity on any nodes, interleaved in any order at any clock
readings and with any effect results, record the event once as long as no claim is held past
the lease. -/
theorem records_once {w₀ w : Fleet α} {k : EventKey} (h₀ : w₀.Start k) (hr : Reach w₀ w) :
    w.Once w₀ k := by
  have hi := hr.inv h₀
  refine ⟨?_, ?_, hi.ended, hi.heard, ?_, ?_, ?_, ?_⟩
  · intro i j ci cj hci hcj ha hb
    exact hi.sole i j ci cj hci hcj (Delivery.owns_of_isApplied ha) (Delivery.owns_of_isApplied hb)
  · intro i j ci cj r t hci hr hcj ho
    exact hi.sole j i cj ci hcj hci ho (by simp [hr, Delivery.owns])
  · intro n
    refine countP_le_one fun i j ci cj hci hcj ha hb => ?_
    simp only [Bool.and_eq_true] at ha hb
    exact hi.sole i j ci cj hci hcj (Delivery.owns_of_isApplied ha.2)
      (Delivery.owns_of_isApplied hb.2)
  · intro c hc ha e node lease now g he
    obtain ⟨r, hf, hp⟩ := hi.done c hc ha
    rw [← he] at hf
    exact EventStore.claim_of_done (.inr ⟨r, hf, hp⟩)
  · intro i c r t now v hc hs
    obtain ⟨-, hf, hu, -⟩ := hi.held c (List.mem_of_getElem? hc) r t hs
    obtain ⟨r', s, hm, -⟩ := EventStore.markProcessed_held hi.indexed hf hu
    rw [step_applied hc hs hm]
    exact List.getElem?_set_self (List.getElem?_eq_some_iff.mp hc).1
  · intro i c r t now m hc hs
    have hkc : c.event.key = k := hi.keys c (List.mem_of_getElem? hc)
    obtain ⟨htb, hf, hu, -⟩ := hi.held c (List.mem_of_getElem? hc) r t hs
    obtain ⟨hrel, hf', -, hcl⟩ := EventStore.release_held hi.indexed htb hf hu
    rw [step_failed hc hs hrel]
    refine ⟨?_, _, hf', hu, rfl, fun e node lease now' g he => ?_⟩
    · rw [List.getElem?_set_self (List.getElem?_eq_some_iff.mp hc).1, ← hkc]
      rfl
    · rcases EventStore.claim_cases _ e node lease now' g with ⟨-, h⟩ | ⟨hn, -⟩
      · exact h
      · rw [he, hcl lease now'] at hn
        cases hn

/-- Two nodes of one lease, each with a listener, and a delivery of one event on each, against
an empty store. -/
def twoNodes : Fleet Nat where
  store := {}
  ids := ⟨0⟩
  recorders := [⟨"node-a", 30000, [⟨"audit", .log, []⟩]⟩, ⟨"node-b", 30000, [⟨"audit", .log, []⟩]⟩]
  copies := [0, 1].map fun n =>
    ⟨n, ⟨"evt-1", "billing", "1", "device", "gw-1", .updated, none⟩, .claiming 0⟩

theorem records_once_after_first_claim :
    twoNodes.Start ("evt-1", "billing") ∧
      (twoNodes.step 0 0 (.ok 7)).Once twoNodes ("evt-1", "billing") := by
  have h₀ : twoNodes.Start ("evt-1", "billing") :=
    ⟨by simp [twoNodes, ServiceEvent.key], by simp [twoNodes],
      fun r hr => by simp [twoNodes, EventStore.find] at hr⟩
  have ht : twoNodes.Timely 0 0 := by simp [Timely, twoNodes]
  exact ⟨h₀, records_once h₀ (.step _ .refl ht)⟩

end Fleet

end DeviceFleet.Events
