import DeviceFleet.Proofs.Correlator.Steps

/-!
# Each pending call is settled once, for its own waiter

Over every interleaving of registrations, replies, cancels, sweeps and waits from an empty
correlator, every call is taken out at most once and its waiter receives what it is owed; the
invariant behind it is `Inv`.
-/

namespace DeviceFleet.Command

open Conversion

/-- What a slot says of the call taken out for it: a received result is what its waiter is
owed, a dropped slot is owed a time-out, a slot waited on says nothing more, and an empty
slot is never the slot of a call taken out. -/
def Slot.Owes : Slot → CallResult → Prop
  | .sent r, o => r = o
  | .dropped, o => o = .timedOut
  | .taken, _ => True
  | .awaiting, _ => False

namespace Correlator

/-- The correlators reached from an empty one, with the calls taken out so far, in order. -/
inductive Reach : Correlator → List Removal → Prop where
  | init : Reach {} []
  | step {c : Correlator} {R : List Removal} (a : Action) :
      Reach c R → Reach (c.perform a) (R ++ c.removals a)

/-- The invariant of a reachable correlator `c` whose run took out the calls `R`. -/
structure Inv (c : Correlator) (R : List Removal) : Prop where
  pending_slot : ∀ p ∈ c.pending, c.slots[p.handle]? = some (⟨p.id, p.deadline⟩, .awaiting)
  ids_nodup : (c.pending.map (·.id)).Nodup
  handles_nodup : (c.pending.map (·.handle)).Nodup
  removed_nodup : (R.map (·.call.handle)).Nodup
  removed_not_pending : ∀ x ∈ R, ∀ p ∈ c.pending, x.call.handle ≠ p.handle
  slot_call : ∀ h < c.slots.length,
    (∃ p ∈ c.pending, p.handle = h) ∨ ∃ x ∈ R, x.call.handle = h
  removed_slot : ∀ x ∈ R, ∃ k s, c.slots[x.call.handle]? = some (k, s) ∧ s.Owes x.owed
  acts : ∀ x ∈ R, x.cause.ActsFor x.call

variable {c : Correlator} {R : List Removal}

namespace Inv

theorem handle_lt (hi : Inv c R) {p : PendingCall} (hp : p ∈ c.pending) :
    p.handle < c.slots.length :=
  (List.getElem?_eq_some_iff.mp (hi.pending_slot p hp)).1

theorem removed_lt (hi : Inv c R) {x : Removal} (hx : x ∈ R) :
    x.call.handle < c.slots.length := by
  obtain ⟨k, s, hs, -⟩ := hi.removed_slot x hx
  exact (List.getElem?_eq_some_iff.mp hs).1

theorem eq_of_id_eq (hi : Inv c R) {p q : PendingCall} (hp : p ∈ c.pending)
    (hq : q ∈ c.pending) (h : p.id = q.id) : p = q :=
  List.inj_on_of_nodup_map hi.ids_nodup hp hq h

theorem eq_of_handle_eq (hi : Inv c R) {p q : PendingCall} (hp : p ∈ c.pending)
    (hq : q ∈ c.pending) (h : p.handle = q.handle) : p = q :=
  List.inj_on_of_nodup_map hi.handles_nodup hp hq h

theorem pending_of_awaiting (hi : Inv c R) {h : Nat} {k : Handle}
    (hs : c.slots[h]? = some (k, .awaiting)) :
    ∃ p ∈ c.pending, p.handle = h ∧ p.id = k.id := by
  have hlt : h < c.slots.length := (List.getElem?_eq_some_iff.mp hs).1
  rcases hi.slot_call h hlt with ⟨p, hp, rfl⟩ | ⟨x, hx, rfl⟩
  · rw [hi.pending_slot p hp] at hs
    simp only [Option.some.injEq, Prod.mk.injEq] at hs
    exact ⟨p, hp, rfl, by rw [← hs.1]⟩
  · obtain ⟨k', s, hs', hown⟩ := hi.removed_slot x hx
    rw [hs] at hs'
    simp only [Option.some.injEq, Prod.mk.injEq] at hs'
    rw [← hs'.2] at hown
    exact hown.elim

theorem removed_of_slot (hi : Inv c R) {h : Nat} {k : Handle} {s : Slot}
    (hs : c.slots[h]? = some (k, s)) (hne : s ≠ .awaiting) :
    ∃ x ∈ R, x.call.handle = h ∧ s.Owes x.owed := by
  have hlt : h < c.slots.length := (List.getElem?_eq_some_iff.mp hs).1
  rcases hi.slot_call h hlt with ⟨p, hp, rfl⟩ | ⟨x, hx, rfl⟩
  · rw [hi.pending_slot p hp] at hs
    simp only [Option.some.injEq, Prod.mk.injEq] at hs
    exact absurd hs.2.symm hne
  · obtain ⟨k', s', hs', hown⟩ := hi.removed_slot x hx
    rw [hs] at hs'
    simp only [Option.some.injEq, Prod.mk.injEq] at hs'
    exact ⟨x, hx, rfl, hs'.2 ▸ hown⟩

end Inv

theorem inv_init : Inv {} [] where
  pending_slot := by simp
  ids_nodup := by simp
  handles_nodup := by simp
  removed_nodup := by simp
  removed_not_pending := by simp
  slot_call := by simp
  removed_slot := by simp
  acts := by simp

theorem inv_of_perform_eq_self (hi : Inv c R) {a : Action} (h : c.perform a = c) :
    Inv (c.perform a) (R ++ c.removals a) := by
  rw [removals_of_perform_eq_self h, List.append_nil, h]
  exact hi

theorem inv_register (hi : Inv c R) {id : CorrelationId} {app : String} {timeout : Nat}
    {now : Int} (hnp : c.isPending id = false) :
    Inv { pending := c.pending ++ [⟨id, app, now + timeout, c.slots.length⟩],
          slots := c.slots ++ [(⟨id, now + timeout⟩, .awaiting)] } R where
  pending_slot := by
    intro p hp
    rcases List.mem_append.mp hp with hp | hp
    · rw [List.getElem?_append_left (hi.handle_lt hp)]
      exact hi.pending_slot p hp
    · rw [List.mem_singleton] at hp
      subst hp
      simp
  ids_nodup := by
    rw [List.map_append, List.nodup_append]
    refine ⟨hi.ids_nodup, by simp, ?_⟩
    intro u hu v hv
    obtain ⟨p, hp, rfl⟩ := List.mem_map.mp hu
    simp only [List.map_cons, List.map_nil, List.mem_singleton] at hv
    subst hv
    exact isPending_eq_false.mp hnp p hp
  handles_nodup := by
    rw [List.map_append, List.nodup_append]
    refine ⟨hi.handles_nodup, by simp, ?_⟩
    intro u hu v hv
    obtain ⟨p, hp, rfl⟩ := List.mem_map.mp hu
    simp only [List.map_cons, List.map_nil, List.mem_singleton] at hv
    subst hv
    exact Nat.ne_of_lt (hi.handle_lt hp)
  removed_nodup := hi.removed_nodup
  removed_not_pending := by
    intro x hx p hp
    rcases List.mem_append.mp hp with hp | hp
    · exact hi.removed_not_pending x hx p hp
    · rw [List.mem_singleton] at hp
      subst hp
      exact Nat.ne_of_lt (hi.removed_lt hx)
  slot_call := by
    intro h hh
    rw [List.length_append, List.length_singleton] at hh
    by_cases hlt : h < c.slots.length
    · rcases hi.slot_call h hlt with ⟨p, hp, hph⟩ | hx
      · exact .inl ⟨p, List.mem_append_left _ hp, hph⟩
      · exact .inr hx
    · have hh : h = c.slots.length := by omega
      exact .inl ⟨_, List.mem_append_right _ (List.mem_singleton_self _), hh.symm⟩
  removed_slot := by
    intro x hx
    obtain ⟨k, s, hs, hown⟩ := hi.removed_slot x hx
    refine ⟨k, s, ?_, hown⟩
    rw [List.getElem?_append_left (hi.removed_lt hx)]
    exact hs
  acts := hi.acts

/-- A step that takes out the pending call `p`, with every call of `p`'s identifier, and
fills `p`'s slot with what `p`'s waiter is owed, keeps the invariant. Replies, cancels and a
waiter's deadline are such steps. -/
theorem inv_take_fill (hi : Inv c R) {a : Action} {p : PendingCall} {s : Slot}
    (hp : p ∈ c.pending) (hown : s.Owes (⟨p, a⟩ : Removal).owed) (hact : a.ActsFor p)
    (he : c.perform a =
      { c with pending := c.pending.filter (·.id != p.id) }.fill p.handle s) :
    Inv (c.perform a) (R ++ c.removals a) := by
  have hrem : c.removals a = [⟨p, a⟩] :=
    removals_of_take hi.ids_nodup hp (by rw [he]; rfl)
  have hkeep : ∀ q ∈ c.pending.filter (·.id != p.id), q ∈ c.pending ∧ q.handle ≠ p.handle := by
    intro q hq
    rw [List.mem_filter, bne_iff_ne, ne_eq] at hq
    exact ⟨hq.1, fun hh => hq.2 (congrArg PendingCall.id (hi.eq_of_handle_eq hq.1 hp hh))⟩
  rw [hrem, he]
  constructor
  · intro q hq
    obtain ⟨hq, hne⟩ := hkeep q hq
    rw [getElem?_fill_of_ne _ (Ne.symm hne)]
    exact hi.pending_slot q hq
  · exact hi.ids_nodup.sublist (List.filter_sublist.map _)
  · exact hi.handles_nodup.sublist (List.filter_sublist.map _)
  · rw [List.map_append, List.nodup_append]
    refine ⟨hi.removed_nodup, by simp, ?_⟩
    intro u hu v hv
    obtain ⟨x, hx, rfl⟩ := List.mem_map.mp hu
    simp only [List.map_cons, List.map_nil, List.mem_singleton] at hv
    subst hv
    exact hi.removed_not_pending x hx p hp
  · intro x hx q hq
    obtain ⟨hq, hne⟩ := hkeep q hq
    rcases List.mem_append.mp hx with hx | hx
    · exact hi.removed_not_pending x hx q hq
    · rw [List.mem_singleton] at hx
      subst hx
      exact Ne.symm hne
  · intro h hh
    rw [length_fill] at hh
    rcases hi.slot_call h hh with ⟨q, hq, rfl⟩ | ⟨x, hx, rfl⟩
    · by_cases hid : q.id = p.id
      · obtain rfl := hi.eq_of_id_eq hq hp hid
        exact .inr ⟨⟨q, a⟩, List.mem_append_right _ (List.mem_singleton_self _), rfl⟩
      · exact .inl ⟨q, List.mem_filter.mpr ⟨hq, by simpa using hid⟩, rfl⟩
    · exact .inr ⟨x, List.mem_append_left _ hx, rfl⟩
  · intro x hx
    rcases List.mem_append.mp hx with hx | hx
    · obtain ⟨k, s', hs, hown'⟩ := hi.removed_slot x hx
      refine ⟨k, s', ?_, hown'⟩
      rw [getElem?_fill_of_ne _ (hi.removed_not_pending x hx p hp).symm]
      exact hs
    · rw [List.mem_singleton] at hx
      subst hx
      exact ⟨_, s, getElem?_fill_self _ _ (hi.pending_slot p hp), hown⟩
  · intro x hx
    rcases List.mem_append.mp hx with hx | hx
    · exact hi.acts x hx
    · rw [List.mem_singleton] at hx
      subst hx
      exact hact

/-- A waiter taking the result or the dropped slot of its call, taken out earlier, keeps the
invariant. -/
theorem inv_fill_taken (hi : Inv c R) {h : Nat} {k : Handle} {s : Slot}
    (hs : c.slots[h]? = some (k, s)) (hne : s ≠ .awaiting) : Inv (c.fill h .taken) R where
  pending_slot := by
    intro p hp
    have hph : h ≠ p.handle := by
      rintro rfl
      rw [hi.pending_slot p hp] at hs
      simp only [Option.some.injEq, Prod.mk.injEq] at hs
      exact hne hs.2.symm
    rw [getElem?_fill_of_ne _ hph]
    exact hi.pending_slot p hp
  ids_nodup := hi.ids_nodup
  handles_nodup := hi.handles_nodup
  removed_nodup := hi.removed_nodup
  removed_not_pending := hi.removed_not_pending
  slot_call := by
    intro h' hh
    rw [length_fill] at hh
    exact hi.slot_call h' hh
  removed_slot := by
    intro x hx
    obtain ⟨k', s', hs', hown⟩ := hi.removed_slot x hx
    by_cases hxh : h = x.call.handle
    · subst hxh
      exact ⟨k', .taken, getElem?_fill_self _ _ hs', trivial⟩
    · refine ⟨k', s', ?_, hown⟩
      rw [getElem?_fill_of_ne _ hxh]
      exact hs'
  acts := hi.acts

theorem inv_expire (hi : Inv c R) (now : Int) :
    Inv (c.perform (.expire now)) (R ++ c.removals (.expire now)) := by
  have hpend := perform_expire_pending (c := c) now
  have hown : ∀ p ∈ c.pending, p.deadline ≤ now → ∀ q ∈ c.pending, ¬ q.deadline ≤ now →
      p.handle ≠ q.handle := by
    intro p hp hdl q hq hnot hh
    obtain rfl := hi.eq_of_handle_eq hp hq hh
    exact hnot hdl
  rw [removals_expire]
  constructor
  · intro q hq
    obtain ⟨hq, hnot⟩ := mem_expire_pending.mp hq
    rw [perform_expire_slots, if_neg]
    · exact hi.pending_slot q hq
    · rintro ⟨p, hp, hdl, hph⟩
      exact hown p hp hdl q hq hnot hph
  · rw [hpend]
    exact hi.ids_nodup.sublist (List.filter_sublist.map _)
  · rw [hpend]
    exact hi.handles_nodup.sublist (List.filter_sublist.map _)
  · rw [List.map_append, List.nodup_append, List.map_map]
    refine ⟨hi.removed_nodup, hi.handles_nodup.sublist (List.filter_sublist.map _), ?_⟩
    intro u hu v hv
    obtain ⟨x, hx, rfl⟩ := List.mem_map.mp hu
    obtain ⟨p, hp, rfl⟩ := List.mem_map.mp hv
    exact hi.removed_not_pending x hx p (List.mem_filter.mp hp).1
  · intro x hx q hq
    obtain ⟨hq, hnot⟩ := mem_expire_pending.mp hq
    rcases List.mem_append.mp hx with hx | hx
    · exact hi.removed_not_pending x hx q hq
    · obtain ⟨p, hp, rfl⟩ := List.mem_map.mp hx
      rw [List.mem_filter] at hp
      exact hown p hp.1 (by simpa using hp.2) q hq hnot
  · intro h hh
    rw [length_perform_expire] at hh
    rcases hi.slot_call h hh with ⟨q, hq, rfl⟩ | ⟨x, hx, rfl⟩
    · by_cases hdl : q.deadline ≤ now
      · refine .inr ⟨⟨q, .expire now⟩, List.mem_append_right _ ?_, rfl⟩
        exact List.mem_map.mpr ⟨q, List.mem_filter.mpr ⟨hq, by simpa using hdl⟩, rfl⟩
      · exact .inl ⟨q, mem_expire_pending.mpr ⟨hq, hdl⟩, rfl⟩
    · exact .inr ⟨x, List.mem_append_left _ hx, rfl⟩
  · intro x hx
    rcases List.mem_append.mp hx with hx | hx
    · obtain ⟨k, s, hs, hown'⟩ := hi.removed_slot x hx
      refine ⟨k, s, ?_, hown'⟩
      rw [perform_expire_slots, if_neg]
      · exact hs
      · rintro ⟨p, hp, -, hph⟩
        exact hi.removed_not_pending x hx p hp hph.symm
    · obtain ⟨p, hp, rfl⟩ := List.mem_map.mp hx
      rw [List.mem_filter] at hp
      refine ⟨⟨p.id, p.deadline⟩, .sent .timedOut, ?_, rfl⟩
      rw [perform_expire_slots, if_pos ⟨p, hp.1, by simpa using hp.2, rfl⟩,
        hi.pending_slot p hp.1]
      rfl
  · intro x hx
    rcases List.mem_append.mp hx with hx | hx
    · exact hi.acts x hx
    · obtain ⟨p, hp, rfl⟩ := List.mem_map.mp hx
      show p.deadline ≤ now
      simpa using (List.mem_filter.mp hp).2

theorem inv_step (hi : Inv c R) (a : Action) : Inv (c.perform a) (R ++ c.removals a) := by
  cases a with
  | register id app timeout now =>
    cases hp : c.isPending id with
    | true => exact inv_of_perform_eq_self hi (perform_register_of_pending hp)
    | false =>
      have he := @perform_register_of_not_pending c id app timeout now hp
      have hkeep : ∀ p ∈ c.pending, p ∈ (c.perform (.register id app timeout now)).pending := by
        intro p hp
        rw [he]
        exact List.mem_append_left _ hp
      rw [removals_of_pending_subset hkeep, List.append_nil, he]
      exact inv_register hi hp
  | resolve stampMs e =>
    rcases perform_resolve_cases (c := c) stampMs e with he | ⟨p, hp, hid, he⟩
    · exact inv_of_perform_eq_self hi he
    · exact inv_take_fill hi hp (by exact rfl) hid he
  | cancel id =>
    rcases perform_cancel_cases (c := c) id with he | ⟨p, hp, hid, he⟩
    · exact inv_of_perform_eq_self hi he
    · exact inv_take_fill hi hp (by exact rfl) hid he
  | expire now => exact inv_expire hi now
  | wait h now =>
    rcases perform_wait_cases (c := c) h now with
      he | ⟨k, s, hs, hne, -, he⟩ | ⟨k, hs, hnp, -⟩ | ⟨k, hs, -, -, -, he⟩
    · exact inv_of_perform_eq_self hi he
    · have hkeep : ∀ p ∈ c.pending, p ∈ (c.perform (.wait h now)).pending := by
        intro p hp
        rw [he]
        exact hp
      rw [removals_of_pending_subset hkeep, List.append_nil, he]
      exact inv_fill_taken hi hs hne
    · obtain ⟨p, hp, -, hid⟩ := hi.pending_of_awaiting hs
      exact absurd hid (isPending_eq_false.mp hnp p hp)
    · obtain ⟨q, hq, hqh, hqid⟩ := hi.pending_of_awaiting hs
      have he' : c.perform (.wait h now) =
          { c with pending := c.pending.filter (·.id != q.id) }.fill q.handle .taken := by
        rw [he, hqid, hqh]
      exact inv_take_fill hi hq (by exact trivial) hqh.symm he'

theorem Reach.inv (h : Reach c R) : Inv c R := by
  induction h with
  | init => exact inv_init
  | step a _ ih => exact inv_step ih a

/-! ### What a reachable correlator promises -/

theorem resolve_delivered_iff (stampMs : Int) (e : Envelope) :
    (∃ id, (c.resolve stampMs e).1 = .delivered id) ↔ c.removals (.resolve stampMs e) ≠ [] := by
  rw [resolve_fst_eq, removals_resolve]
  cases he : convertCorrelation e with
  | error err => simp
  | ok id =>
    by_cases hp : c.isPending id = true
    · obtain ⟨p, hp', hid⟩ := isPending_eq_true.mp hp
      have hmem : p ∈ c.pending.filter (·.id == id) :=
        List.mem_filter.mpr ⟨hp', by simp [hid]⟩
      simp only [if_pos hp, ResolveOutcome.delivered.injEq, exists_eq', true_iff, ne_eq,
        List.map_eq_nil_iff]
      exact List.ne_nil_of_mem hmem
    · have hnone : c.pending.filter (·.id == id) = [] := by
        rw [List.filter_eq_nil_iff]
        intro p hp' hid
        exact hp (isPending_eq_true.mpr ⟨p, hp', by simpa using hid⟩)
      simp [if_neg hp, hnone]

theorem resolve_unmatched_iff (stampMs : Int) (e : Envelope) (id : CorrelationId) :
    (c.resolve stampMs e).1 = .unmatched id ↔
      convertCorrelation e = .ok id ∧ c.isPending id = false := by
  rw [resolve_fst_eq]
  cases he : convertCorrelation e with
  | error err => simp
  | ok id' =>
    by_cases hp : c.isPending id' = true
    · have hne : ¬ (id' = id ∧ c.isPending id = false) := by
        rintro ⟨rfl, hf⟩
        rw [hp] at hf
        cases hf
      simp [if_pos hp, hne]
    · simp only [if_neg hp, ResolveOutcome.unmatched.injEq, Except.ok.injEq]
      constructor
      · rintro rfl
        exact ⟨rfl, by simpa using hp⟩
      · rintro ⟨rfl, -⟩
        rfl

theorem Inv.register_fresh (hi : Inv c R) {id : CorrelationId} {app : String} {timeout : Nat}
    {now : Int} {h : Nat} {c' : Correlator} (hr : c.register id app timeout now = .ok (h, c')) :
    (∀ p ∈ c.pending, p.handle ≠ h) ∧ ∀ x ∈ R, x.call.handle ≠ h := by
  obtain ⟨-, rfl⟩ := register_eq_ok hr
  exact ⟨fun p hp => Nat.ne_of_lt (hi.handle_lt hp), fun x hx => Nat.ne_of_lt (hi.removed_lt hx)⟩

theorem Inv.wait_receives_owed (hi : Inv c R) {handle : Nat} {now : Int} {r : CallResult}
    {t : Int} {c' : Correlator} (hw : c.wait handle now = some (r, t, c')) :
    ∃ x ∈ R ++ c.removals (.wait handle now), x.call.handle = handle ∧ r = x.owed := by
  rcases wait_eq_some_cases hw with ⟨k, hs⟩ | ⟨k, hs, rfl⟩ | ⟨k, hs, rfl⟩
  · obtain ⟨x, hx, hxh, hown⟩ := hi.removed_of_slot hs (by simp)
    exact ⟨x, List.mem_append_left _ hx, hxh, hown⟩
  · obtain ⟨x, hx, hxh, hown⟩ := hi.removed_of_slot hs (by simp)
    exact ⟨x, List.mem_append_left _ hx, hxh, (show x.owed = .timedOut from hown).symm⟩
  · obtain ⟨p, hp, hph, hid⟩ := hi.pending_of_awaiting hs
    have hrem : c.removals (.wait handle now) = [⟨p, .wait handle now⟩] := by
      apply removals_of_take hi.ids_nodup hp
      rw [perform_wait_of_awaiting hs hp hid, hid]
      rfl
    exact ⟨⟨p, .wait handle now⟩, by simp [hrem], hph, rfl⟩

/-- What a correlator promises after a run that took out the calls `R`:

* `at_most_once`: no registration's call was taken out twice;
* `acts_for`: each was taken out by a step acting for it;
* `fresh_handle`: a registration that succeeds gets a handle no call ever had, so handles
  name registrations;
* `refused_iff_pending`: a registration is refused exactly when its identifier is pending;
* `delivered_iff`: a reply is delivered exactly when it takes a call out;
* `unmatched_iff`: a reply is unmatched exactly when it is correlated and its identifier
  has no pending call;
* `wait_owed`: a waiter receives what its own call is owed, by the one step, earlier or
  the wait itself, that took the call out. -/
structure Settles (c : Correlator) (R : List Removal) : Prop where
  at_most_once : (R.map (·.call.handle)).Nodup
  acts_for : ∀ x ∈ R, x.cause.ActsFor x.call
  fresh_handle : ∀ id app timeout now h c', c.register id app timeout now = .ok (h, c') →
    (∀ p ∈ c.pending, p.handle ≠ h) ∧ ∀ x ∈ R, x.call.handle ≠ h
  refused_iff_pending : ∀ id app timeout now,
    (∃ err, c.register id app timeout now = .error err) ↔ c.isPending id = true
  delivered_iff : ∀ stampMs e,
    (∃ id, (c.resolve stampMs e).1 = .delivered id) ↔ c.removals (.resolve stampMs e) ≠ []
  unmatched_iff : ∀ stampMs e id,
    (c.resolve stampMs e).1 = .unmatched id ↔
      convertCorrelation e = .ok id ∧ c.isPending id = false
  wait_owed : ∀ handle now r t c', c.wait handle now = some (r, t, c') →
    (∃ x ∈ R ++ c.removals (.wait handle now), x.call.handle = handle) ∧
      ∀ x ∈ R ++ c.removals (.wait handle now), x.call.handle = handle → r = x.owed

/-- Pending-call resolution is at most once and reaches the right waiter, over every
interleaving of steps from an empty correlator. -/
theorem pending_call_settled_once (hr : Reach c R) : Settles c R := by
  have hi := hr.inv
  refine ⟨hi.removed_nodup, hi.acts, fun _ _ _ _ _ _ h => hi.register_fresh h,
    fun _ _ _ _ => register_eq_error_iff, resolve_delivered_iff, resolve_unmatched_iff, ?_⟩
  intro handle now r t c' hw
  obtain ⟨x, hx, hxh, hxr⟩ := hi.wait_receives_owed hw
  have hnext := (Reach.step (.wait handle now) hr).inv.removed_nodup
  refine ⟨⟨x, hx, hxh⟩, fun y hy hyh => ?_⟩
  have hxy : x = y := List.inj_on_of_nodup_map hnext hx hy (hxh.trans hyh.symm)
  rw [← hxy]
  exact hxr

/-- A call registered, answered by its device and then waited on: the run reaches a correlator
whose one call taken out is the reply's, and the promises hold there. -/
theorem pending_call_settled_once_after_reply :
    let call : CorrelationId := ⟨"1", "gw", ⟨1, 2⟩⟩
    let channel : Channel :=
      { messageClass := 3, tenantId := "1", clientId := "gw", appName := "gauge",
        requestId := (⟨1, 2⟩ : Uuid).text }
    let reply : Envelope := { channel := some channel }
    let c₀ : Correlator := {}
    let c₁ := c₀.perform (.register call "gauge" 30000 0)
    let c₂ := c₁.perform (.resolve 5 reply)
    let R := [] ++ c₀.removals (.register call "gauge" 30000 0) ++ c₁.removals (.resolve 5 reply) ++
      c₂.removals (.wait 0 6)
    Reach (c₂.perform (.wait 0 6)) R ∧ Settles (c₂.perform (.wait 0 6)) R ∧
      R.map (·.call.handle) = [0] := by
  intro call channel reply c₀ c₁ c₂ R
  have hr : Reach (c₂.perform (.wait 0 6)) R := .step _ (.step _ (.step _ .init))
  exact ⟨hr, pending_call_settled_once hr, by decide⟩

end Correlator

end DeviceFleet.Command
