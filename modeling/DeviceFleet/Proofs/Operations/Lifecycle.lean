import DeviceFleet.Proofs.Dispatch.Spent

/-!
# The life of a stored operation under racing changes

Whatever order racing changes take their steps in, a write that lands is a change applied to
the stored operation, so the operation only moves forward (`Operation.Follows`).
-/

namespace DeviceFleet.Command

/-- The moves of a stored operation's status: a running operation is marked notified, and an
open one is finished. -/
inductive OperationStatus.Moves : OperationStatus → OperationStatus → Prop
  | notify : Moves .running .notified
  | finish {a b : OperationStatus} : a.isFinal = false → b.isFinal = true → Moves a b

namespace OperationStatus

theorem Moves.trans {a b c : OperationStatus} (h₁ : Moves a b) (h₂ : Moves b c) : Moves a c := by
  cases h₂ with
  | notify =>
    cases h₁ with
    | finish _ hb => cases hb
  | finish hb hc =>
    cases h₁ with
    | notify => exact .finish rfl hc
    | finish ha _ => exact .finish ha hc

end OperationStatus

namespace Operation

def Ends (op : Operation) : Prop :=
  op.endedOn.isSome = op.status.isFinal

theorem ends_start (cid : CorrelationId) (r : CanonicalRequest) (now : Int) :
    (start cid r now).Ends :=
  rfl

/-- What a later state of a stored operation keeps of an earlier one: its status moved forward
or stayed, a final one kept its status, message and end, and a published one stayed
published. -/
structure Follows (op op' : Operation) : Prop where
  status : op'.status = op.status ∨ op.status.Moves op'.status
  final : op.status.isFinal = true →
    op'.status = op.status ∧ op'.message = op.message ∧ op'.endedOn = op.endedOn
  published : op.published = true → op'.published = true

theorem Follows.refl (op : Operation) : Follows op op :=
  ⟨.inl rfl, fun _ => ⟨rfl, rfl, rfl⟩, id⟩

theorem Follows.trans {op op' op'' : Operation} (h₁ : Follows op op') (h₂ : Follows op' op'') :
    Follows op op'' where
  status := by
    rcases h₁.status with h | h <;> rcases h₂.status with h' | h'
    · exact .inl (h'.trans h)
    · exact .inr (h ▸ h')
    · exact .inr (h' ▸ h)
    · exact .inr (h.trans h')
  final hf := by
    obtain ⟨hs, hm, he⟩ := h₁.final hf
    obtain ⟨hs', hm', he'⟩ := h₂.final (hs ▸ hf)
    exact ⟨hs'.trans hs, hm'.trans hm, he'.trans he⟩
  published hp := h₂.published (h₁.published hp)

theorem Follows.with_version {op op' : Operation} (h : Follows op op') (v : Nat) :
    Follows op { op' with version := v } :=
  ⟨h.status, h.final, h.published⟩

end Operation

namespace Change

variable {c : Change} {t : Int} {op op' : Operation}

theorem keeps (c : Change) (t : Int) : Operation.Keeps (c.apply t) := by
  cases c with
  | finish s m => exact Operation.keeps_finish s m t
  | notifyTimeout msg => exact Operation.keeps_notifyTimeout msg
  | markPublished => exact Engine.Cluster.keeps_markPublished

/-- A change that changed something moved the operation forward and kept its end stamped
exactly when final. -/
theorem follows_ends (h : c.apply t op = (true, op')) : op.Follows op' ∧ (op.Ends → op'.Ends) := by
  cases c with
  | finish s m =>
    simp only [apply, Operation.finish] at h
    split at h
    · cases h
    · rename_i hcond
      cases h
      have ho : op.status.isFinal = false ∧ s.isFinal = true := by simpa using hcond
      refine ⟨⟨.inr (.finish ho.1 ho.2), fun hf => ?_, id⟩, fun _ => ?_⟩
      · rw [ho.1] at hf
        cases hf
      · show (some t).isSome = s.isFinal
        rw [ho.2]
        rfl
  | notifyTimeout msg =>
    simp only [apply, Operation.notifyTimeout] at h
    split at h
    · rename_i hr
      cases h
      refine ⟨⟨.inr (hr ▸ .notify), fun hf => ?_, id⟩, fun he => ?_⟩
      · rw [hr] at hf
        cases hf
      · show op.endedOn.isSome = OperationStatus.notified.isFinal
        rw [Operation.Ends, hr] at he
        exact he
    · cases h
  | markPublished =>
    simp only [apply, Operation.markPublished] at h
    split at h
    · cases h
    · cases h
      exact ⟨⟨.inl rfl, fun _ => ⟨rfl, rfl, rfl⟩, fun _ => rfl⟩, id⟩

end Change

namespace OperationStore

variable {s s' : OperationStore} {op cur : Operation}

theorem find_create {op : Operation} (h : s.create op = .ok s') :
    s'.find op.operationId = some op := by
  unfold create at h
  split at h
  · cases h
  · rename_i hnone
    cases h
    have hs : s.find op.operationId = none := by simpa using hnone
    unfold find at hs ⊢
    simp [List.find?_append, hs]

theorem update_of_find (hf : s.find op.operationId = some cur) (hv : cur.version = op.version) :
    s.update op = .ok { operations := s.operations.map fun x =>
      if x.operationId == op.operationId then { op with version := op.version + 1 } else x } := by
  simp [update, hf, hv]

theorem update_of_stale (hf : s.find op.operationId = some cur) (hv : cur.version ≠ op.version) :
    s.update op =
      .error (.conflict "operation" op.operationId.text op.version cur.version) := by
  simp [update, hf, hv]

theorem update_ok_cases (h : s.update op = .ok s') :
    ∃ cur, s.find op.operationId = some cur ∧ cur.version = op.version ∧
      ∀ u, s'.find u =
        if u = op.operationId then some { op with version := op.version + 1 } else s.find u := by
  cases hf : s.find op.operationId with
  | none => simp [update, hf] at h
  | some cur =>
    by_cases hv : cur.version = op.version
    · rw [update_of_find hf hv] at h
      cases h
      refine ⟨cur, rfl, hv, fun u => ?_⟩
      rw [find_replace s (v := op.operationId) (o := { op with version := op.version + 1 }) rfl u,
        hf]
      rfl
    · rw [update_of_stale hf hv] at h
      cases h

theorem update_ne (h : s.update op = .ok s') : s' ≠ s := by
  obtain ⟨cur, hf, hv, hfind⟩ := update_ok_cases h
  intro heq
  have h' := hfind op.operationId
  rw [heq, if_pos rfl, hf] at h'
  have hv' : cur.version = op.version + 1 := congrArg Operation.version (Option.some.inj h')
  omega

def Rewrites (s s' : OperationStore) : Prop :=
  ∃ v cur op, ∃ c : Change, ∃ t, s.find v = some cur ∧ c.apply t cur = (true, op) ∧
    ∀ u, s'.find u = if u = v then some { op with version := cur.version + 1 } else s.find u

theorem Rewrites.find (h : Rewrites s s') {u : Uuid} (hf : s.find u = some op) :
    ∃ op', s'.find u = some op' ∧ op.Follows op' ∧ (op.Ends → op'.Ends) ∧
      op.version ≤ op'.version ∧ (op'.version = op.version → op' = op) := by
  obtain ⟨v, cur, op', c, t, hcur, happ, hfind⟩ := h
  rw [hfind u]
  by_cases hu : u = v
  · subst hu
    rw [hcur] at hf
    cases hf
    obtain ⟨hfo, hen⟩ := Change.follows_ends happ
    refine ⟨_, if_pos rfl, hfo.with_version _, hen, Nat.le_succ _, fun hv => ?_⟩
    exact absurd hv (Nat.succ_ne_self _)
  · rw [if_neg hu]
    exact ⟨op, hf, .refl op, id, Nat.le_refl _, fun _ => rfl⟩

end OperationStore

namespace Modification

def Holds (s : OperationStore) (m : Modification) : Prop :=
  ∀ left op', m.attempt = .writing left op' →
    ∃ op t, m.change.apply t op = (true, op') ∧ op.operationId = m.id ∧
      ∀ cur, s.find m.id = some cur → op.version ≤ cur.version ∧ (cur.version = op.version → cur = op)

variable {s s' : OperationStore} {m : Modification}

theorem Holds.rewrites (hm : m.Holds s) (h : OperationStore.Rewrites s s') : m.Holds s' := by
  intro left op' ha
  obtain ⟨op, t, happ, hid, hcur⟩ := hm left op' ha
  refine ⟨op, t, happ, hid, fun cur' hf' => ?_⟩
  cases hf : s.find m.id with
  | none =>
    obtain ⟨v, c, o, ch, t', hc, -, hfind⟩ := h
    rw [hfind, hf] at hf'
    split at hf'
    · rename_i hv
      rw [← hv, hf] at hc
      cases hc
    · cases hf'
  | some cur =>
    obtain ⟨op'', hf'', -, -, hle, heq⟩ := h.find hf
    rw [hf''] at hf'
    cases hf'
    obtain ⟨hle₀, heq₀⟩ := hcur cur hf
    exact ⟨Nat.le_trans hle₀ hle, fun hv => heq₀ (by omega) ▸ heq (by omega)⟩

/-- What one step of a change does: the store is as it was or rewritten, the change keeps its
operation and change, and it still holds what it is about to write. -/
theorem act_cases (hm : m.Holds s) (now : Int) :
    ((m.act s now).1 = s ∨ OperationStore.Rewrites s (m.act s now).1) ∧
      (m.act s now).2.id = m.id ∧ (m.act s now).2.change = m.change ∧
      (m.act s now).2.Holds (m.act s now).1 := by
  have hdone : ∀ s r, ({ m with attempt := .done r } : Modification).Holds s := by
    intro s r left op' ha
    cases ha
  unfold act
  split
  · exact ⟨.inl rfl, rfl, rfl, hdone _ _⟩
  · split
    · exact ⟨.inl rfl, rfl, rfl, hdone _ _⟩
    · rename_i op hf
      dsimp only
      split
      · rename_i hch
        refine ⟨.inl rfl, rfl, rfl, ?_⟩
        intro left op' ha
        cases ha
        refine ⟨op, now, ?_, (OperationStore.find_eq_some hf).2, fun cur hc => ?_⟩
        · rw [← hch]
        · rw [hf] at hc
          cases hc
          exact ⟨Nat.le_refl _, fun _ => rfl⟩
      · exact ⟨.inl rfl, rfl, rfl, hdone _ _⟩
  · rename_i left op' ha
    obtain ⟨op, t, happ, hid, hcur⟩ := hm left op' ha
    have hk := Change.keeps m.change t
    have hid' : op'.operationId = m.id := by
      have := hk.operationId op
      rw [happ] at this
      exact this.trans hid
    have hv' : op'.version = op.version := by
      have := hk.version op
      rw [happ] at this
      exact this
    split
    · rename_i s'' hup
      -- the write landed, so the store held the operation at the version read: the one read
      obtain ⟨cur, hf, hcv, hfind⟩ := OperationStore.update_ok_cases hup
      rw [hid'] at hf
      obtain rfl : cur = op := (hcur cur hf).2 (hcv.trans hv')
      refine ⟨.inr ⟨m.id, cur, op', m.change, t, hf, happ, fun u => ?_⟩, rfl, rfl, hdone _ _⟩
      rw [hfind u, hid', hv']
    · split
      · exact ⟨.inl rfl, rfl, rfl, fun _ _ ha => by cases ha⟩
      · exact ⟨.inl rfl, rfl, rfl, hdone _ _⟩
  · exact ⟨.inl rfl, rfl, rfl, hm⟩

end Modification

def Attempt.stored : Attempt → Bool
  | .done (.ok true) => true
  | _ => false

namespace Modification

theorem act_stored (s : OperationStore) (now : Int) (m : Modification) :
    decide ((m.act s now).1 ≠ s) = (!m.attempt.stored && (m.act s now).2.attempt.stored) ∧
      (m.attempt.stored = true → (m.act s now).2.attempt.stored = true) := by
  obtain ⟨id, c, a⟩ := m
  cases a with
  | reading left conflict =>
    cases left with
    | zero => simp [act, Attempt.stored]
    | succ left =>
      cases hf : s.find id with
      | none => simp [act, hf, Attempt.stored]
      | some op =>
        cases happ : c.apply now op with
        | mk changed op' => cases changed <;> simp [act, hf, happ, Attempt.stored]
  | writing left op' =>
    cases hup : s.update op' with
    | ok s' => simp [act, hup, Attempt.stored, OperationStore.update_ne hup]
    | error e => cases hc : e.isConflict <;> simp [act, hup, hc, Attempt.stored]
  | done r => simp [act]

end Modification

namespace Modifications

/-- The invariant of changes under way on a store holding the operation under `u`: that
operation's end is stamped exactly when it is final, and every change holds what it is about
to write. -/
structure Sound (u : Uuid) (w : Modifications) : Prop where
  stored : ∃ op, w.store.find u = some op ∧ op.Ends
  holds : ∀ m ∈ w.changes, m.Holds w.store

variable {u : Uuid} {w : Modifications}

theorem step_cases (hw : Sound u w) (ev : ModificationEvent) :
    ((w.step ev).store = w.store ∨ OperationStore.Rewrites w.store (w.step ev).store) ∧
      Sound u (w.step ev) := by
  cases ev with
  | begin id c =>
    refine ⟨.inl rfl, hw.stored, fun m hm => ?_⟩
    rcases List.mem_append.mp hm with hm | hm
    · exact hw.holds m hm
    · rw [List.mem_singleton.mp hm]
      intro left op' ha
      cases ha
  | act i now =>
    simp only [step]
    split
    · exact ⟨.inl rfl, hw⟩
    · rename_i m hi
      obtain ⟨hst, -, -, hm'⟩ := Modification.act_cases (hw.holds m (List.mem_of_getElem? hi)) now
      have hkeep : ∀ x ∈ w.changes, x.Holds (m.act w.store now).1 := by
        intro x hx
        rcases hst with h | h
        · rw [h]
          exact hw.holds x hx
        · exact (hw.holds x hx).rewrites h
      refine ⟨hst, ?_, fun x hx => ?_⟩
      · obtain ⟨op, hf, he⟩ := hw.stored
        rcases hst with h | h
        · exact ⟨op, by rw [h]; exact hf, he⟩
        · obtain ⟨op', hf', -, hen, -⟩ := h.find hf
          exact ⟨op', hf', hen he⟩
      · rcases List.mem_or_eq_of_mem_set hx with hx | rfl
        · exact hkeep x hx
        · exact hm'

theorem Sound.run (hw : Sound u w) (evs : List ModificationEvent) : Sound u (w.run evs) := by
  induction evs generalizing w with
  | nil => exact hw
  | cons ev evs ih => exact ih (step_cases hw ev).2

theorem follows_run (hw : Sound u w) {op : Operation} (hf : w.store.find u = some op)
    (evs : List ModificationEvent) :
    ∃ op', (w.run evs).store.find u = some op' ∧ op.Follows op' := by
  induction evs generalizing w op with
  | nil => exact ⟨op, hf, .refl op⟩
  | cons ev evs ih =>
    obtain ⟨hst, hw'⟩ := step_cases hw ev
    obtain ⟨op₁, hf₁, hfo₁⟩ : ∃ op₁, (w.step ev).store.find u = some op₁ ∧ op.Follows op₁ := by
      rcases hst with h | h
      · exact ⟨op, h ▸ hf, .refl op⟩
      · obtain ⟨op₁, hf₁, hfo, -⟩ := h.find hf
        exact ⟨op₁, hf₁, hfo⟩
    obtain ⟨op', hf', hfo'⟩ := ih hw' hf₁
    exact ⟨op', hf', hfo₁.trans hfo'⟩

/-! ### What a change answers -/

def answered (w : Modifications) (i : Nat) : Bool :=
  (w.changes[i]?.map (·.attempt.stored)).getD false

def storesFor (i : Nat) (w : Modifications) : ModificationEvent → Bool
  | .begin .. => false
  | .act j now => j == i && decide ((w.step (.act j now)).store ≠ w.store)

def storedBy (i : Nat) : Modifications → List ModificationEvent → Nat
  | _, [] => 0
  | w, ev :: evs => (if storesFor i w ev then 1 else 0) + storedBy i (w.step ev) evs

@[simp] theorem run_nil : w.run [] = w :=
  rfl

@[simp] theorem run_cons (ev : ModificationEvent) (evs : List ModificationEvent) :
    w.run (ev :: evs) = (w.step ev).run evs :=
  rfl

/-- One event: a step of the `i`-th change changes the store exactly when the change answers,
at that step, that it stored its write; an answer once given stays. -/
theorem answered_step (i : Nat) (ev : ModificationEvent) :
    (if storesFor i w ev then 1 else 0) + (if w.answered i then 1 else 0) =
      if (w.step ev).answered i then 1 else 0 := by
  cases ev with
  | begin id c =>
    have ha : (w.step (.begin id c)).answered i = w.answered i := by
      simp only [answered, step]
      by_cases hi : i < w.changes.length
      · rw [List.getElem?_append_left hi]
      · have hnone : w.changes[i]? = none := List.getElem?_eq_none (by omega)
        rw [List.getElem?_append_right (by omega), hnone]
        cases i - w.changes.length <;> rfl
    simp [storesFor, ha]
  | act j now =>
    by_cases hj : j = i
    · subst hj
      cases hi : w.changes[j]? with
      | none =>
        have hs : w.step (.act j now) = w := by simp [step, hi]
        simp [storesFor, hs]
      | some m =>
        have hlt : j < w.changes.length := (List.getElem?_eq_some_iff.mp hi).1
        have hs : w.step (.act j now) =
            ⟨(m.act w.store now).1, w.changes.set j (m.act w.store now).2⟩ := by
          simp [step, hi]
        have hsf : storesFor j w (.act j now) = decide ((m.act w.store now).1 ≠ w.store) := by
          simp [storesFor, hs]
        have ha : w.answered j = m.attempt.stored := by simp [answered, hi]
        have ha' : (w.step (.act j now)).answered j = (m.act w.store now).2.attempt.stored := by
          simp [hs, answered, List.getElem?_set_self hlt]
        obtain ⟨hst, hkeep⟩ := m.act_stored w.store now
        rw [hsf, hst, ha, ha']
        revert hkeep
        cases m.attempt.stored <;> cases (m.act w.store now).2.attempt.stored <;> simp
    · have ha : (w.step (.act j now)).answered i = w.answered i := by
        simp only [answered, step]
        split
        · rfl
        · rw [List.getElem?_set_ne hj]
      simp [storesFor, hj, ha]

theorem storedBy_run (i : Nat) (w : Modifications) (evs : List ModificationEvent) :
    storedBy i w evs + (if w.answered i then 1 else 0) = if (w.run evs).answered i then 1 else 0 := by
  induction evs generalizing w with
  | nil => rw [storedBy, run_nil, Nat.zero_add]
  | cons ev evs ih =>
    have hstep := answered_step (w := w) i ev
    have hrest := ih (w.step ev)
    rw [storedBy, run_cons]
    omega

end Modifications

/-- The life of an operation just created, under changes racing each other. Let changes begin
and take their steps in any order (`evs`) up to a state `w`, and any more after it (`evs'`):

* the operation stays stored, its end stamped exactly when its status is final, and from `w`
  on it only moves forward;
* every event stores at most one write: a change applied to the operation as stored, written
  with its version raised by one;
* a change about to write what it made of a version no longer stored is refused with a
  conflict, which leaves the store as it was and sends the change back to read again;
* a change answers that it stored its write exactly when one of its steps changed the store,
  and no change changes it twice. -/
theorem operation_lifecycle_under_retries (s s₀ : OperationStore) (cid : CorrelationId)
    (r : CanonicalRequest) (t : Int) (hc : s.create (Operation.start cid r t) = .ok s₀)
    (evs evs' : List ModificationEvent) :
    let w := ({ store := s₀ } : Modifications).run evs
    (∃ op op', w.store.find cid.requestId = some op ∧
        (w.run evs').store.find cid.requestId = some op' ∧ op.Ends ∧ op.Follows op') ∧
      (∀ ev, (w.step ev).store = w.store ∨ OperationStore.Rewrites w.store (w.step ev).store) ∧
      (∀ i m left op cur now, w.changes[i]? = some m → m.attempt = .writing left op →
        w.store.find op.operationId = some cur → cur.version ≠ op.version →
        w.step (.act i now) = ⟨w.store, w.changes.set i { m with
          attempt := .reading left
            (some (.conflict "operation" op.operationId.text op.version cur.version)) }⟩) ∧
      ∀ i, Modifications.storedBy i { store := s₀ } evs = if w.answered i then 1 else 0 := by
  intro w
  have h₀ : Modifications.Sound cid.requestId { store := s₀ } :=
    ⟨⟨_, OperationStore.find_create hc, Operation.ends_start cid r t⟩, fun m hm => by cases hm⟩
  have hw : Modifications.Sound cid.requestId w := h₀.run evs
  obtain ⟨op, hf, he⟩ := hw.stored
  obtain ⟨op', hf', hfo⟩ := Modifications.follows_run hw hf evs'
  refine ⟨⟨op, op', hf, hf', he, hfo⟩, fun ev => (Modifications.step_cases hw ev).1, ?_, fun i => ?_⟩
  · intro i m left op cur now hi ha hcur hv
    simp [Modifications.step, hi, Modification.act, ha, OperationStore.update_of_stale hcur hv,
      Store.StoreError.isConflict]
  · have h := Modifications.storedBy_run i { store := s₀ } evs
    simpa [Modifications.answered] using h

def bundlesRead : CanonicalRequest :=
  { tenantId := "1", deviceId := "gw-1", appName := "BUN-V1", method := .read,
    resourcePath := ["bundles"], capturedOn := 0 }

def racingChanges : List ModificationEvent :=
  [.begin Engine.callId.requestId (.finish .completed none),
    .begin Engine.callId.requestId (.notifyTimeout "no reply"),
    .act 1 1, .act 0 2, .act 0 3, .act 1 4, .act 1 5]

/-- The life of an operation under `racingChanges`. -/
theorem operation_lifecycle_of_racing_changes :
    let s₀ : OperationStore := ⟨[Operation.start Engine.callId bundlesRead 0]⟩
    let w := ({ store := s₀ } : Modifications).run racingChanges
    ({} : OperationStore).create (Operation.start Engine.callId bundlesRead 0) = .ok s₀ ∧
      (∃ op op', w.store.find Engine.callId.requestId = some op ∧
        (w.run []).store.find Engine.callId.requestId = some op' ∧ op.Ends ∧ op.Follows op') ∧
      (∀ ev, (w.step ev).store = w.store ∨ OperationStore.Rewrites w.store (w.step ev).store) ∧
      (∀ i m left op cur now, w.changes[i]? = some m → m.attempt = .writing left op →
        w.store.find op.operationId = some cur → cur.version ≠ op.version →
        w.step (.act i now) = ⟨w.store, w.changes.set i { m with
          attempt := .reading left
            (some (.conflict "operation" op.operationId.text op.version cur.version)) }⟩) ∧
      ∀ i, Modifications.storedBy i { store := s₀ } racingChanges = if w.answered i then 1 else 0 :=
  ⟨rfl, operation_lifecycle_under_retries {} _ Engine.callId bundlesRead 0 rfl racingChanges []⟩

/-- In that race the completion is stored and the notification, retried, stores nothing. -/
example :
    let w := ({ store := ⟨[Operation.start Engine.callId bundlesRead 0]⟩ } : Modifications).run
      racingChanges
    w.answered 0 = true ∧ w.answered 1 = false ∧
      (w.store.find Engine.callId.requestId).map (·.status) = some .completed := by
  decide

end DeviceFleet.Command
