import Mathlib.Data.List.Nodup
import DeviceFleet.Proofs.Protocol.UuidText
import DeviceFleet.Proofs.Events.Steps
import DeviceFleet.Proofs.Dispatch.Spent
import DeviceFleet.Engine.Run

/-!
# What the runs of executions rest on

What a run reads, which dispatching, processing and defining leave alone (`KeepsRuns`), and the
identity an execution's end is recorded under (`endKey`).
-/

namespace DeviceFleet.Engine

open Job Events Command Store

/-! ### Identities of ends -/

def endKey (u : Uuid) (v : Nat) : EventKey :=
  ("execution:" ++ u.text ++ ":v" ++ Text.natText v ++ ":end", jobEventSource)

theorem endKey_inj {u u' : Uuid} {v v' : Nat} (h : endKey u v = endKey u' v') :
    u = u' ∧ v = v' := by
  have hc := congrArg (fun k => k.1.toList) h
  simp only [endKey, String.toList_append] at hc
  have hc' := List.append_cancel_right hc
  simp only [List.append_assoc] at hc'
  have hu := List.append_inj (List.append_cancel_left hc')
    ((Uuid.length_text u).trans (Uuid.length_text u').symm)
  have hv := List.append_cancel_left hu.2
  refine ⟨Uuid.text_inj.mp (String.toList_inj.mp hu.1), ?_⟩
  have hn := congrArg (fun ds => Nat.ofDigitChars 10 ds 0) hv
  simpa [Text.natText, Nat.repr, Nat.ofDigitChars_ten_toDigits] using hn

theorem text_ne_endKey (u' u : Uuid) (v : Nat) : u'.text ≠ (endKey u v).1 := by
  intro h
  have hl := congrArg (fun s => s.toList.length) h
  simp only [endKey, String.toList_append, List.length_append, Uuid.length_text] at hl
  have hend : ":end".toList.length = 4 := by decide
  omega

end DeviceFleet.Engine

namespace DeviceFleet.Events.EventStore

variable {s s' : EventStore}

def keys (s : EventStore) : List EventKey :=
  s.records.map (·.key)

@[simp] theorem keys_put (r : EventRecord) : (s.put r).keys = s.keys :=
  map_key_put r

theorem find_eq_none_of_not_mem_keys {k : EventKey} (h : k ∉ s.keys) : s.find k = none := by
  unfold find
  rw [List.find?_eq_none]
  intro x hx hk
  exact h (List.mem_map.mpr ⟨x, hx, by simpa using hk⟩)

theorem mem_keys_of_find {k : EventKey} {r : EventRecord} (h : s.find k = some r) :
    k ∈ s.keys :=
  List.mem_map.mpr ⟨r, List.mem_of_find?_eq_some h, by simpa using List.find?_some h⟩

theorem claim_keys (e : ServiceEvent) (node : String) (lease : Nat) (now : Int) (g : UuidSource) :
    (∀ k ∈ (s.claim e node lease now g).2.1.keys, k ∈ s.keys ∨ k = e.key) ∧
      (∀ k ∈ s.keys, k ∈ (s.claim e node lease now g).2.1.keys) ∧
      (s.claim e node lease now g).2.1.tombstones = s.tombstones := by
  rcases claim_cases s e node lease now g with ⟨-, r, s', g', hc⟩ | ⟨-, o, -, hc⟩
  · rw [hc]
    obtain ⟨-, ⟨-, rfl, -, rfl⟩ | ⟨r₀, -, -, -, -, -, rfl⟩⟩ := claim_eq_claimed hc
    · refine ⟨fun k hk => ?_, fun k hk => ?_, rfl⟩
      · simp only [keys, List.map_append, List.map_cons, List.map_nil, List.mem_append,
          List.mem_singleton] at hk
        rcases hk with hk | rfl
        · exact .inl hk
        · exact .inr rfl
      · simp only [keys, List.map_append, List.mem_append]
        exact .inl hk
    · exact ⟨fun k hk => .inl (by simpa using hk), fun k hk => by simpa using hk, rfl⟩
  · rw [hc]
    exact ⟨fun k hk => .inl hk, fun k hk => hk, rfl⟩

theorem claim_mem_keys {e : ServiceEvent} {node : String} {lease : Nat} {now : Int}
    {g g' : UuidSource} {r : EventRecord} (h : s.claim e node lease now g = (.claimed r, s', g')) :
    e.key ∈ s'.keys := by
  obtain ⟨-, ⟨-, rfl, -, rfl⟩ | ⟨r₀, hf, -, -, -, -, rfl⟩⟩ := claim_eq_claimed h
  · simp only [keys, List.map_append, List.map_cons, List.map_nil, List.mem_append,
      List.mem_singleton]
    exact .inr rfl
  · rw [keys_put]
    exact mem_keys_of_find hf

theorem claim_of_not_mem_keys {e : ServiceEvent} {node : String} {lease : Nat} {now : Int}
    {g : UuidSource} (hk : e.key ∉ s.keys) (ht : s.tombstones = []) :
    ∃ r s' g', s.claim e node lease now g = (.claimed r, s', g') := by
  rcases claim_cases s e node lease now g with ⟨-, h⟩ | ⟨hn, -⟩
  · exact h
  · simp [claimable, isTombstoned, ht, find_eq_none_of_not_mem_keys hk] at hn

theorem markProcessed_keys {id : Uuid} {r : EventRecord} (h : s.markProcessed id = .ok (r, s')) :
    s'.keys = s.keys ∧ s'.tombstones = s.tombstones := by
  obtain ⟨r₀, -, ⟨-, -, rfl⟩ | ⟨-, -, rfl⟩⟩ := markProcessed_eq_ok h
  · exact ⟨rfl, rfl⟩
  · exact ⟨keys_put _, rfl⟩

theorem release_keys {id token : Uuid} (h : s.release id token = .ok s') :
    s'.keys = s.keys ∧ s'.tombstones = s.tombstones := by
  rcases release_eq_ok h with rfl | ⟨r, -, -, -, rfl⟩
  · exact ⟨rfl, rfl⟩
  · exact ⟨keys_put _, rfl⟩

def EndsDone (s : EventStore) : Prop :=
  ∀ r ∈ s.records, (∃ u v, r.key = Engine.endKey u v) → r.status = .processed

theorem EndsDone.put (h : s.EndsDone) {r : EventRecord}
    (hr : (∃ u v, r.key = Engine.endKey u v) → r.status = .processed) : (s.put r).EndsDone := by
  intro x hx hk
  obtain ⟨y, hy, rfl⟩ := List.mem_map.mp hx
  by_cases hyr : y.key = r.key
  · simp only [hyr, beq_self_eq_true, if_true] at hk ⊢
    exact hr hk
  · simp only [beq_iff_eq, hyr, if_false] at hk ⊢
    exact h y hy hk

theorem EndsDone.put_over {r : EventRecord}
    (h : ∀ x ∈ s.records, x.key ≠ r.key → (∃ u v, x.key = Engine.endKey u v) →
      x.status = .processed) (hr : r.status = .processed) : (s.put r).EndsDone := by
  intro x hx hk
  obtain ⟨y, hy, rfl⟩ := List.mem_map.mp hx
  by_cases hyr : y.key = r.key
  · simp only [hyr, beq_self_eq_true, if_true]
    exact hr
  · simp only [beq_iff_eq, hyr, if_false] at hk ⊢
    exact h y hy hyr hk

theorem find_ne_none_of_mem_keys {k : EventKey} (h : k ∈ s.keys) : s.find k ≠ none := by
  rw [ne_eq, find_eq_none]
  intro hn
  obtain ⟨r, hr, hk⟩ := List.mem_map.mp h
  exact hn r hr hk

theorem EndsDone.of_byId (h : s.EndsDone) {id : Uuid} {r : EventRecord} (hb : s.byId id = some r)
    (hu : r.status = .unprocessed) : ∀ u v, r.key ≠ Engine.endKey u v := by
  intro u v hk
  have hm := (find_eq_some (find_of_byId hb)).1
  rw [h r hm ⟨u, v, hk⟩] at hu
  cases hu

theorem EndsDone.markProcessed (h : s.EndsDone) {id : Uuid} {r : EventRecord}
    (hm : s.markProcessed id = .ok (r, s')) : s'.EndsDone := by
  obtain ⟨r₀, -, ⟨-, -, rfl⟩ | ⟨-, hr, rfl⟩⟩ := markProcessed_eq_ok hm
  · exact h
  · exact h.put fun _ => by rw [hr]

theorem EndsDone.release (h : s.EndsDone) {id token : Uuid} (hr : s.release id token = .ok s') :
    s'.EndsDone := by
  rcases release_eq_ok hr with rfl | ⟨r, hb, hu, -, rfl⟩
  · exact h
  · exact h.put fun ⟨u, v, hk⟩ => absurd hk (h.of_byId hb hu u v)

theorem EndsDone.claim (h : s.EndsDone) {e : ServiceEvent} {node : String} {lease : Nat}
    {now : Int} {g : UuidSource} (hkey : ∀ u v, e.key ≠ Engine.endKey u v) :
    (s.claim e node lease now g).2.1.EndsDone := by
  rcases claim_cases s e node lease now g with ⟨-, r, s', g', hc⟩ | ⟨-, o, -, hc⟩
  · rw [hc]
    obtain ⟨-, ⟨-, rfl, -, rfl⟩ | ⟨r₀, hf, -, -, rfl, -, rfl⟩⟩ := claim_eq_claimed hc
    · intro x hx hk
      rcases List.mem_append.mp hx with hx | hx
      · exact h x hx hk
      · rw [List.mem_singleton.mp hx] at hk
        obtain ⟨u, v, hk⟩ := hk
        exact absurd hk (hkey u v)
    · refine h.put fun ⟨u, v, hk⟩ => absurd ?_ (hkey u v)
      rw [← hk]
      exact (find_eq_some hf).2.symm
  · rw [hc]
    exact h

end DeviceFleet.Events.EventStore

namespace DeviceFleet.Engine

open Job Events Command Store

namespace Cluster

/-! ### The frame of the runs -/

def TasksNumbered (w : Cluster) : Prop :=
  (w.tasks.map (·.1)).Nodup ∧ ∀ p ∈ w.tasks, p.1 < w.nextTask

/-- The runs and the stops in flight of `w'` are those of `w` under the same numbers, and
numbering stays sound. -/
structure TasksKept (w w' : Cluster) : Prop where
  runs : ∀ n x, (n, Task.execution x) ∈ w'.tasks ↔ (n, Task.execution x) ∈ w.tasks
  stops : ∀ n i c r qs, (n, Task.stopping i c r qs) ∈ w'.tasks ↔
    (n, Task.stopping i c r qs) ∈ w.tasks
  numbered : w.TasksNumbered → w'.TasksNumbered

/-- An event store that purges nothing, has recorded the ends of executions that `s` had, and
leaves them processed. -/
structure EndsKept (s s' : EventStore) : Prop where
  tombstones : s'.tombstones = s.tombstones
  ends : ∀ u v, endKey u v ∈ s'.keys ↔ endKey u v ∈ s.keys
  done : s.EndsDone → s'.EndsDone

/-- What the runs of executions read is kept from `w` to `w'`: the stored executions, the
coordinators, the runs among the tasks and the recorded ends. -/
structure KeepsRuns (w w' : Cluster) : Prop where
  executions : w'.executions = w.executions
  coordinators : w'.coordinators = w.coordinators
  tasks : TasksKept w w'
  events : EndsKept w.events w'.events

variable {w w' w'' : Cluster}

theorem KeepsRuns.of_eq (hx : w'.executions = w.executions) (hc : w'.coordinators = w.coordinators)
    (ht : w'.tasks = w.tasks) (hn : w'.nextTask = w.nextTask) (he : w'.events = w.events) :
    KeepsRuns w w' where
  executions := hx
  coordinators := hc
  tasks := ⟨fun n x => by rw [ht], fun n i c r qs => by rw [ht],
    fun h => by unfold TasksNumbered; rw [ht, hn]; exact h⟩
  events := ⟨by rw [he], fun u v => by rw [he], fun h => he ▸ h⟩

theorem KeepsRuns.refl (w : Cluster) : KeepsRuns w w :=
  .of_eq rfl rfl rfl rfl rfl

theorem KeepsRuns.trans (h₁ : KeepsRuns w w') (h₂ : KeepsRuns w' w'') : KeepsRuns w w'' where
  executions := h₂.executions.trans h₁.executions
  coordinators := h₂.coordinators.trans h₁.coordinators
  tasks := ⟨fun n x => (h₂.tasks.runs n x).trans (h₁.tasks.runs n x),
    fun n i c r qs => (h₂.tasks.stops n i c r qs).trans (h₁.tasks.stops n i c r qs),
    fun h => h₂.tasks.numbered (h₁.tasks.numbered h)⟩
  events := ⟨h₂.events.tombstones.trans h₁.events.tombstones,
    fun u v => (h₂.events.ends u v).trans (h₁.events.ends u v),
    fun h => h₂.events.done (h₁.events.done h)⟩

theorem EndsKept.of_keys {s s' : EventStore} {key : EventKey} (ht : s'.tombstones = s.tombstones)
    (hk : ∀ k ∈ s'.keys, k ∈ s.keys ∨ k = key) (hg : ∀ k ∈ s.keys, k ∈ s'.keys)
    (hkey : ∀ u v, key ≠ endKey u v) (hd : s.EndsDone → s'.EndsDone) : EndsKept s s' := by
  refine ⟨ht, fun u v => ⟨fun h => ?_, hg _⟩, hd⟩
  rcases hk _ h with h | h
  · exact h
  · exact absurd h.symm (hkey u v)

theorem keepsRuns_heard (w : Cluster) (e : ServiceEvent) : KeepsRuns w (w.heard e) := by
  unfold heard
  split
  · exact .of_eq rfl rfl rfl rfl rfl
  · exact .refl w

theorem freshId_snd (w : Cluster) : w.freshId.2 = { w with ids := w.ids.next.2 } := rfl

theorem keepsRuns_freshId (w : Cluster) : KeepsRuns w w.freshId.2 := by
  rw [freshId_snd]
  exact .of_eq rfl rfl rfl rfl rfl

theorem keepsRuns_spawn_delivery (w : Cluster) (r : Envelope) :
    KeepsRuns w (w.spawn_ (.delivery r)) := by
  refine ⟨rfl, rfl, ⟨fun n x => ?_, fun n i c r qs => ?_, fun ⟨hn, hlt⟩ => ⟨?_, fun p hp => ?_⟩⟩,
    ⟨rfl, fun _ _ => Iff.rfl, id⟩⟩
  · simp [spawn_, spawn]
  · simp [spawn_, spawn]
  · simp only [spawn_, spawn, List.map_append, List.map_cons, List.map_nil]
    refine List.nodup_append.mpr ⟨hn, List.nodup_singleton _, ?_⟩
    simp only [List.mem_singleton, List.mem_map]
    rintro a ⟨p, hp, rfl⟩ _ rfl
    have := hlt p hp
    omega
  · simp only [spawn_, spawn, List.mem_append, List.mem_singleton] at hp ⊢
    rcases hp with hp | rfl
    · exact Nat.lt_succ_of_lt (hlt p hp)
    · exact Nat.lt_succ_self _

theorem keepsRuns_spawn_deliveries (rs : List Envelope) (w : Cluster) :
    KeepsRuns w (rs.foldl (fun w r => w.spawn_ (.delivery r)) w) := by
  induction rs generalizing w with
  | nil => exact .refl w
  | cons r rs ih => exact (keepsRuns_spawn_delivery w r).trans (ih _)

/-! ### Recording an event once -/

/-- What recording an event once does. A claim that fails changes nothing, and the event then
has a record or was purged. A claim that succeeds runs the effect on the cluster holding the
claim, whose records differ at most by the event; a failed effect is answered as such and
leaves that cluster with the claim given back, and an effect that succeeds leaves what it
left, with the record marked processed. -/
theorem recordOnce_cases {α : Type} (w : Cluster) (node : String) (e : ServiceEvent)
    (effect : Cluster → Except StoreError (α × Cluster)) :
    (w.recordOnce node e effect = (.ok .duplicate, w) ∧
        (e.key ∈ w.events.keys ∨ w.events.isTombstoned e.key = true)) ∨
      ∃ w₁, w₁.now = w.now ∧ w₁.executions = w.executions ∧ w₁.coordinators = w.coordinators ∧
        w₁.tasks = w.tasks ∧ w₁.nextTask = w.nextTask ∧
        w₁.events.tombstones = w.events.tombstones ∧
        (∀ k ∈ w₁.events.keys, k ∈ w.events.keys ∨ k = e.key) ∧
        (∀ k ∈ w.events.keys, k ∈ w₁.events.keys) ∧ e.key ∈ w₁.events.keys ∧
        (∃ r, w.events.claim e node (w.config.claimLeaseMs * 1000) w.now w.ids =
          (.claimed r, w₁.events, w₁.ids)) ∧
        ((∃ err, effect w₁ = .error err ∧ (w.recordOnce node e effect).1 = .error (.effect err) ∧
            KeepsRuns w₁ (w.recordOnce node e effect).2) ∨
          ∃ v w₂, effect w₁ = .ok (v, w₂) ∧ KeepsRuns w₂ (w.recordOnce node e effect).2) := by
  rcases EventStore.claim_cases w.events e node (w.config.claimLeaseMs * 1000) w.now w.ids with
    ⟨-, r, s, g, hc⟩ | ⟨hn, o, ho, hc⟩
  · right
    obtain ⟨hk, hg, ht⟩ := EventStore.claim_keys (s := w.events) e node
      (w.config.claimLeaseMs * 1000) w.now w.ids
    rw [hc] at hk hg ht
    refine ⟨{ w with events := s, ids := g }, rfl, rfl, rfl, rfl, rfl, ht, hk, hg,
      EventStore.claim_mem_keys hc, ⟨r, hc⟩, ?_⟩
    unfold recordOnce
    rw [hc]
    dsimp only
    cases hx : effect { w with events := s, ids := g } with
    | error err =>
      refine .inl ⟨err, rfl, rfl, ?_⟩
      cases hr : s.release r.recordId r.claimToken with
      | error _ => exact .refl _
      | ok s' =>
        obtain ⟨hk', ht'⟩ := EventStore.release_keys hr
        exact ⟨rfl, rfl, ⟨fun _ _ => Iff.rfl, fun _ _ _ _ _ => Iff.rfl, id⟩,
          ⟨ht', fun u v => by rw [hk'], fun h => h.release hr⟩⟩
    | ok p =>
      obtain ⟨v, w₂⟩ := p
      refine .inr ⟨v, w₂, rfl, ?_⟩
      dsimp only
      cases hm : w₂.events.markProcessed r.recordId with
      | error _ => exact .refl w₂
      | ok q =>
        obtain ⟨r', s'⟩ := q
        dsimp only
        obtain ⟨hk', ht'⟩ := EventStore.markProcessed_keys hm
        have hmark : KeepsRuns w₂ { w₂ with events := s' } :=
          ⟨rfl, rfl, ⟨fun _ _ => Iff.rfl, fun _ _ _ _ _ => Iff.rfl, id⟩,
            ⟨ht', fun u v => by rw [hk'], fun h => h.markProcessed hm⟩⟩
        exact hmark.trans (keepsRuns_heard _ e)
  · left
    refine ⟨?_, ?_⟩
    · unfold recordOnce
      rw [hc]
      rcases ho with rfl | rfl <;> rfl
    · -- an event that cannot be claimed was purged, or has a record
      cases hts : w.events.isTombstoned e.key with
      | true => exact .inr rfl
      | false =>
        cases hf : w.events.find e.key with
        | none => simp [EventStore.claimable, hts, hf] at hn
        | some r => exact .inl (EventStore.mem_keys_of_find hf)

theorem recordOnce_preserves {α : Type} {node : String} {e : ServiceEvent}
    {effect : Cluster → Except StoreError (α × Cluster)} {P : Cluster → Prop}
    (hP : ∀ w w', P w → KeepsRuns w w' → P w') (hkey : ∀ u v, e.key ≠ endKey u v)
    (heff : ∀ w₁ v w₂, P w₁ → effect w₁ = .ok (v, w₂) → P w₂) (hw : P w) :
    P (w.recordOnce node e effect).2 := by
  rcases recordOnce_cases w node e effect with
    ⟨h, -⟩ | ⟨w₁, -, hx, hc, ht, hn, hts, hk, hg, -, ⟨r, hcl⟩, hr⟩
  · rw [h]
    exact hw
  · have hd : w.events.EndsDone → w₁.events.EndsDone := fun h => by
      have hclaim : (w.events.claim e node (w.config.claimLeaseMs * 1000) w.now w.ids).2.1.EndsDone :=
        h.claim hkey
      rwa [hcl] at hclaim
    have h₁ : KeepsRuns w w₁ :=
      ⟨hx, hc, ⟨fun n x => by rw [ht], fun n i c r qs => by rw [ht],
        fun h => by unfold TasksNumbered; rw [ht, hn]; exact h⟩,
        .of_keys hts hk hg hkey hd⟩
    rcases hr with ⟨err, -, -, h₂⟩ | ⟨v, w₂, hv, h₂⟩
    · exact hP _ _ (hP _ _ hw h₁) h₂
    · exact hP _ _ (heff w₁ v w₂ (hP _ _ hw h₁) hv) h₂

theorem keepsRuns_recordOnce {α : Type} {node : String} {e : ServiceEvent}
    {effect : Cluster → Except StoreError (α × Cluster)} (hkey : ∀ u v, e.key ≠ endKey u v)
    (heff : ∀ w₁ v w₂, effect w₁ = .ok (v, w₂) → KeepsRuns w₁ w₂) :
    KeepsRuns w (w.recordOnce node e effect).2 :=
  recordOnce_preserves (P := KeepsRuns w) (fun _ _ h₁ h₂ => h₁.trans h₂) hkey
    (fun w₁ v w₂ h₁ h => h₁.trans (heff w₁ v w₂ h)) (.refl w)

/-! ### The dispatcher -/

theorem keepsRuns_modifyOperation {u : Uuid} {change : Operation → Bool × Operation} {b : Bool}
    (h : w.modifyOperation u change = .ok (b, w')) : KeepsRuns w w' := by
  unfold modifyOperation at h
  cases hm : w.operations.modify u change with
  | error e => simp [hm, Except.map] at h
  | ok x =>
    simp only [hm, Except.map, Except.ok.injEq] at h
    rw [← (Prod.mk.inj h).2]
    exact .of_eq rfl rfl rfl rfl rfl

theorem settlementEvent_key_ne (id : CorrelationId) (s : OperationStatus) (u : Uuid) (v : Nat) :
    (settlementEvent id s).key ≠ endKey u v := by
  intro h
  have hs := congrArg Prod.snd h
  simp [settlementEvent, ServiceEvent.key, endKey, operationEventSource, jobEventSource] at hs

theorem keepsRuns_settle (id : CorrelationId) (s : OperationStatus) (m : Option String) :
    KeepsRuns w (w.settle id s m).2 := by
  rw [settle_snd]
  refine keepsRuns_recordOnce (settlementEvent_key_ne id s) fun w₁ v w₂ h => ?_
  cases hm : w₁.modifyOperation id.requestId (fun op => op.finish s m w₁.nowMs) with
  | error e => simp [hm, Except.map] at h
  | ok x =>
    obtain ⟨b, w₃⟩ := x
    simp only [hm, Except.map, Except.ok.injEq, Prod.mk.injEq] at h
    rw [← h.2]
    exact keepsRuns_modifyOperation hm

theorem keepsRuns_markNotified {id : CorrelationId} {t : Nat} (h : w.markNotified id t = .ok w') :
    KeepsRuns w w' := by
  unfold markNotified at h
  cases hm : w.modifyOperation id.requestId (·.notifyTimeout (timeoutMessage id t)) with
  | error e => simp [hm, Except.map] at h
  | ok x =>
    simp only [hm, Except.map, Except.ok.injEq] at h
    rw [← h]
    exact keepsRuns_modifyOperation hm

theorem keepsRuns_correlator (c : Correlator) : KeepsRuns w { w with correlator := c } :=
  .of_eq rfl rfl rfl rfl rfl

theorem keepsRuns_handleReply (e : Envelope) : KeepsRuns w (w.handleReply e) := by
  unfold handleReply
  split
  · rename_i id c _
    unfold reconcile
    split
    · exact keepsRuns_correlator c
    · split
      · exact keepsRuns_correlator c
      · split
        exact (keepsRuns_correlator c).trans (keepsRuns_settle _ _ _)
  · exact keepsRuns_correlator _

theorem keepsRuns_awaitSettlement (rw : ReplyWait) : KeepsRuns w (w.awaitSettlement rw).2 := by
  unfold awaitSettlement
  cases hw : w.correlator.wait rw.handle w.now with
  | none =>
    simp only
    split
    · rename_i w₂ hm
      exact keepsRuns_markNotified hm
    · exact .refl w
  | some x =>
    obtain ⟨r, t, c⟩ := x
    simp only
    cases r with
    | completed resp =>
      simp only
      split <;> rename_i heq <;>
        · have hs := keepsRuns_settle (w := { w with correlator := c }) rw.id
            (settlementOf resp).1 (settlementOf resp).2
          rw [heq] at hs
          exact (keepsRuns_correlator c).trans hs
    | conversionFailed err =>
      simp only
      split <;> rename_i heq <;>
        · have hs := keepsRuns_settle (w := { w with correlator := c }) rw.id .failed
            (some err.message)
          rw [heq] at hs
          exact (keepsRuns_correlator c).trans hs
    | timedOut =>
      simp only
      split
      · rename_i w₂ hm
        exact (keepsRuns_correlator c).trans (keepsRuns_markNotified hm)
      · exact keepsRuns_correlator c

theorem keepsRuns_finishObserve (rw : ReplyWait) : KeepsRuns w (w.finishObserve rw).2 := by
  rw [finishObserve_eq]
  exact keepsRuns_awaitSettlement rw

theorem keepsRuns_startObserve (id : CorrelationId) (tm : Option Nat) :
    KeepsRuns w (w.startObserve id tm).2 := by
  unfold startObserve
  split
  · exact .refl w
  · split
    · exact .refl w
    · dsimp only
      split
      · exact .refl w
      · exact keepsRuns_correlator _

theorem keepsRuns_startSend (request : CanonicalRequest) (timeoutMs : Option Nat) :
    KeepsRuns w (w.startSend request timeoutMs).2 := by
  rcases hfr : w.freshId with ⟨u, w₁⟩
  have h₁ : KeepsRuns w w₁ := by
    rw [show w₁ = w.freshId.2 by rw [hfr]]
    exact keepsRuns_freshId w
  unfold startSend
  simp only [hfr]
  split
  · exact h₁
  · rename_i ops _
    have h₂ : KeepsRuns w { w₁ with operations := ops } := h₁.trans (.of_eq rfl rfl rfl rfl rfl)
    split
    · rename_i err _
      have hs := keepsRuns_settle (w := { w₁ with operations := ops })
        ⟨request.tenantId, request.deviceId, u⟩ .failed (some err.message)
      split <;> rename_i heq <;> rw [heq] at hs <;> exact h₂.trans hs
    · split
      · exact h₂
      · rename_i h c _
        have h₃ : KeepsRuns w { w₁ with operations := ops, correlator := c } :=
          h₂.trans (.of_eq rfl rfl rfl rfl rfl)
        split
        · exact h₃.trans (.of_eq rfl rfl rfl rfl rfl)
        · split
          · exact h₃.trans (.of_eq rfl rfl rfl rfl rfl)
          · rename_i replies f _
            have h₄ : KeepsRuns w { w₁ with operations := ops, correlator := c, fleet := f } :=
              h₃.trans (.of_eq rfl rfl rfl rfl rfl)
            have h₅ := h₄.trans (keepsRuns_spawn_deliveries replies _)
            split
            · rename_i b w₅ hm
              exact h₅.trans (keepsRuns_modifyOperation hm)
            · exact h₅

/-! ### Processing targets, storing results and defining jobs -/

theorem keepsRuns_sendFor (x : ExecTask) (step : StepDefinition) (t : JobTarget) :
    KeepsRuns w (w.sendFor x step t).2 := by
  unfold sendFor
  have h := keepsRuns_startSend (w := w) { step.template.build t.tenantId t.targetId w.nowMs with
      requester := "job:" ++ x.job.jobId ++ ":" ++ x.execution.executionId.text } step.timeoutMs
  dsimp only at h ⊢
  split <;> rename_i heq <;> rw [heq] at h <;> exact h

theorem keepsRuns_startTarget (x : ExecTask) (j : Nat) (t : JobTarget) :
    KeepsRuns w (w.startTarget x j t).2 := by
  unfold startTarget
  split
  · exact .refl w
  · rename_i step _
    split
    · exact .refl w
    · split
      · exact keepsRuns_sendFor x step t
      · split
        · exact keepsRuns_sendFor x step t
        · rename_i op _
          split
          · exact .refl w
          · split
            · exact keepsRuns_sendFor x step t
            · have h := keepsRuns_startObserve (w := w) op.correlationId step.timeoutMs
              split <;> rename_i heq <;> rw [heq] at h <;> exact h

theorem keepsRuns_resumeWork (k : Work) : KeepsRuns w (w.resumeWork k).2.2 := by
  cases k with
  | sending t rw =>
    have h := keepsRuns_awaitSettlement (w := w) rw
    simp only [resumeWork]
    split <;> rename_i heq <;> rw [heq] at h <;> exact h
  | observing t P rw =>
    have h := keepsRuns_finishObserve (w := w) rw
    simp only [resumeWork]
    split <;> rename_i heq <;> rw [heq] at h <;> exact h

theorem keepsRuns_storeTarget {x : ExecTask} {i : Nat} {t : JobTarget}
    {r : Except String TargetOutcome} {b : Bool} (h : w.storeTarget x i t r = .ok (b, w')) :
    KeepsRuns w w' := by
  unfold storeTarget at h
  dsimp only at h
  split at h
  · cases h
    exact .of_eq rfl rfl rfl rfl rfl
  · split at h
    · cases h
      exact .refl w
    · cases h

theorem keepsRuns_foldlM {α : Type} {f : Cluster → α → Except StoreError Cluster}
    (hf : ∀ w₀ a w₁, f w₀ a = .ok w₁ → KeepsRuns w₀ w₁) :
    ∀ (as : List α) (w₀ : Cluster), as.foldlM f w₀ = .ok w' → KeepsRuns w₀ w' := by
  intro as
  induction as with
  | nil =>
    intro w₀ h
    cases h
    exact .refl _
  | cons a as ih =>
    intro w₀ h
    rw [List.foldlM_cons] at h
    cases hx : f w₀ a with
    | error e =>
      rw [hx] at h
      cases h
    | ok w₁ =>
      rw [hx] at h
      exact (hf _ _ _ hx).trans (ih w₁ h)

theorem keepsRuns_resetTargets {e : Execution} {i : Nat} (h : w.resetTargets e i = .ok w') :
    KeepsRuns w w' := by
  unfold resetTargets at h
  refine keepsRuns_foldlM (fun w₀ t w₁ hw => ?_) _ w h
  cases hu : w₀.targets.update (t.reset i) with
  | error e => simp [hu, Except.map] at hw
  | ok p =>
    simp only [hu, Except.map, Except.ok.injEq] at hw
    rw [← hw]
    exact .of_eq rfl rfl rfl rfl rfl

theorem keepsRuns_findJob (t j : String) : KeepsRuns w (w.findJob t j).2 := by
  unfold findJob
  split <;> exact .of_eq rfl rfl rfl rfl rfl

theorem keepsRuns_loadJob (t j : String) : KeepsRuns w (w.loadJob t j).2 := by
  have h := keepsRuns_findJob (w := w) t j
  unfold loadJob
  split <;> rename_i heq <;> rw [heq] at h <;> exact h

theorem jobEvent_key_ne (u : Uuid) (t et id : String) (a : EventAction) (p : Option Json)
    (u' : Uuid) (v : Nat) : (jobEvent u.text t et id a p).key ≠ endKey u' v := by
  intro h
  have hc : (jobEvent u.text t et id a p).key.1 = u.text := rfl
  exact text_ne_endKey u u' v (hc.symm.trans (congrArg Prod.fst h))

theorem keepsRuns_defineJob (jb : Job) : KeepsRuns w (w.defineJob jb).2 := by
  rcases hfr : w.freshId with ⟨u, w₁⟩
  have h₁ : KeepsRuns w w₁ := by
    rw [show w₁ = w.freshId.2 by rw [hfr]]
    exact keepsRuns_freshId w
  unfold defineJob
  split
  · exact .refl w
  · simp only [hfr]
    have hr : KeepsRuns w₁ (w₁.recordOnce w₁.config.nodeId
        (jobEvent u.text jb.tenantId jobEntity jb.jobId .updated none)
        fun w => .ok ((), w.saveJob jb)).2 :=
      keepsRuns_recordOnce (jobEvent_key_ne u jb.tenantId jobEntity jb.jobId .updated none)
        fun w₂ v w₃ h => by
          cases h
          exact .of_eq rfl rfl rfl rfl rfl
    split <;> rename_i heq <;> rw [heq] at hr <;> exact h₁.trans hr

end Cluster

end DeviceFleet.Engine
