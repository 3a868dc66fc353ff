import Mathlib.Data.List.Nodup
import DeviceFleet.Job.Stores

/-!
# At most one running execution per job

Over every sequence of calls on an empty execution store, no job has two running executions
(`Sound.running_length_le`); starts, promotions and writes are characterised by their cases.
-/

namespace DeviceFleet.Job

namespace ExecutionStore

def running (s : ExecutionStore) (tenantId jobId : String) : List Execution :=
  (s.list tenantId jobId).filter (·.status == .running)

variable {s : ExecutionStore} {t j n : String} {e x : Execution}

@[simp] theorem ofJob_eq_true : ofJob t j x = true ↔ x.tenantId = t ∧ x.jobId = j := by
  simp [ofJob]

@[simp] theorem mem_list : x ∈ s.list t j ↔ x ∈ s.executions ∧ x.tenantId = t ∧ x.jobId = j := by
  simp [list]

@[simp] theorem mem_running :
    x ∈ s.running t j ↔ x ∈ s.executions ∧ x.tenantId = t ∧ x.jobId = j ∧ x.status = .running := by
  simp [running, and_assoc]

theorem findRunning_eq_none : s.findRunning t j = none ↔ s.running t j = [] := by
  simp [findRunning, running]

theorem running_ne_nil_of_findRunning (h : s.findRunning t j = some e) : s.running t j ≠ [] := by
  intro hn
  rw [← findRunning_eq_none, h] at hn
  cases hn

/-! ### Replacing a record by id -/

theorem ids_put (s : ExecutionStore) (e : Execution) :
    (s.put e).executions.map (·.executionId) = s.executions.map (·.executionId) := by
  simp only [put, List.map_map]
  apply List.map_congr_left
  intro y _
  simp only [Function.comp_apply]
  split
  · exact (beq_iff_eq.mp ‹_›).symm
  · rfl

theorem mem_put {y : Execution} (h : y ∈ (s.put e).executions) :
    y = e ∨ y ∈ s.executions ∧ y.executionId ≠ e.executionId := by
  simp only [put, List.mem_map] at h
  obtain ⟨z, hz, rfl⟩ := h
  split
  · exact .inl rfl
  next hne => exact .inr ⟨hz, fun h => hne (by simp [h])⟩

theorem mem_put_self (hx : x ∈ s.executions) (hid : x.executionId = e.executionId) :
    e ∈ (s.put e).executions :=
  List.mem_map.mpr ⟨x, hx, by simp [hid]⟩

/-! ### What every reached store keeps -/

/-- Execution ids are distinct, and two running executions of one job are one. -/
structure Sound (s : ExecutionStore) : Prop where
  ids_nodup : (s.executions.map (·.executionId)).Nodup
  one_running : ∀ x ∈ s.executions, ∀ y ∈ s.executions, x.tenantId = y.tenantId →
    x.jobId = y.jobId → x.status = .running → y.status = .running → x = y

theorem sound_empty : Sound {} :=
  ⟨List.nodup_nil, fun _ h => absurd h List.not_mem_nil⟩

theorem length_le_one_of_nodup {l : List Execution} (hn : l.Nodup)
    (h : ∀ x ∈ l, ∀ y ∈ l, x = y) : l.length ≤ 1 := by
  match l, hn with
  | [], _ => exact Nat.zero_le _
  | [_], _ => exact Nat.le_refl _
  | a :: b :: _, hn =>
    have hab : a = b := h a (by simp) b (by simp)
    subst hab
    simp at hn

theorem Sound.running_length_le (hs : Sound s) (t j : String) : (s.running t j).length ≤ 1 := by
  have hn : (s.running t j).Nodup :=
    (hs.ids_nodup.of_map _).sublist (List.filter_sublist.trans List.filter_sublist)
  apply length_le_one_of_nodup hn
  intro x hx y hy
  rw [mem_running] at hx hy
  exact hs.one_running x hx.1 y hy.1 (hx.2.1.trans hy.2.1.symm) (hx.2.2.1.trans hy.2.2.1.symm)
    hx.2.2.2 hy.2.2.2

theorem Sound.eq_of_id (hs : Sound s) {y : Execution} (hx : x ∈ s.executions)
    (hy : y ∈ s.executions) (hid : x.executionId = y.executionId) : x = y :=
  List.inj_on_of_nodup_map hs.ids_nodup hx hy hid

theorem Sound.put (hs : Sound s)
    (hr : e.status = .running → ∀ y ∈ s.running e.tenantId e.jobId, y.executionId = e.executionId) :
    Sound (s.put e) := by
  refine ⟨(ids_put s e).symm ▸ hs.ids_nodup, ?_⟩
  intro x hx y hy htj hjb hxr hyr
  -- a running record other than `e` of `e`'s job would have `e`'s id
  have other : ∀ z ∈ s.executions, z.executionId ≠ e.executionId → z.tenantId = e.tenantId →
      z.jobId = e.jobId → z.status = .running → e.status = .running → False :=
    fun z hz hne ht hj hzr her => hne (hr her z (mem_running.mpr ⟨hz, ht, hj, hzr⟩))
  rcases mem_put hx with hx | ⟨hx, hxe⟩ <;> rcases mem_put hy with hy | ⟨hy, hye⟩
  · exact hx.trans hy.symm
  · rw [hx] at htj hjb hxr
    exact (other y hy hye htj.symm hjb.symm hyr hxr).elim
  · rw [hy] at htj hjb hyr
    exact (other x hx hxe htj hjb hxr hyr).elim
  · exact hs.one_running x hx y hy htj hjb hxr hyr

theorem Sound.append (hs : Sound s) (hid : e.executionId ∉ s.executions.map (·.executionId))
    (hr : e.status = .running → s.running e.tenantId e.jobId = []) :
    Sound ⟨s.executions ++ [e]⟩ := by
  refine ⟨?_, ?_⟩
  · rw [List.map_append, List.nodup_append]
    refine ⟨hs.ids_nodup, List.nodup_singleton _, ?_⟩
    simp only [List.map_cons, List.map_nil, List.mem_singleton]
    rintro a ha _ rfl hae
    exact hid (hae ▸ ha)
  · have fresh : ∀ z ∈ s.executions, z.tenantId = e.tenantId → z.jobId = e.jobId →
        z.status = .running → e.status = .running → False := by
      intro z hz ht hj hzr her
      have hnil := hr her
      rw [List.eq_nil_iff_forall_not_mem] at hnil
      exact hnil z (mem_running.mpr ⟨hz, ht, hj, hzr⟩)
    intro x hx y hy htj hjb hxr hyr
    simp only [List.mem_append, List.mem_singleton] at hx hy
    rcases hx with hx | rfl <;> rcases hy with hy | rfl
    · exact hs.one_running x hx y hy htj hjb hxr hyr
    · exact (fresh x hx htj hjb hxr hyr).elim
    · exact (fresh y hy htj.symm hjb.symm hyr hxr).elim
    · rfl

theorem Sound.filter (hs : Sound s) (p : Execution → Bool) :
    Sound ⟨s.executions.filter p⟩ := by
  refine ⟨(List.filter_sublist.map _).nodup hs.ids_nodup, ?_⟩
  intro x hx y hy
  exact hs.one_running x (List.mem_filter.mp hx).1 y (List.mem_filter.mp hy).1

/-! ### Starting -/

theorem tryBegin_cases (s : ExecutionStore) (t j : String) (o : StartOptions) (n : String)
    (id : Uuid) (now : Int) :
    (s.running t j = [] ∧ s.tryBegin t j o n id now =
        (.started (Execution.create id t j o n .running now),
          ⟨s.executions ++ [Execution.create id t j o n .running now]⟩)) ∨
      (s.running t j ≠ [] ∧ o.enqueue = true ∧ s.tryBegin t j o n id now =
        (.queued (Execution.create id t j o n .queued now),
          ⟨s.executions ++ [Execution.create id t j o n .queued now]⟩)) ∨
      (∃ cur, s.running t j ≠ [] ∧ o.enqueue = false ∧
        s.tryBegin t j o n id now = (.alreadyRunning cur, s)) := by
  unfold tryBegin
  cases hf : s.findRunning t j with
  | none => exact .inl ⟨findRunning_eq_none.mp hf, rfl⟩
  | some cur =>
    have hr := running_ne_nil_of_findRunning hf
    cases ho : o.enqueue with
    | true => exact .inr (.inl ⟨hr, rfl, by simp⟩)
    | false => exact .inr (.inr ⟨cur, hr, rfl, by simp⟩)

theorem Sound.tryBegin (hs : Sound s) (o : StartOptions) (id : Uuid) (now : Int)
    (hid : id ∉ s.executions.map (·.executionId)) : Sound (s.tryBegin t j o n id now).2 := by
  rcases tryBegin_cases s t j o n id now with ⟨hr, heq⟩ | ⟨-, -, heq⟩ | ⟨_, -, -, heq⟩ <;>
    rw [heq]
  · exact hs.append hid fun _ => hr
  · exact hs.append hid fun h => by cases h
  · exact hs

/-! ### Resuming -/

def resumed (e : Execution) (node : String) (now : Int) : Execution :=
  { e with status := .running, ownerNode := node, startedOn := some now, endedOn := none,
           version := e.version + 1 }

theorem tryResume_cases (s : ExecutionStore) (t j : String) (id : Uuid) (n : String) (now : Int) :
    (s.tryResume t j id n now).2 = s ∨
      ∃ e ∈ s.list t j, s.running t j = [] ∧ e.status = .stopped ∧
        s.tryResume t j id n now = (.resumed (resumed e n now), s.put (resumed e n now)) := by
  unfold tryResume
  cases hf : s.find t j id with
  | none => exact .inl rfl
  | some e =>
    have he : e ∈ s.list t j := List.mem_of_find?_eq_some hf
    cases hr : s.findRunning t j with
    | some cur =>
      left
      simp only
      split <;> rfl
    | none =>
      simp only
      by_cases hs : e.status = .stopped
      · exact .inr ⟨e, he, findRunning_eq_none.mp hr, hs, by simp [hs, resumed]⟩
      · left
        simp [hs]

theorem Sound.tryResume (hs : Sound s) (id : Uuid) (now : Int) :
    Sound (s.tryResume t j id n now).2 := by
  rcases tryResume_cases s t j id n now with heq | ⟨e, he, hr, -, heq⟩
  · rw [heq]
    exact hs
  · rw [heq]
    obtain ⟨-, ht, hj⟩ := mem_list.mp he
    apply hs.put
    intro _ y hy
    rw [show (resumed e n now).tenantId = t from ht, show (resumed e n now).jobId = j from hj,
      hr] at hy
    cases hy

/-! ### Promoting the first queued execution -/

/-- What the first queued execution of a list is: `none` when nothing is queued, and
otherwise a queued member enqueued strictly later than every queued one before it and no later
than every queued one after it. -/
def FirstQueued (es : List Execution) : Option Execution → Prop
  | none => ∀ x ∈ es, x.status ≠ .queued
  | some q => ∃ pre post, es = pre ++ q :: post ∧ q.status = .queued ∧
      (∀ x ∈ pre, x.status = .queued → q.enqueuedOn < x.enqueuedOn) ∧
      (∀ x ∈ post, x.status = .queued → q.enqueuedOn ≤ x.enqueuedOn)

def pickQueued (best : Option Execution) (e : Execution) : Option Execution :=
  if e.status != .queued then best
  else match best with
    | some b => if e.enqueuedOn < b.enqueuedOn then some e else some b
    | none => some e

theorem FirstQueued.snoc {es : List Execution} {best : Option Execution}
    (h : FirstQueued es best) (e : Execution) : FirstQueued (es ++ [e]) (pickQueued best e) := by
  by_cases hq : e.status = .queued
  · cases best with
    | none =>
      rw [show pickQueued none e = some e by simp [pickQueued, hq]]
      exact ⟨es, [], rfl, hq, fun x hx hxq => absurd hxq (h x hx), by simp⟩
    | some b =>
      obtain ⟨pre, post, rfl, hb, hpre, hpost⟩ := h
      by_cases hlt : e.enqueuedOn < b.enqueuedOn
      · -- `e` is enqueued before every queued execution seen so far
        rw [show pickQueued (some b) e = some e by simp [pickQueued, hq, hlt]]
        refine ⟨pre ++ b :: post, [], by simp, hq, ?_, by simp⟩
        intro x hx hxq
        simp only [List.mem_append, List.mem_cons] at hx
        rcases hx with hx | rfl | hx
        · exact Int.lt_trans hlt (hpre x hx hxq)
        · exact hlt
        · exact Int.lt_of_lt_of_le hlt (hpost x hx hxq)
      · rw [show pickQueued (some b) e = some b by simp [pickQueued, hq, hlt]]
        refine ⟨pre, post ++ [e], by simp, hb, hpre, ?_⟩
        intro x hx hxq
        simp only [List.mem_append, List.mem_singleton] at hx
        rcases hx with hx | rfl
        · exact hpost x hx hxq
        · exact Int.not_lt.mp hlt
  · rw [show pickQueued best e = best by simp [pickQueued, hq]]
    cases best with
    | none =>
      intro x hx
      rcases List.mem_append.mp hx with hx | hx
      · exact h x hx
      · rw [List.mem_singleton.mp hx]
        exact hq
    | some b =>
      obtain ⟨pre, post, rfl, hb, hpre, hpost⟩ := h
      refine ⟨pre, post ++ [e], by simp, hb, hpre, ?_⟩
      intro x hx hxq
      simp only [List.mem_append, List.mem_singleton] at hx
      rcases hx with hx | rfl
      · exact hpost x hx hxq
      · exact absurd hxq hq

theorem FirstQueued.foldl {pre : List Execution} {best : Option Execution}
    (h : FirstQueued pre best) (es : List Execution) :
    FirstQueued (pre ++ es) (es.foldl pickQueued best) := by
  induction es generalizing pre best with
  | nil => simpa using h
  | cons e es ih => simpa using ih (h.snoc e)

theorem firstQueued_spec (es : List Execution) : FirstQueued es (firstQueued es) := by
  have h : FirstQueued [] none := fun _ h => absurd h List.not_mem_nil
  have hf : firstQueued es = es.foldl pickQueued none := rfl
  rw [hf]
  simpa using h.foldl es

theorem firstQueued_isSome_iff (es : List Execution) :
    (firstQueued es).isSome ↔ ∃ q ∈ es, q.status = .queued := by
  have h := firstQueued_spec es
  cases hq : firstQueued es with
  | none =>
    rw [hq] at h
    simp only [Option.isSome_none, Bool.false_eq_true, false_iff, not_exists, not_and]
    exact h
  | some q =>
    rw [hq] at h
    obtain ⟨pre, post, rfl, hq, -⟩ := h
    exact ⟨fun _ => ⟨q, by simp, hq⟩, fun _ => rfl⟩

def promoted (q : Execution) (node : String) (now : Int) : Execution :=
  { q with status := .running, ownerNode := node, startedOn := some now, version := q.version + 1 }

theorem promoteNext_cases (s : ExecutionStore) (t j n : String) (now : Int) :
    s.promoteNext t j n now = (none, s) ∧ (s.running t j ≠ [] ∨ firstQueued (s.list t j) = none) ∨
      ∃ q, s.running t j = [] ∧ firstQueued (s.list t j) = some q ∧
        s.promoteNext t j n now = (some (promoted q n now), s.put (promoted q n now)) := by
  unfold promoteNext
  cases hr : s.findRunning t j with
  | some cur => exact .inl ⟨rfl, .inl (running_ne_nil_of_findRunning hr)⟩
  | none =>
    simp only [Option.isSome_none, Bool.false_eq_true, if_false]
    cases hq : firstQueued (s.list t j) with
    | none => exact .inl ⟨rfl, .inr rfl⟩
    | some q => exact .inr ⟨q, findRunning_eq_none.mp hr, rfl, rfl⟩

theorem mem_list_of_firstQueued {q : Execution} (h : firstQueued (s.list t j) = some q) :
    q ∈ s.list t j := by
  have hs := firstQueued_spec (s.list t j)
  rw [h] at hs
  obtain ⟨pre, post, heq, -⟩ := hs
  rw [heq]
  simp

theorem Sound.promoteNext (hs : Sound s) (now : Int) : Sound (s.promoteNext t j n now).2 := by
  rcases promoteNext_cases s t j n now with ⟨heq, -⟩ | ⟨q, hr, hq, heq⟩ <;> rw [heq]
  · exact hs
  · obtain ⟨-, ht, hj⟩ := mem_list.mp (mem_list_of_firstQueued hq)
    apply hs.put
    intro _ y hy
    rw [show (promoted q n now).tenantId = t from ht, show (promoted q n now).jobId = j from hj,
      hr] at hy
    cases hy

/-! ### Writing -/

/-- A write succeeds only for a record stored at the version shown, and only when it does not
make a second execution of the job run; it then puts the record one version up. -/
theorem update_cases {r : Execution × ExecutionStore} (h : s.update e = .ok r) :
    (∃ x ∈ s.list e.tenantId e.jobId, x.executionId = e.executionId ∧ x.version = e.version) ∧
      (e.status = .running → ∀ y ∈ s.running e.tenantId e.jobId, y.executionId = e.executionId) ∧
      r = ({ e with version := e.version + 1 }, s.put { e with version := e.version + 1 }) := by
  unfold update at h
  simp only at h
  split at h
  · cases h
  split at h
  · cases h
  rename_i hc
  split at h
  · cases h
  rename_i x hx
  split at h
  · cases h
  rename_i hv
  cases h
  refine ⟨⟨x, List.mem_of_find?_eq_some hx, by simpa using List.find?_some hx, by omega⟩, ?_, rfl⟩
  intro her y hy
  have hy' := (mem_running.mp hy)
  by_contra hne
  apply hc
  simp only [her, beq_self_eq_true, Bool.true_and, List.any_eq_true]
  exact ⟨y, mem_list.mpr ⟨hy'.1, hy'.2.1, hy'.2.2.1⟩, by simp [hy'.2.2.2, hne]⟩

/-- The write of a record stored at the version shown that makes no second execution of the
job run succeeds. -/
theorem update_ok_of (hs : Sound s) {x : Execution} (hx : x ∈ s.list e.tenantId e.jobId)
    (hid : x.executionId = e.executionId) (hv : x.version = e.version)
    (hr : e.status = .running → ∀ y ∈ s.running e.tenantId e.jobId, y.executionId = e.executionId) :
    ∃ r, s.update e = .ok r := by
  have hfind : (s.list e.tenantId e.jobId).find? (·.executionId == e.executionId) = some x := by
    rw [List.find?_eq_some_iff_append]
    refine ⟨by simpa using hid, ?_⟩
    obtain ⟨pre, post, heq⟩ := List.append_of_mem hx
    refine ⟨pre, post, heq, fun y hy => ?_⟩
    have hne : y.executionId ≠ e.executionId := by
      intro hyid
      have hy' : y ∈ s.list e.tenantId e.jobId := by rw [heq]; simp [hy]
      have hxy := hs.eq_of_id (mem_list.mp hx).1 (mem_list.mp hy').1 (hid.trans hyid.symm)
      subst hxy
      have hnd : (s.list e.tenantId e.jobId).Nodup :=
        (hs.ids_nodup.of_map _).sublist List.filter_sublist
      rw [heq] at hnd
      simp [List.nodup_append] at hnd
      exact (hnd.2.2 x hy).1 rfl
    simpa using hne
  have hne : (s.list e.tenantId e.jobId).isEmpty = false := by
    cases hl : s.list e.tenantId e.jobId with
    | nil => rw [hl] at hx; cases hx
    | cons _ _ => rfl
  have hconf : (e.status == .running && (s.list e.tenantId e.jobId).any
      (fun y => y.status == .running && y.executionId != e.executionId)) = false := by
    rw [Bool.and_eq_false_iff]
    by_cases hst : e.status = .running
    · right
      rw [List.any_eq_false]
      intro y hy hyb
      simp only [Bool.and_eq_true, beq_iff_eq, bne_iff_ne, ne_eq] at hyb
      obtain ⟨hym, hyt, hyj⟩ := mem_list.mp hy
      exact hyb.2 (hr hst y (mem_running.mpr ⟨hym, hyt, hyj, hyb.1⟩))
    · left
      simpa using hst
  unfold update
  simp only [hne, hconf, hfind, hv, ne_eq, not_true_eq_false, if_false, Bool.false_eq_true]
  exact ⟨_, rfl⟩

theorem Sound.update (hs : Sound s) {r : Execution × ExecutionStore} (h : s.update e = .ok r) :
    Sound r.2 := by
  obtain ⟨-, hr, rfl⟩ := update_cases h
  exact hs.put hr

/-! ### Runs of calls -/

/-- One call on the execution store. A start carries the id it draws for the execution it
may create. -/
inductive ExecutionCall where
  | begin (tenantId jobId : String) (options : StartOptions) (node : String) (id : Uuid)
      (now : Int)
  | resume (tenantId jobId : String) (id : Uuid) (node : String) (now : Int)
  | promote (tenantId jobId node : String) (now : Int)
  | update (e : Execution)
  | deleteAll (tenantId jobId : String)

namespace ExecutionCall

def perform : ExecutionCall → ExecutionStore → ExecutionStore
  | .begin t j o n id now, s => (s.tryBegin t j o n id now).2
  | .resume t j id n now, s => (s.tryResume t j id n now).2
  | .promote t j n now, s => (s.promoteNext t j n now).2
  | .update e, s =>
    match s.update e with
    | .ok (_, s') => s'
    | .error _ => s
  | .deleteAll t j, s => (s.deleteAll t j).2

def Fresh : ExecutionCall → ExecutionStore → Prop
  | .begin _ _ _ _ id _, s => id ∉ s.executions.map (·.executionId)
  | _, _ => True

end ExecutionCall

/-- The stores calls reach from the empty store, every start drawing a fresh id. -/
inductive Reachable : ExecutionStore → Prop
  | empty : Reachable {}
  | call {s : ExecutionStore} (c : ExecutionCall) :
      Reachable s → c.Fresh s → Reachable (c.perform s)

theorem Sound.perform (hs : Sound s) (c : ExecutionCall) (hc : c.Fresh s) :
    Sound (c.perform s) := by
  cases c with
  | begin t j o n id now => exact hs.tryBegin o id now hc
  | resume t j id n now => exact hs.tryResume id now
  | promote t j n now => exact hs.promoteNext now
  | update e =>
    simp only [ExecutionCall.perform]
    split
    · exact hs.update ‹_›
    · exact hs
  | deleteAll t j => exact hs.filter _

theorem Reachable.sound (h : Reachable s) : Sound s := by
  induction h with
  | empty => exact sound_empty
  | call c _ hc ih => exact ih.perform c hc

/-- The laws of the execution store in a state it reached. -/
structure Laws (s : ExecutionStore) : Prop where
  /-- No job has two running executions. -/
  one_running : ∀ t j, (s.running t j).length ≤ 1
  /-- A start runs its execution exactly when none of the job runs. -/
  begin_started : ∀ t j o n id now,
    (∃ e s', s.tryBegin t j o n id now = (.started e, s')) ↔ s.running t j = []
  /-- A start queues its execution exactly when one of the job runs and the options ask to
  queue. -/
  begin_queued : ∀ t j o n id now,
    (∃ e s', s.tryBegin t j o n id now = (.queued e, s')) ↔
      s.running t j ≠ [] ∧ o.enqueue = true
  /-- A promotion runs the queued execution enqueued first, the earliest created among those
  enqueued at the same instant, and nothing else changes. -/
  promote_first : ∀ t j n now e s', s.promoteNext t j n now = (some e, s') →
    s.running t j = [] ∧ ∃ q, FirstQueued (s.list t j) (some q) ∧
      e = promoted q n now ∧ s' = s.put e
  /-- A promotion runs an execution whenever none of the job runs and one is queued. -/
  promote_some : ∀ t j n now, (s.promoteNext t j n now).1.isSome ↔
    s.running t j = [] ∧ ∃ q ∈ s.list t j, q.status = .queued
  /-- A write succeeds exactly for a record stored at the version shown that makes no second
  execution of its job run. -/
  update_ok_iff : ∀ e, (∃ r, s.update e = .ok r) ↔
    (∃ x ∈ s.list e.tenantId e.jobId, x.executionId = e.executionId ∧ x.version = e.version) ∧
      (e.status = .running → ∀ y ∈ s.running e.tenantId e.jobId, y.executionId = e.executionId)
  /-- A write that fails leaves the store as it was. -/
  update_failed : ∀ e err, s.update e = .error err → (ExecutionCall.update e).perform s = s
  /-- A write that succeeds stores the record one version above the one it replaced. -/
  update_version : ∀ e e' s', s.update e = .ok (e', s') →
    ∃ x ∈ s.list e.tenantId e.jobId, x.executionId = e.executionId ∧
      e'.version = x.version + 1 ∧ e' = { e with version := e.version + 1 } ∧ s' = s.put e'

theorem Sound.laws (hs : Sound s) : Laws s where
  one_running := hs.running_length_le
  begin_started t j o n id now := by
    rcases tryBegin_cases s t j o n id now with ⟨hr, heq⟩ | ⟨hr, -, heq⟩ | ⟨_, hr, -, heq⟩
    · exact ⟨fun _ => hr, fun _ => ⟨_, _, heq⟩⟩
    · simp only [heq, Prod.mk.injEq, reduceCtorEq, false_and, exists_false, false_iff]
      exact hr
    · simp only [heq, Prod.mk.injEq, reduceCtorEq, false_and, exists_false, false_iff]
      exact hr
  begin_queued t j o n id now := by
    rcases tryBegin_cases s t j o n id now with ⟨hr, heq⟩ | ⟨hr, ho, heq⟩ | ⟨_, -, ho, heq⟩
    · simp [heq, hr]
    · exact ⟨fun _ => ⟨hr, ho⟩, fun _ => ⟨_, _, heq⟩⟩
    · simp [heq, ho]
  promote_first t j n now e s' h := by
    rcases promoteNext_cases s t j n now with ⟨heq, -⟩ | ⟨q, hr, hq, heq⟩ <;> rw [heq] at h
    · cases h
    · cases h
      have hf := firstQueued_spec (s.list t j)
      rw [hq] at hf
      exact ⟨hr, q, hf, rfl, rfl⟩
  promote_some t j n now := by
    rw [← firstQueued_isSome_iff]
    rcases promoteNext_cases s t j n now with ⟨heq, hno⟩ | ⟨q, hr, hq, heq⟩ <;> rw [heq]
    · simp only [Option.isSome_none, Bool.false_eq_true, false_iff, not_and]
      intro hr
      rcases hno with hno | hno
      · exact absurd hr hno
      · simp [hno]
    · simp [hr, hq]
  update_ok_iff e := by
    constructor
    · rintro ⟨r, h⟩
      obtain ⟨hx, hr, -⟩ := update_cases h
      exact ⟨hx, hr⟩
    · rintro ⟨⟨x, hx, hid, hv⟩, hr⟩
      exact update_ok_of hs hx hid hv hr
  update_failed e err h := by simp [ExecutionCall.perform, h]
  update_version e e' s' h := by
    obtain ⟨⟨x, hx, hid, hv⟩, -, heq⟩ := update_cases h
    cases heq
    exact ⟨x, hx, hid, by simp [hv], rfl, rfl⟩

/-- Every store the calls reach keeps the laws: at most one running execution per job,
starts and promotions that respect it, and versioned writes that refuse a second running
execution. -/
theorem reachable_laws (h : Reachable s) : Laws s :=
  h.sound.laws

/-- Two starts of one job, the second asking to queue behind the first, reach a store that
keeps the laws. -/
theorem laws_after_queued_start :
    Reachable ((ExecutionCall.begin "1" "job" { enqueue := true } "n1" ⟨0, 2⟩ 5).perform
        ((ExecutionCall.begin "1" "job" {} "n1" ⟨0, 1⟩ 0).perform {})) ∧
      Laws ((ExecutionCall.begin "1" "job" { enqueue := true } "n1" ⟨0, 2⟩ 5).perform
        ((ExecutionCall.begin "1" "job" {} "n1" ⟨0, 1⟩ 0).perform {})) :=
  have h := Reachable.call _ (Reachable.call _ .empty (by simp [ExecutionCall.Fresh]))
    (by simp only [ExecutionCall.Fresh]; decide)
  ⟨h, reachable_laws h⟩

end ExecutionStore

end DeviceFleet.Job
