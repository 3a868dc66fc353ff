import DeviceFleet.Proofs.Jobs.Lifecycle

/-!
# What the engine keeps about its runs

With one coordinator, every state the engine reaches keeps its runs coherent (`Coherent`), and
a live run has its execution stored running (`LiveRunning`).
-/

namespace DeviceFleet.Job

def ExecutionStatus.Ended (s : ExecutionStatus) : Prop :=
  s = .stopped ∨ s = .completed

theorem ExecutionStatus.Ended.ne_running {s : ExecutionStatus} (h : s.Ended) : s ≠ .running := by
  rcases h with rfl | rfl <;> decide

theorem ExecutionStatus.Ended.ne_queued {s : ExecutionStatus} (h : s.Ended) : s ≠ .queued := by
  rcases h with rfl | rfl <;> decide

def Execution.Follows (e x : Execution) : Prop :=
  e.tenantId = x.tenantId ∧ e.jobId = x.jobId ∧ e.status ≠ .queued ∧
    (x.version < e.version ∨ x.version = e.version ∧ e.status = .running)

def Execution.Succeeds (e' e : Execution) : Prop :=
  e'.executionId = e.executionId ∧ e'.tenantId = e.tenantId ∧ e'.jobId = e.jobId ∧
    e.version < e'.version ∧ e'.status ≠ .queued

theorem Execution.Follows.succeeds {e e' x : Execution} (h : e.Follows x) (h' : e'.Succeeds e) :
    e'.Follows x := by
  obtain ⟨ht, hj, -, hv⟩ := h
  obtain ⟨-, ht', hj', hv', hq'⟩ := h'
  refine ⟨ht'.trans ht, hj'.trans hj, hq', .inl ?_⟩
  rcases hv with hv | ⟨hv, -⟩ <;> omega

def Execution.Since (cur e : Execution) (src : ExecutionStatus) : Prop :=
  cur.tenantId = e.tenantId ∧ cur.jobId = e.jobId ∧
    (e.version < cur.version ∨ e.version = cur.version ∧ cur.status = src)

theorem Execution.Since.succeeds {cur cur' e : Execution} {src : ExecutionStatus}
    (h : cur.Since e src) (h' : cur'.Succeeds cur) : cur'.Since e src := by
  obtain ⟨ht, hj, hv⟩ := h
  obtain ⟨-, ht', hj', hv', -⟩ := h'
  refine ⟨ht'.trans ht, hj'.trans hj, .inl ?_⟩
  rcases hv with hv | ⟨hv, -⟩ <;> omega

namespace ExecutionStore

variable {s : ExecutionStore} {e : Execution}

theorem Sound.find_of_mem (hs : Sound s) (he : e ∈ s.executions) :
    s.find e.tenantId e.jobId e.executionId = some e := by
  unfold find
  rw [List.find?_eq_some_iff_append]
  refine ⟨by simp, ?_⟩
  obtain ⟨pre, post, heq⟩ := List.append_of_mem (mem_list.mpr ⟨he, rfl, rfl⟩)
  refine ⟨pre, post, heq, fun y hy => ?_⟩
  -- an earlier record of the job with `e`'s id would be `e` itself, twice in the list
  have hy' : y ∈ s.list e.tenantId e.jobId := by rw [heq]; simp [hy]
  have hnd : (s.list e.tenantId e.jobId).Nodup :=
    (hs.ids_nodup.of_map _).sublist List.filter_sublist
  rw [heq] at hnd
  simp only [List.nodup_append, List.nodup_cons, List.mem_cons] at hnd
  have hne : y ≠ e := fun hye => (hnd.2.2 y hy e (.inl rfl)) hye
  simpa using fun hid => hne (hs.eq_of_id (mem_list.mp hy').1 he hid)

theorem ended_succeeds (cur : Execution) {st : ExecutionStatus} (h : st.Ended) (now : Int) :
    (ended cur st now).Succeeds cur :=
  ⟨rfl, rfl, rfl, Nat.lt_succ_self _, h.ne_queued⟩

theorem resumed_succeeds (cur : Execution) (n : String) (now : Int) :
    (resumed cur n now).Succeeds cur :=
  ⟨rfl, rfl, rfl, Nat.lt_succ_self _, by simp [resumed]⟩

theorem promoted_succeeds (cur : Execution) (n : String) (now : Int) :
    (promoted cur n now).Succeeds cur :=
  ⟨rfl, rfl, rfl, Nat.lt_succ_self _, by simp [promoted]⟩

end ExecutionStore

end DeviceFleet.Job

namespace DeviceFleet.Engine

open Job Events Store ExecutionStore

def Phase.isEnding : Phase → Bool
  | .ending _ => true
  | _ => false

theorem Phase.isEnding_eq_true {p : Phase} : p.isEnding = true ↔ ∃ st, p = .ending st := by
  cases p <;> simp [isEnding]

namespace Cluster

def Live (w : Cluster) (x : ExecTask) : Prop :=
  w.cancelled x = false ∧ x.phase.isEnding = false

def ReadAs (s : ExecutionStore) (e : Execution) (src : ExecutionStatus) : Prop :=
  ∀ cur ∈ s.executions, cur.executionId = e.executionId → cur.Since e src

def StopFollows (s : ExecutionStore) (i : Nat) (r : Execution) (qs : List Execution) : Prop :=
  i = 0 ∧ ReadAs s r .running ∧ ∀ q ∈ qs, ReadAs s q .queued

/-- What every state the engine reaches with one coordinator keeps about its runs. -/
structure Coherent (w : Cluster) : Prop where
  sound : w.executions.Sound
  tombstones : w.events.tombstones = []
  done : w.events.EndsDone
  ends : ∀ e ∈ w.executions.executions, ∀ v, endKey e.executionId v ∈ w.events.keys →
    v < e.version ∨ v = e.version ∧ e.status.Ended
  single : w.coordinators.length = 1
  numbered : w.TasksNumbered
  home : ∀ n x, (n, Task.execution x) ∈ w.tasks → x.coordinator = 0
  listed : ∀ n x, (n, Task.execution x) ∈ w.tasks → (w.coordinator 0).shutdown = false →
    (x.execution.executionId, n) ∈ (w.coordinator 0).running
  listed_once : ((w.coordinator 0).running.map (·.1)).Nodup
  listed_not_queued : ∀ p ∈ (w.coordinator 0).running, ∀ e ∈ w.executions.executions,
    e.executionId = p.1 → e.status ≠ .queued
  follows : ∀ n x, (n, Task.execution x) ∈ w.tasks → ∀ e ∈ w.executions.executions,
    e.executionId = x.execution.executionId → e.Follows x.execution
  ending : ∀ n x st, (n, Task.execution x) ∈ w.tasks → x.phase = .ending st → st.Ended
  stops : ∀ n i c r qs, (n, Task.stopping i c r qs) ∈ w.tasks → StopFollows w.executions i r qs

def LiveRunning (w : Cluster) : Prop :=
  ∀ n x, (n, Task.execution x) ∈ w.tasks → w.Live x →
    ∃ e ∈ w.executions.executions, e.executionId = x.execution.executionId ∧ e.status = .running

variable {w w' : Cluster}

theorem coordinator_eq_of (h : w'.coordinators = w.coordinators) (i : Nat) :
    w'.coordinator i = w.coordinator i := by
  simp [coordinator, h]

theorem cancelled_eq_of (h : w'.coordinators = w.coordinators) (x : ExecTask) :
    w'.cancelled x = w.cancelled x := by
  simp [cancelled, coordinator_eq_of h]

theorem live_iff_of (h : w'.coordinators = w.coordinators) (x : ExecTask) :
    w'.Live x ↔ w.Live x := by
  simp [Live, cancelled_eq_of h]

theorem current_eq (h : w.coordinators.length = 1) : w.current = w.coordinator 0 := by
  obtain ⟨c, hc⟩ := List.length_eq_one_iff.mp h
  simp [current, coordinator, hc]

theorem currentIndex_eq (h : w.coordinators.length = 1) : w.currentIndex = 0 := by
  simp [currentIndex, h]

theorem coordinators_eq_single (h : w.coordinators.length = 1) :
    w.coordinators = [w.coordinator 0] := by
  obtain ⟨c, hc⟩ := List.length_eq_one_iff.mp h
  simp [coordinator, hc]

theorem coordinators_mapCoordinator (h : w.coordinators.length = 1)
    (f : Coordinator → Coordinator) : (w.mapCoordinator 0 f).coordinators = [f (w.coordinator 0)] := by
  unfold mapCoordinator
  rw [coordinators_eq_single h]
  rfl

theorem coordinator_mapCoordinator (h : w.coordinators.length = 1)
    (f : Coordinator → Coordinator) : (w.mapCoordinator 0 f).coordinator 0 = f (w.coordinator 0) := by
  simp [coordinator, coordinators_mapCoordinator h]

theorem cancelled_of_home {x : ExecTask} (hx : x.coordinator = 0) :
    w.cancelled x = (x.cancelled || (w.coordinator 0).shutdown) := by
  simp [cancelled, hx]

theorem TasksNumbered.spawn (h : w.TasksNumbered) (t : Task) : (w.spawn t).2.TasksNumbered := by
  obtain ⟨hn, hlt⟩ := h
  refine ⟨?_, fun p hp => ?_⟩
  · show ((w.tasks ++ [(w.nextTask, t)]).map (·.1)).Nodup
    simp only [List.map_append, List.map_cons, List.map_nil]
    refine List.nodup_append.mpr ⟨hn, List.nodup_singleton _, ?_⟩
    simp only [List.mem_singleton, List.mem_map]
    rintro a ⟨p, hp, rfl⟩ _ h
    have := hlt p hp
    omega
  · change p ∈ w.tasks ++ [(w.nextTask, t)] at hp
    show p.1 < w.nextTask + 1
    simp only [List.mem_append, List.mem_singleton] at hp
    rcases hp with hp | rfl
    · exact Nat.lt_succ_of_lt (hlt p hp)
    · exact Nat.lt_succ_self _

theorem Coherent.initial (now : Int) (seed : UInt64) (config : EngineConfig) :
    Coherent (Cluster.initial now seed config) where
  sound := sound_empty
  tombstones := rfl
  done _ h := absurd h List.not_mem_nil
  ends _ h := absurd h List.not_mem_nil
  single := rfl
  numbered := ⟨List.nodup_nil, fun _ h => absurd h List.not_mem_nil⟩
  home _ _ h := absurd h List.not_mem_nil
  listed _ _ h := absurd h List.not_mem_nil
  listed_once := List.nodup_nil
  listed_not_queued _ h := absurd h List.not_mem_nil
  follows _ _ h := absurd h List.not_mem_nil
  ending _ _ _ h := absurd h List.not_mem_nil
  stops _ _ _ _ _ h := absurd h List.not_mem_nil

theorem LiveRunning.initial (now : Int) (seed : UInt64) (config : EngineConfig) :
    LiveRunning (Cluster.initial now seed config) :=
  fun _ _ h => absurd h List.not_mem_nil

/-! ### Work that leaves the runs alone -/

theorem Coherent.of_keepsRuns (hc : Coherent w) (hk : KeepsRuns w w') : Coherent w' := by
  have hco := coordinator_eq_of hk.coordinators 0
  have hx := hk.executions
  have hr := hk.tasks.runs
  refine ⟨hx ▸ hc.sound, hk.events.tombstones.trans hc.tombstones, hk.events.done hc.done,
    fun e he v hv => ?_,
    hk.coordinators ▸ hc.single, hk.tasks.numbered hc.numbered, fun n x h => hc.home n x ((hr n x).mp h),
    fun n x h hs => ?_, hco ▸ hc.listed_once, fun p hp e he => ?_,
    fun n x h e he => hc.follows n x ((hr n x).mp h) e (hx ▸ he),
    fun n x st h => hc.ending n x st ((hr n x).mp h),
    fun n i c r qs h => hx ▸ hc.stops n i c r qs ((hk.tasks.stops n i c r qs).mp h)⟩
  · exact hc.ends e (hx ▸ he) v ((hk.events.ends _ v).mp hv)
  · rw [hco] at hs ⊢
    exact hc.listed n x ((hr n x).mp h) hs
  · rw [hco] at hp
    exact hc.listed_not_queued p hp e (hx ▸ he)

theorem LiveRunning.of_keepsRuns (hl : LiveRunning w) (hk : KeepsRuns w w') : LiveRunning w' := by
  intro n x h hx
  rw [hk.executions]
  exact hl n x ((hk.tasks.runs n x).mp h) ((live_iff_of hk.coordinators x).mp hx)

/-! ### Writing the execution store -/

/-- An id nothing in the engine has used: no stored execution, run, listing, recorded end or
stop in flight has it. -/
def Unused (w : Cluster) (u : Uuid) : Prop :=
  (∀ e ∈ w.executions.executions, e.executionId ≠ u) ∧
    (∀ n x, (n, Task.execution x) ∈ w.tasks → x.execution.executionId ≠ u) ∧
    (∀ p ∈ (w.coordinator 0).running, p.1 ≠ u) ∧ (∀ v, endKey u v ∉ w.events.keys) ∧
    ∀ n i c r qs, (n, Task.stopping i c r qs) ∈ w.tasks →
      r.executionId ≠ u ∧ ∀ q ∈ qs, q.executionId ≠ u

theorem ReadAs.of_records {s s' : ExecutionStore} {e : Execution} {src : ExecutionStatus}
    (h : ReadAs s e src)
    (hrec : ∀ y ∈ s'.executions, y.executionId = e.executionId →
      y ∈ s.executions ∨ ∃ x ∈ s.executions, y.Succeeds x) : ReadAs s' e src := by
  intro y hy hid
  rcases hrec y hy hid with hy | ⟨x, hx, hsu⟩
  · exact h y hy hid
  · exact (h x hx (hsu.1.symm.trans hid)).succeeds hsu

/-- A new store of executions keeps the runs coherent when each of its records was stored
before, is a later record of one stored before, or is under an unused id, and the recorded ends
stay below the versions. -/
theorem Coherent.of_records (hc : Coherent w) (hs : w'.executions.Sound)
    (hts : w'.events.tombstones = w.events.tombstones) (hdone : w'.events.EndsDone)
    (hco : w'.coordinators = w.coordinators) (ht : TasksKept w w')
    (hrec : ∀ y ∈ w'.executions.executions, y ∈ w.executions.executions ∨
      (∃ x ∈ w.executions.executions, y.Succeeds x) ∨ w.Unused y.executionId)
    (hends : ∀ y ∈ w'.executions.executions, ∀ v, endKey y.executionId v ∈ w'.events.keys →
      v < y.version ∨ v = y.version ∧ y.status.Ended) : Coherent w' := by
  have hc0 := coordinator_eq_of hco 0
  have hr := ht.runs
  refine ⟨hs, hts.trans hc.tombstones, hdone, hends, hco ▸ hc.single, ht.numbered hc.numbered,
    fun n x h => hc.home n x ((hr n x).mp h), fun n x h hsd => ?_, hc0 ▸ hc.listed_once,
    fun p hp y hy hid => ?_, fun n x h y hy hid => ?_, fun n x st h => hc.ending n x st ((hr n x).mp h),
    fun n i c r qs h => ?_⟩
  · rw [hc0] at hsd ⊢
    exact hc.listed n x ((hr n x).mp h) hsd
  · rw [hc0] at hp
    rcases hrec y hy with hy | ⟨y₀, hy₀, hsu⟩ | ⟨-, -, hun, -⟩
    · exact hc.listed_not_queued p hp y hy hid
    · exact hsu.2.2.2.2
    · exact absurd hid.symm (hun p hp)
  · have hx := (hr n x).mp h
    rcases hrec y hy with hy | ⟨y₀, hy₀, hsu⟩ | ⟨-, hun, -, -⟩
    · exact hc.follows n x hx y hy hid
    · exact (hc.follows n x hx y₀ hy₀ (hsu.1.symm.trans hid)).succeeds hsu
    · exact absurd hid.symm (hun n x hx)
  · have hm := (ht.stops n i c r qs).mp h
    obtain ⟨hi, hrs, hqs⟩ := hc.stops n i c r qs hm
    have kept : ∀ e : Execution, (e = r ∨ e ∈ qs) → ∀ y ∈ w'.executions.executions,
        y.executionId = e.executionId →
        y ∈ w.executions.executions ∨ ∃ x ∈ w.executions.executions, y.Succeeds x := by
      intro e he y hy hid
      rcases hrec y hy with hy | hsu | ⟨-, -, -, -, hun⟩
      · exact .inl hy
      · exact .inr hsu
      · rcases he with rfl | he
        · exact absurd hid.symm (hun n i c e qs hm).1
        · exact absurd hid.symm ((hun n i c r qs hm).2 e he)
    exact ⟨hi, hrs.of_records (kept r (.inl rfl)), fun q hq => (hqs q hq).of_records (kept q (.inr hq))⟩

theorem Coherent.ends_of_records (hc : Coherent w)
    (hkeys : ∀ u v, endKey u v ∈ w'.events.keys ↔ endKey u v ∈ w.events.keys)
    (hrec : ∀ y ∈ w'.executions.executions, y ∈ w.executions.executions ∨
      (∃ x ∈ w.executions.executions, y.Succeeds x) ∨ w.Unused y.executionId) :
    ∀ y ∈ w'.executions.executions, ∀ v, endKey y.executionId v ∈ w'.events.keys →
      v < y.version ∨ v = y.version ∧ y.status.Ended := by
  intro y hy v hv
  rw [hkeys] at hv
  rcases hrec y hy with hy | ⟨x, hx, hid, -, -, hlt, -⟩ | ⟨-, -, -, hun, -⟩
  · exact hc.ends y hy v hv
  · rw [hid] at hv
    have h := hc.ends x hx v hv
    left
    rcases h with h | ⟨h, -⟩ <;> omega
  · exact absurd hv (hun v)

/-! ### Ending an execution -/

/-- Ending an execution keeps the runs coherent when the end is of a run's snapshot or of the
stored record: of the execution's job, and at the stored version only while its status is
`src`. -/
theorem Coherent.endExecution {node : String} {e : Execution} {src tgt : ExecutionStatus}
    (hc : Coherent w) (htgt : tgt.Ended)
    (hpre : ∀ cur ∈ w.executions.executions, cur.executionId = e.executionId →
      cur.tenantId = e.tenantId ∧ cur.jobId = e.jobId ∧
        (e.version < cur.version ∨ e.version = cur.version ∧ cur.status = src)) :
    Coherent (w.endExecution node e src tgt).2 := by
  have hdone : (w.endExecution node e src tgt).2.events.EndsDone :=
    (endExecution_ok hc.done hc.sound htgt.ne_running hc.tombstones).2
  generalize hw' : (w.endExecution node e src tgt).2 = w' at hdone
  obtain ⟨fr, hx⟩ := endExecution_cases hc.sound htgt.ne_running hw'
  -- a stored record of `e`'s execution that is not in status `src` is past `e`'s version
  have past : ∀ cur ∈ w.executions.executions, cur.executionId = e.executionId →
      cur.status ≠ src → e.version < cur.version := by
    intro cur hcur hid hst
    rcases (hpre cur hcur hid).2.2 with h | ⟨-, h⟩
    · exact h
    · exact absurd h hst
  rcases hx with ⟨hx, hkey⟩ | ⟨cur, hf, hst, hx⟩
  · refine hc.of_records (hx ▸ hc.sound) fr.tombstones hdone fr.coordinators fr.tasks
      (fun y hy => .inl (hx ▸ hy)) fun y hy v hv => ?_
    rw [hx] at hy
    rcases fr.ends _ v hv with hv | ⟨hid, rfl⟩
    · exact hc.ends y hy v hv
    · rcases hkey with hk | hk | hk
      · exact hc.ends y hy _ (hid ▸ hk)
      · simp [EventStore.isTombstoned, hc.tombstones] at hk
      · obtain ⟨ht, hj, -⟩ := hpre y hy hid
        have hfy := hc.sound.find_of_mem hy
        rw [ht, hj, hid] at hfy
        exact .inl (past y hy hid (hk y hfy))
  · obtain ⟨hcur, -, -, hid⟩ := mem_of_find hf
    have hrec : ∀ y ∈ w'.executions.executions, y ∈ w.executions.executions ∨
        (∃ x ∈ w.executions.executions, y.Succeeds x) ∨ w.Unused y.executionId := by
      intro y hy
      rw [hx] at hy
      rcases mem_put hy with rfl | ⟨hy, -⟩
      · exact .inr (.inl ⟨cur, hcur, ended_succeeds cur htgt w.nowMs⟩)
      · exact .inl hy
    refine hc.of_records (hx ▸ hc.sound.put fun h => absurd h htgt.ne_running) fr.tombstones hdone
      fr.coordinators fr.tasks hrec fun y hy v hv => ?_
    rw [hx] at hy
    rcases mem_put hy with rfl | ⟨hy, hne⟩
    · -- the ended record is one version past every end recorded for it, its own included
      left
      rcases fr.ends _ v hv with hv | ⟨-, rfl⟩
      · rcases hc.ends cur hcur v hv with h | ⟨h, -⟩
        · exact Nat.lt_succ_of_lt h
        · exact h ▸ Nat.lt_succ_self _
      · rcases (hpre cur hcur hid).2.2 with h | ⟨h, -⟩
        · exact Nat.lt_succ_of_lt h
        · exact h ▸ Nat.lt_succ_self _
    · rcases fr.ends _ v hv with hv | ⟨hyid, -⟩
      · exact hc.ends y hy v hv
      · exact absurd (hyid.trans hid.symm) hne

/-! ### Launching, replacing and retiring runs -/

def launched (j : Job) (e : Execution) (fresh : Bool) : ExecTask :=
  { coordinator := 0, job := j, execution := e, fresh }

theorem launch_eq (w : Cluster) (j : Job) (e : Execution) (fresh : Bool) :
    w.launch 0 j e fresh =
      { w with tasks := w.tasks ++ [(w.nextTask, .execution (launched j e fresh))],
               nextTask := w.nextTask + 1,
               coordinators := w.coordinators.modify 0 fun c =>
                 { c with running := c.running ++ [(e.executionId, w.nextTask)] } } :=
  rfl

theorem mem_launch_tasks {j : Job} {e : Execution} {fresh : Bool} {n : Nat} {x : ExecTask} :
    (n, Task.execution x) ∈ (w.launch 0 j e fresh).tasks ↔
      (n, Task.execution x) ∈ w.tasks ∨ n = w.nextTask ∧ x = launched j e fresh := by
  rw [launch_eq]
  simp

theorem mem_launch_stops {j : Job} {e : Execution} {fresh : Bool} {n i c : Nat} {r : Execution}
    {qs : List Execution} :
    (n, Task.stopping i c r qs) ∈ (w.launch 0 j e fresh).tasks ↔
      (n, Task.stopping i c r qs) ∈ w.tasks := by
  rw [launch_eq]
  simp

/-- Launching a run of a stored running execution that the coordinator does not list keeps the
runs coherent. -/
theorem Coherent.launch (hc : Coherent w) {e : Execution} (he : e ∈ w.executions.executions)
    (hrun : e.status = .running) (hnot : e.executionId ∉ (w.coordinator 0).running.map (·.1))
    (j : Job) (fresh : Bool) : Coherent (w.launch 0 j e fresh) := by
  have hc0 : (w.launch 0 j e fresh).coordinator 0 =
      { w.coordinator 0 with running := (w.coordinator 0).running ++ [(e.executionId, w.nextTask)] } :=
    coordinator_mapCoordinator hc.single _
  have hself : ∀ y ∈ w.executions.executions, y.executionId = e.executionId → y = e :=
    fun y hy hid => hc.sound.eq_of_id hy he hid
  refine ⟨hc.sound, hc.tombstones, hc.done, hc.ends, by simp [launch_eq, hc.single],
    hc.numbered.spawn _, fun n x h => ?_, fun n x h hs => ?_, ?_, fun p hp y hy hid => ?_,
    fun n x h y hy hid => ?_, fun n x st h hp => ?_, fun n i c r qs h => ?_⟩
  · rcases mem_launch_tasks.mp h with h | ⟨-, rfl⟩
    · exact hc.home n x h
    · rfl
  · rw [hc0] at hs ⊢
    rcases mem_launch_tasks.mp h with h | ⟨rfl, rfl⟩
    · exact List.mem_append_left _ (hc.listed n x h hs)
    · exact List.mem_append_right _ (List.mem_singleton_self _)
  · rw [hc0]
    simp only [List.map_append, List.map_cons, List.map_nil]
    exact List.nodup_append.mpr ⟨hc.listed_once, List.nodup_singleton _,
      fun a ha b hb hab => hnot (by rw [List.mem_singleton.mp hb] at hab; exact hab ▸ ha)⟩
  · rw [hc0] at hp
    rcases List.mem_append.mp hp with hp | hp
    · exact hc.listed_not_queued p hp y hy hid
    · rw [List.mem_singleton.mp hp] at hid
      rw [hself y hy hid, hrun]
      decide
  · rcases mem_launch_tasks.mp h with h | ⟨-, rfl⟩
    · exact hc.follows n x h y hy hid
    · rw [hself y hy hid]
      exact ⟨rfl, rfl, by rw [hrun]; decide, .inr ⟨rfl, hrun⟩⟩
  · rcases mem_launch_tasks.mp h with h | ⟨-, rfl⟩
    · exact hc.ending n x st h hp
    · cases hp
  · exact hc.stops n i c r qs (mem_launch_stops.mp h)

/-- A change of the runs alone keeps them coherent when every run it leaves was a run before,
under its number, of the same execution by the same coordinator, and ends only with an end
status. -/
theorem Coherent.of_runs {w' : Cluster} (hc : Coherent w) (hx : w'.executions = w.executions)
    (he : w'.events = w.events) (hco : w'.coordinators = w.coordinators) (hnum : w'.TasksNumbered)
    (hruns : ∀ m y, (m, Task.execution y) ∈ w'.tasks → ∃ x, (m, Task.execution x) ∈ w.tasks ∧
      y.execution = x.execution ∧ y.coordinator = x.coordinator ∧
      ∀ st, y.phase = .ending st → st.Ended)
    (hstops : ∀ m i c r qs, (m, Task.stopping i c r qs) ∈ w'.tasks →
      StopFollows w.executions i r qs) : Coherent w' := by
  have hc0 := coordinator_eq_of hco 0
  refine ⟨hx ▸ hc.sound, he ▸ hc.tombstones, he ▸ hc.done, hx ▸ he ▸ hc.ends, hco ▸ hc.single,
    hnum,
    fun m y h => ?_, fun m y h hs => ?_, hc0 ▸ hc.listed_once, fun p hp e he' => ?_,
    fun m y h e he' hid => ?_, fun m y st h => (hruns m y h).choose_spec.2.2.2 st,
    fun m i c r qs h => hx ▸ hstops m i c r qs h⟩
  · obtain ⟨x, hx', -, hco', -⟩ := hruns m y h
    exact hco'.trans (hc.home m x hx')
  · obtain ⟨x, hx', hex, -, -⟩ := hruns m y h
    rw [hc0] at hs ⊢
    rw [hex]
    exact hc.listed m x hx' hs
  · rw [hc0] at hp
    exact hc.listed_not_queued p hp e (hx ▸ he')
  · obtain ⟨x, hx', hex, -, -⟩ := hruns m y h
    rw [hex] at hid ⊢
    exact hc.follows m x hx' e (hx ▸ he') hid

theorem LiveRunning.of_runs {w' : Cluster} (hl : LiveRunning w) (hx : w'.executions = w.executions)
    (hlive : ∀ m y, (m, Task.execution y) ∈ w'.tasks → w'.Live y →
      ∃ x, (m, Task.execution x) ∈ w.tasks ∧ x.execution = y.execution ∧ w.Live x) :
    LiveRunning w' := by
  intro m y h hy
  obtain ⟨x, hx', hex, hlx⟩ := hlive m y h hy
  rw [hx, ← hex]
  exact hl m x hx' hlx

theorem removeTask_numbered (h : w.TasksNumbered) (n : Nat) : (w.removeTask n).TasksNumbered :=
  ⟨(List.filter_sublist.map _).nodup h.1, fun p hp => h.2 p (List.mem_filter.mp hp).1⟩

theorem Coherent.removeTask (hc : Coherent w) (n : Nat) : Coherent (w.removeTask n) :=
  hc.of_runs rfl rfl rfl (removeTask_numbered hc.numbered n)
    (fun m y h =>
      have h' := (List.mem_filter.mp h).1
      ⟨y, h', rfl, rfl, fun st hp => hc.ending m y st h' hp⟩)
    fun m i c r qs h => hc.stops m i c r qs (List.mem_filter.mp h).1

theorem LiveRunning.removeTask (hl : LiveRunning w) (n : Nat) : LiveRunning (w.removeTask n) :=
  hl.of_runs rfl fun _ y h hy => ⟨y, (List.mem_filter.mp h).1, rfl, hy⟩

theorem replaceTask_numbers (n : Nat) (t : Task) :
    (w.replaceTask n t).tasks.map (·.1) = w.tasks.map (·.1) := by
  simp only [replaceTask, List.map_map]
  apply List.map_congr_left
  intro p _
  simp only [Function.comp_apply]
  split <;> rfl

theorem mem_replaceTask {n m : Nat} {t u : Task} (h : (m, u) ∈ (w.replaceTask n t).tasks) :
    m = n ∧ u = t ∨ m ≠ n ∧ (m, u) ∈ w.tasks := by
  simp only [replaceTask, List.mem_map] at h
  obtain ⟨⟨m', u'⟩, hp, he⟩ := h
  by_cases hm : m' = n
  · subst hm
    simp only [beq_self_eq_true, if_true, Prod.mk.injEq] at he
    exact .inl ⟨he.1.symm, he.2.symm⟩
  · rw [if_neg (by simpa using hm), Prod.mk.injEq] at he
    obtain ⟨rfl, rfl⟩ := he
    exact .inr ⟨hm, hp⟩

theorem replaceTask_numbered (h : w.TasksNumbered) (n : Nat) (t : Task) :
    (w.replaceTask n t).TasksNumbered := by
  refine ⟨(replaceTask_numbers n t).symm ▸ h.1, fun p hp => ?_⟩
  have hp' : p.1 ∈ (w.replaceTask n t).tasks.map (·.1) := List.mem_map_of_mem hp
  rw [replaceTask_numbers] at hp'
  obtain ⟨q, hq, hqe⟩ := List.mem_map.mp hp'
  exact hqe ▸ h.2 q hq

theorem Coherent.replaceTask (hc : Coherent w) {n : Nat} {x x' : ExecTask}
    (hxn : (n, Task.execution x) ∈ w.tasks) (hex : x'.execution = x.execution)
    (hco : x'.coordinator = x.coordinator) (hend : ∀ st, x'.phase = .ending st → st.Ended) :
    Coherent (w.replaceTask n (.execution x')) := by
  refine hc.of_runs rfl rfl rfl (replaceTask_numbered hc.numbered n _) (fun m y h => ?_)
    fun m i c r qs h => ?_
  · rcases mem_replaceTask h with ⟨rfl, hy⟩ | ⟨-, hy⟩
    · cases hy
      exact ⟨x, hxn, hex, hco, hend⟩
    · exact ⟨y, hy, rfl, rfl, fun st hp => hc.ending m y st hy hp⟩
  · rcases mem_replaceTask h with ⟨-, hy⟩ | ⟨-, hy⟩
    · cases hy
    · exact hc.stops m i c r qs hy

theorem LiveRunning.replaceTask (hl : LiveRunning w) {n : Nat} {x x' : ExecTask}
    (hxn : (n, Task.execution x) ∈ w.tasks) (hex : x'.execution = x.execution)
    (hlive : w.Live x' → w.Live x) : LiveRunning (w.replaceTask n (.execution x')) := by
  refine hl.of_runs rfl fun m y h hy => ?_
  rcases mem_replaceTask h with ⟨rfl, hy'⟩ | ⟨-, hy'⟩
  · cases hy'
    exact ⟨x, hxn, hex.symm, hlive hy⟩
  · exact ⟨y, hy', rfl, hy⟩

theorem cancelled_mapCoordinator (h : w.coordinators.length = 1) {f : Coordinator → Coordinator}
    (hf : ∀ c, (f c).shutdown = c.shutdown) (x : ExecTask) :
    (w.mapCoordinator 0 f).cancelled x = w.cancelled x := by
  simp only [cancelled, coordinator, coordinators_mapCoordinator h]
  rw [coordinators_eq_single h]
  cases x.coordinator <;> simp [hf]

theorem LiveRunning.launch (hl : LiveRunning w) (hc : Coherent w) {e : Execution}
    (he : e ∈ w.executions.executions) (hrun : e.status = .running) (j : Job) (fresh : Bool) :
    LiveRunning (w.launch 0 j e fresh) := by
  have hco : ∀ x : ExecTask, (w.launch 0 j e fresh).cancelled x = w.cancelled x :=
    cancelled_mapCoordinator (w := (w.spawn _).2) hc.single (fun _ => rfl)
  intro n x h hx
  rcases mem_launch_tasks.mp h with h | ⟨-, rfl⟩
  · exact hl n x h ⟨(hco x).symm.trans hx.1, hx.2⟩
  · exact ⟨e, he, rfl, hrun⟩

/-! ### Stopping, retiring and shutting down -/

def cancelRun (w : Cluster) (k : Nat) : Cluster :=
  { w with tasks := w.tasks.map fun (n, t) =>
      if n == k then
        (n, match t with
          | .execution x => .execution { x with cancelled := true }
          | other => other)
      else (n, t) }

theorem stopExecution_eq (w : Cluster) (i : Nat) (e : Execution) :
    w.stopExecution i e =
      match w.endExecution (w.coordinator i).config.nodeId e .running .stopped with
      | (.error err, w) => (.error err, w)
      | (.ok (), w) =>
        match (w.coordinator i).running.lookup e.executionId with
        | none => (.ok (), w)
        | some task => (.ok (), w.cancelRun task) :=
  rfl

theorem mem_cancelRun {k m : Nat} {y : ExecTask}
    (h : (m, Task.execution y) ∈ (w.cancelRun k).tasks) :
    ∃ x, (m, Task.execution x) ∈ w.tasks ∧
      (m = k ∧ y = { x with cancelled := true } ∨ m ≠ k ∧ y = x) := by
  simp only [cancelRun, List.mem_map] at h
  obtain ⟨⟨m', t⟩, hp, he⟩ := h
  by_cases hm : m' = k
  · subst hm
    simp only [beq_self_eq_true, if_true, Prod.mk.injEq] at he
    obtain ⟨rfl, he⟩ := he
    cases t with
    | execution x => exact ⟨x, hp, .inl ⟨rfl, (Task.execution.inj he).symm⟩⟩
    | delivery _ => cases he
    | sendCall _ _ => cases he
    | observeCall _ _ => cases he
    | stopping _ _ _ _ => cases he
  · rw [if_neg (by simpa using hm), Prod.mk.injEq] at he
    obtain ⟨rfl, rfl⟩ := he
    exact ⟨y, hp, .inr ⟨hm, rfl⟩⟩

theorem mem_cancelRun_stops {k m i c : Nat} {r : Execution} {qs : List Execution}
    (h : (m, Task.stopping i c r qs) ∈ (w.cancelRun k).tasks) :
    (m, Task.stopping i c r qs) ∈ w.tasks := by
  simp only [cancelRun, List.mem_map] at h
  obtain ⟨⟨m', t⟩, hp, he⟩ := h
  split at he
  · rw [Prod.mk.injEq] at he
    obtain ⟨rfl, he⟩ := he
    cases t <;> cases he
    exact hp
  · rw [Prod.mk.injEq] at he
    obtain ⟨rfl, rfl⟩ := he
    exact hp

theorem cancelRun_numbers (k : Nat) : (w.cancelRun k).tasks.map (·.1) = w.tasks.map (·.1) := by
  simp only [cancelRun, List.map_map]
  apply List.map_congr_left
  intro p _
  simp only [Function.comp_apply]
  split <;> rfl

theorem Coherent.cancelRun (hc : Coherent w) (k : Nat) : Coherent (w.cancelRun k) := by
  refine hc.of_runs rfl rfl rfl ⟨(cancelRun_numbers k).symm ▸ hc.numbered.1, fun p hp => ?_⟩
    (fun m y h => ?_) fun m i c r qs h => hc.stops m i c r qs (mem_cancelRun_stops h)
  · have hp' : p.1 ∈ (w.cancelRun k).tasks.map (·.1) := List.mem_map_of_mem hp
    rw [cancelRun_numbers] at hp'
    obtain ⟨q, hq, hqe⟩ := List.mem_map.mp hp'
    exact hqe ▸ hc.numbered.2 q hq
  · obtain ⟨x, hx, ⟨-, rfl⟩ | ⟨-, rfl⟩⟩ := mem_cancelRun h
    · exact ⟨x, hx, rfl, rfl, fun st hp => hc.ending m x st hx hp⟩
    · exact ⟨y, hx, rfl, rfl, fun st hp => hc.ending m y st hx hp⟩

theorem LiveRunning.cancelRun_of {k : Nat}
    (hk : ∀ m y, (m, Task.execution y) ∈ w.tasks → w.Live y → m ≠ k →
      ∃ e ∈ w.executions.executions, e.executionId = y.execution.executionId ∧
        e.status = .running) : LiveRunning (w.cancelRun k) := by
  intro m y h hy
  obtain ⟨x, hx, ⟨hm, rfl⟩ | ⟨hm, rfl⟩⟩ := mem_cancelRun h
  · simp [Live, cancelled, cancelRun] at hy
  · exact hk m y hx hy hm

theorem mem_spawn {n : Nat} {t u : Task} :
    (n, u) ∈ (w.spawn_ t).tasks ↔ (n, u) ∈ w.tasks ∨ n = w.nextTask ∧ u = t := by
  simp [spawn_, spawn]

theorem Coherent.spawnStop (hc : Coherent w) {c : Nat} {r : Execution} {qs : List Execution}
    (hs : StopFollows w.executions 0 r qs) : Coherent (w.spawn_ (.stopping 0 c r qs)) := by
  refine hc.of_runs rfl rfl rfl (hc.numbered.spawn _) (fun m y h => ?_) fun m i c' r' qs' h => ?_
  · rcases mem_spawn.mp h with h | ⟨-, h⟩
    · exact ⟨y, h, rfl, rfl, fun st hp => hc.ending m y st h hp⟩
    · cases h
  · rcases mem_spawn.mp h with h | ⟨-, h⟩
    · exact hc.stops m i c' r' qs' h
    · cases h
      exact hs

theorem LiveRunning.spawnStop (hl : LiveRunning w) {i c : Nat} {r : Execution}
    {qs : List Execution} : LiveRunning (w.spawn_ (.stopping i c r qs)) := by
  refine hl.of_runs rfl fun m y h hy => ?_
  rcases mem_spawn.mp h with h | ⟨-, h⟩
  · exact ⟨y, h, rfl, hy⟩
  · cases h

theorem Coherent.replaceStop (hc : Coherent w) {n i c : Nat} {r q : Execution}
    {qs : List Execution} (h : (n, Task.stopping i c r (q :: qs)) ∈ w.tasks) :
    Coherent (w.replaceTask n (.stopping i c r qs)) := by
  refine hc.of_runs rfl rfl rfl (replaceTask_numbered hc.numbered n _) (fun m y hy => ?_)
    fun m i' c' r' qs' hy => ?_
  · rcases mem_replaceTask hy with ⟨-, hy⟩ | ⟨-, hy⟩
    · cases hy
    · exact ⟨y, hy, rfl, rfl, fun st hp => hc.ending m y st hy hp⟩
  · rcases mem_replaceTask hy with ⟨-, hy⟩ | ⟨-, hy⟩
    · cases hy
      obtain ⟨hi, hr, hq⟩ := hc.stops n i c r (q :: qs) h
      exact ⟨hi, hr, fun q' hq' => hq q' (List.mem_cons_of_mem _ hq')⟩
    · exact hc.stops m i' c' r' qs' hy

theorem LiveRunning.replaceStop (hl : LiveRunning w) {n i c : Nat} {r : Execution}
    {qs : List Execution} : LiveRunning (w.replaceTask n (.stopping i c r qs)) := by
  refine hl.of_runs rfl fun m y h hy => ?_
  rcases mem_replaceTask h with ⟨-, h⟩ | ⟨-, h⟩
  · cases h
  · exact ⟨y, h, rfl, hy⟩

theorem Coherent.listed_eq (hc : Coherent w) {u : Uuid} {n m : Nat}
    (hn : (u, n) ∈ (w.coordinator 0).running) (hm : (u, m) ∈ (w.coordinator 0).running) :
    n = m :=
  (Prod.mk.inj (List.inj_on_of_nodup_map hc.listed_once hn hm rfl)).2

def unlist (u : Uuid) (c : Coordinator) : Coordinator :=
  { c with running := c.running.filter (·.1 != u) }

theorem Coherent.retire (hc : Coherent w) {n : Nat} {x : ExecTask}
    (hxn : (n, Task.execution x) ∈ w.tasks) :
    Coherent ((w.mapCoordinator 0 (unlist x.execution.executionId)).removeTask n) := by
  have hc0 : ((w.mapCoordinator 0 (unlist x.execution.executionId)).removeTask n).coordinator 0 =
      unlist x.execution.executionId (w.coordinator 0) :=
    coordinator_mapCoordinator hc.single _
  have hmem : ∀ m y, (m, Task.execution y) ∈
      ((w.mapCoordinator 0 (unlist x.execution.executionId)).removeTask n).tasks →
      m ≠ n ∧ (m, Task.execution y) ∈ w.tasks := fun m y h => by
    have h' := List.mem_filter.mp h
    exact ⟨by simpa using h'.2, h'.1⟩
  refine ⟨hc.sound, hc.tombstones, hc.done, hc.ends, (List.length_modify _ _ _).trans hc.single,
    removeTask_numbered hc.numbered n, fun m y h => hc.home m y (hmem m y h).2,
    fun m y h hs => ?_, ?_, fun p hp e he hid => ?_, fun m y h => hc.follows m y (hmem m y h).2,
    fun m y st h => hc.ending m y st (hmem m y h).2,
    fun m i c r qs h => hc.stops m i c r qs (List.mem_filter.mp h).1⟩
  · rw [hc0] at hs ⊢
    obtain ⟨hmn, hy⟩ := hmem m y h
    have hl := hc.listed m y hy hs
    refine List.mem_filter.mpr ⟨hl, ?_⟩
    simp only [bne_iff_ne, ne_eq]
    intro hid
    rw [hid] at hl
    exact hmn (hc.listed_eq hl (hc.listed n x hxn hs))
  · rw [hc0]
    exact (List.filter_sublist.map _).nodup hc.listed_once
  · rw [hc0] at hp
    exact hc.listed_not_queued p (List.mem_filter.mp hp).1 e he hid

theorem LiveRunning.retire (hl : LiveRunning w) (hc : Coherent w) (u : Uuid) (n : Nat) :
    LiveRunning ((w.mapCoordinator 0 (unlist u)).removeTask n) := by
  intro m y h hy
  have hco := cancelled_mapCoordinator (f := unlist u) hc.single (fun _ => rfl) y
  exact hl m y (List.mem_filter.mp h).1 ⟨hco ▸ hy.1, hy.2⟩

def halted (c : Coordinator) : Coordinator :=
  { c with shutdown := true, running := [] }

theorem Coherent.halt (hc : Coherent w) : Coherent (w.mapCoordinator 0 halted) := by
  have hc0 : (w.mapCoordinator 0 halted).coordinator 0 = halted (w.coordinator 0) :=
    coordinator_mapCoordinator hc.single _
  refine ⟨hc.sound, hc.tombstones, hc.done, hc.ends, (List.length_modify _ _ _).trans hc.single,
    hc.numbered, hc.home, fun m y _ hs => ?_, ?_, fun p hp => ?_, hc.follows, hc.ending, hc.stops⟩
  · rw [hc0] at hs
    cases hs
  · rw [hc0]
    exact List.nodup_nil
  · rw [hc0] at hp
    cases hp

theorem LiveRunning.halt (hc : Coherent w) : LiveRunning (w.mapCoordinator 0 halted) := by
  intro m y h hy
  have hc0 : (w.mapCoordinator 0 halted).coordinator 0 = halted (w.coordinator 0) :=
    coordinator_mapCoordinator hc.single _
  have hco := cancelled_of_home (w := w.mapCoordinator 0 halted) (hc.home m y h)
  rw [hc0] at hco
  simp [halted] at hco
  rw [hy.1] at hco
  cases hco

theorem LiveRunning.of_records {w' : Cluster} (hl : LiveRunning w) (ht : w'.tasks = w.tasks)
    (hco : w'.coordinators = w.coordinators)
    (hkeep : ∀ e ∈ w.executions.executions, e.status = .running → e ∈ w'.executions.executions) :
    LiveRunning w' := by
  intro m y h hy
  rw [ht] at h
  obtain ⟨e, he, hid, hrun⟩ := hl m y h ((live_iff_of hco y).mp hy)
  exact ⟨e, hkeep e he hrun, hid, hrun⟩

end Cluster

end DeviceFleet.Engine
