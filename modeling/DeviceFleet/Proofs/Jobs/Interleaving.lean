import DeviceFleet.Proofs.Jobs.Coherence

/-!
# What each move of the engine does

For each request and each act of a task, the invariant is kept (`Invariant`) and what
outlives the runs changes only as `Changes` says.
-/

namespace DeviceFleet.Engine

open Job Events Store ExecutionStore

namespace Cluster

variable {w : Cluster}

/-! ### One step of a run -/

theorem passStored_cases {w₁ : Cluster} {x : ExecTask} {i : Nat} {t : JobTarget}
    {r : Except String TargetOutcome} {q : List JobTarget} {a : List Work} {again : Nat}
    {failed : Bool} (hk : KeepsRuns w w₁) :
    (∃ w₂, w₁.passStored x i t r q a again failed = (none, w₂) ∧ KeepsRuns w w₂) ∨
      ∃ p w₂, w₁.passStored x i t r q a again failed = (some { x with phase := p }, w₂) ∧
        KeepsRuns w w₂ ∧ ∀ st, p = .ending st → st.Ended := by
  unfold passStored
  split
  · exact .inl ⟨_, rfl, hk⟩
  · split
    · rename_i w₂ hst
      exact .inr ⟨_, _, rfl, hk.trans (keepsRuns_storeTarget hst), fun st h => by cases h⟩
    · exact .inr ⟨_, _, rfl, hk, fun st h => by cases h⟩

/-- A run's step before its end aborts the run, or changes only its phase, to phases that end
with an end status; either way it leaves the runs alone. -/
theorem stepExecution_of_not_ending {x : ExecTask} (hx : x.phase.isEnding = false) :
    (∃ w₁, w.stepExecution x = (none, w₁) ∧ KeepsRuns w w₁) ∨
      ∃ p w₁, w.stepExecution x = (some { x with phase := p }, w₁) ∧ KeepsRuns w w₁ ∧
        ∀ st, p = .ending st → st.Ended := by
  have stopped : ∀ st, Phase.ending .stopped = .ending st → st.Ended := fun st h => by
    cases h
    exact .inl rfl
  have completed : ∀ st, Phase.ending .completed = .ending st → st.Ended := fun st h => by
    cases h
    exact .inr rfl
  unfold stepExecution
  cases hp : x.phase with
  | ending st => rw [hp] at hx; cases hx
  | begin =>
    dsimp only
    split
    · exact .inr ⟨_, _, rfl, .refl w, stopped⟩
    · rename_i w₁ hr
      have hk : KeepsRuns w w₁ := by
        split at hr
        · exact keepsRuns_resetTargets hr
        · cases hr
          exact .refl w
      split
      · exact .inr ⟨_, _, rfl, hk, completed⟩
      · exact .inr ⟨_, _, rfl, hk, fun st h => by cases h⟩
  | stepTop i =>
    dsimp only
    split
    · exact .inr ⟨_, _, rfl, .refl w, completed⟩
    split
    · exact .inr ⟨_, _, rfl, .refl w, stopped⟩
    split
    · split
      · exact .inr ⟨_, _, rfl, .refl w, stopped⟩
      split
      · exact .inr ⟨_, _, rfl, .refl w, fun st h => by cases h⟩
      · exact .inr ⟨_, _, rfl, .refl w, fun st h => by cases h⟩
    · exact .inr ⟨_, _, rfl, .refl w, stopped⟩
  | presenting i queue active again failed =>
    dsimp only
    have stays : ∀ st, x.phase = .ending st → st.Ended := fun st h => by
      rw [hp] at h
      cases h
    have presenting : ∀ q a g f st, Phase.presenting i q a g f = .ending st → st.Ended :=
      fun _ _ _ _ _ h => by cases h
    split
    · split
      · exact .inr ⟨_, _, rfl, .refl w, stopped⟩
      · rename_i work _
        exact passStored_cases (keepsRuns_resumeWork (w := w) work)
    · split
      · rename_i t rest
        split
        · exact .inr ⟨x.phase, w, rfl, .refl w, stays⟩
        split
        · exact .inr ⟨_, _, rfl, .refl w, presenting _ _ _ _⟩
        have hk := keepsRuns_startTarget (w := w) x i t
        split
        · rename_i work w₁ hst
          rw [hst] at hk
          exact .inr ⟨_, _, rfl, hk, presenting _ _ _ _⟩
        · rename_i r w₁ hst
          rw [hst] at hk
          exact passStored_cases hk
      · split
        · exact .inr ⟨x.phase, w, rfl, .refl w, stays⟩
        split
        · exact .inr ⟨_, _, rfl, .refl w, stopped⟩
        split
        · exact .inr ⟨_, _, rfl, .refl w, fun st h => by cases h⟩
        · exact .inr ⟨_, _, rfl, .refl w, fun st h => by cases h⟩
  | pausing i wakeAt =>
    dsimp only
    split
    · exact .inr ⟨_, _, rfl, .refl w, fun st h => by cases h⟩
    · exact .inr ⟨.pausing i wakeAt, w, by rw [← hp], .refl w, fun st h => by cases h⟩

/-! ### The invariant -/

/-- What every state the engine reaches keeps: coherent runs, and every live run's execution
stored running. -/
structure Invariant (w : Cluster) : Prop where
  coherent : Coherent w
  live : LiveRunning w

theorem Invariant.of_keepsRuns {w' : Cluster} (h : Invariant w) (hk : KeepsRuns w w') :
    Invariant w' :=
  ⟨h.coherent.of_keepsRuns hk, h.live.of_keepsRuns hk⟩

theorem Unused.of_keepsRuns {w' : Cluster} {u : Uuid} (h : w.Unused u) (hk : KeepsRuns w w') :
    w'.Unused u := by
  obtain ⟨he, ht, hr, hv, hs⟩ := h
  refine ⟨hk.executions ▸ he, fun n x hx => ht n x ((hk.tasks.runs n x).mp hx), ?_,
    fun v hv' => hv v ((hk.events.ends u v).mp hv'),
    fun n i c r qs hq => hs n i c r qs ((hk.tasks.stops n i c r qs).mp hq)⟩
  rw [coordinator_eq_of hk.coordinators]
  exact hr

/-! ### What a move changes -/

/-- What a move does to what outlives the runs: statuses move along `E` and only those of the
ids `us`, a record appears only under an id of `fresh`, and every recorded end stays recorded. -/
structure Changes (E : ExecutionStatus → ExecutionStatus → Prop) (us fresh : List Uuid)
    (w w' : Cluster) : Prop where
  moves : MovesWithin E us w.executions w'.executions
  ids : IdsFrom fresh w.executions w'.executions
  ends : ∀ u v, endKey u v ∈ w.events.keys → endKey u v ∈ w'.events.keys

section Changes

variable {E E' : ExecutionStatus → ExecutionStatus → Prop} {us us' fresh fresh' : List Uuid}
  {w' w'' : Cluster}

theorem Changes.of_eq (hx : w'.executions = w.executions) (he : w'.events = w.events) :
    Changes E [] [] w w' :=
  ⟨.of_eq hx, .of_eq hx, fun _ _ h => he ▸ h⟩

theorem Changes.of_keepsRuns (hk : KeepsRuns w w') : Changes E [] [] w w' :=
  ⟨.of_eq hk.executions, .of_eq hk.executions, fun u v h => (hk.events.ends u v).mpr h⟩

theorem Changes.trans (h₁ : Changes E us fresh w w') (h₂ : Changes E us' fresh' w' w'')
    (hd : ∀ u ∈ us, u ∉ us') : Changes E (us ++ us') (fresh ++ fresh') w w'' :=
  ⟨h₁.moves.trans h₂.moves hd, h₁.ids.trans h₂.ids,
    fun u v h => h₂.ends u v (h₁.ends u v h)⟩

theorem Changes.mono (h : Changes E us fresh w w') (hE : ∀ a b, E a b → E' a b)
    (hu : ∀ u ∈ us, u ∈ us') (hf : ∀ u ∈ fresh, u ∈ fresh') :
    Changes E' us' fresh' w w' :=
  ⟨h.moves.mono hE hu, h.ids.mono hf, h.ends⟩

theorem Changes.then_eq (h : Changes E us fresh w w') (hx : w''.executions = w'.executions)
    (he : w''.events = w'.events) : Changes E us fresh w w'' :=
  (h.trans (.of_eq hx he) (by simp)).mono (fun _ _ h => h) (by simp) (by simp)

theorem Changes.then_keepsRuns (h : Changes E us fresh w w') (hk : KeepsRuns w' w'') :
    Changes E us fresh w w'' :=
  (h.trans (.of_keepsRuns hk) (by simp)).mono (fun _ _ h => h) (by simp) (by simp)

theorem Changes.after_keepsRuns (hk : KeepsRuns w w') (h : Changes E us fresh w' w'') :
    Changes E us fresh w w'' :=
  (Changes.of_keepsRuns hk).trans h (by simp)

theorem Changes.widen (h : Changes E [] [] w w') : Changes E us fresh w w' :=
  h.mono (fun _ _ h => h) (by simp) (by simp)

end Changes

theorem findJob_snd (w : Cluster) (t j : String) :
    ∃ c, (w.findJob t j).2 = { w with jobCache := c } := by
  unfold findJob
  split <;> exact ⟨_, rfl⟩

theorem loadJob_snd (w : Cluster) (t j : String) :
    ∃ c, (w.loadJob t j).2 = { w with jobCache := c } := by
  obtain ⟨c, hc⟩ := findJob_snd w t j
  unfold loadJob
  split <;> rename_i heq <;> rw [heq] at hc <;> exact ⟨c, hc⟩

theorem Invariant.append (h : Invariant w) {e : Execution} (hu : w.Unused e.executionId)
    (hr : e.status = .running → w.executions.running e.tenantId e.jobId = []) :
    Invariant { w with executions := ⟨w.executions.executions ++ [e]⟩ } := by
  have hid : e.executionId ∉ w.executions.executions.map (·.executionId) := fun hm => by
    obtain ⟨y, hy, hyid⟩ := List.mem_map.mp hm
    exact hu.1 y hy hyid
  have hrec : ∀ y ∈ w.executions.executions ++ [e], y ∈ w.executions.executions ∨
      (∃ x ∈ w.executions.executions, y.Succeeds x) ∨ w.Unused y.executionId := by
    intro y hy
    rcases List.mem_append.mp hy with hy | hy
    · exact .inl hy
    · rw [List.mem_singleton.mp hy]
      exact .inr (.inr hu)
  refine ⟨h.coherent.of_records (h.coherent.sound.append hid hr) rfl h.coherent.done rfl
    ⟨fun _ _ => Iff.rfl, fun _ _ _ _ _ => Iff.rfl, id⟩
    hrec (h.coherent.ends_of_records (fun _ _ => Iff.rfl) hrec), ?_⟩
  exact h.live.of_records rfl rfl fun y hy _ => List.mem_append_left _ hy

theorem Invariant.launch (h : Invariant w) {e : Execution} (he : e ∈ w.executions.executions)
    (hrun : e.status = .running) (hnot : e.executionId ∉ (w.coordinator 0).running.map (·.1))
    (j : Job) (fresh : Bool) : Invariant (w.launch 0 j e fresh) :=
  ⟨h.coherent.launch he hrun hnot j fresh, h.live.launch h.coherent he hrun j fresh⟩

theorem freshId_fst (w : Cluster) : w.freshId.1 = w.ids.next.1 := rfl

/-- A start on the execution store under an unused id keeps the invariant, with the run it
launches, and moves no status. -/
theorem tryBegin_invariant (h : Invariant w) {t j node : String} {o : StartOptions} {id : Uuid}
    {now : Int} (hu : w.Unused id) {b : BeginOutcome} {s : ExecutionStore}
    (hb : w.executions.tryBegin t j o node id now = (b, s)) :
    Invariant { w with executions := s } ∧
      (∀ e jb, b = .started e →
        Invariant ({ w with executions := s }.launch w.currentIndex jb e true)) ∧
      Changes ExecutionStatus.Advances [id] [id] w { w with executions := s } := by
  have hid : id ∉ w.executions.executions.map (·.executionId) := fun hm => by
    obtain ⟨y, hy, hyid⟩ := List.mem_map.mp hm
    exact hu.1 y hy hyid
  have hmoves : MovesWithin ExecutionStatus.Advances [id] w.executions
      (w.executions.tryBegin t j o node id now).2 := movesWithin_tryBegin hid
  have hids := idsFrom_tryBegin (s := w.executions) (t := t) (j := j) (n := node) o id now
  rw [hb] at hmoves hids
  refine ⟨?_, ?_, ⟨hmoves, hids, fun _ _ h => h⟩⟩ <;>
    rcases tryBegin_cases w.executions t j o node id now with
      ⟨hr, heq⟩ | ⟨-, -, heq⟩ | ⟨cur, -, -, heq⟩ <;> rw [hb] at heq <;>
    obtain ⟨rfl, rfl⟩ := Prod.mk.inj heq
  · exact h.append hu fun _ => hr
  · exact h.append hu fun h => by cases h
  · exact h
  · intro e jb he
    cases he
    rw [currentIndex_eq h.coherent.single]
    refine (h.append hu fun _ => hr).launch
      (List.mem_append_right _ (List.mem_singleton_self _)) rfl
      (fun hm => ?_) jb true
    obtain ⟨p, hp, hpid⟩ := List.mem_map.mp hm
    exact hu.2.2.1 p hp hpid
  · intro e jb he
    cases he
  · intro e jb he
    cases he

theorem startJob_invariant (h : Invariant w) (hu : w.Unused w.ids.next.1) (t j : String)
    (o : StartOptions) :
    Invariant (w.startJob t j o).2 ∧
      Changes ExecutionStatus.Advances [w.ids.next.1] [w.ids.next.1] w (w.startJob t j o).2 := by
  have hk := keepsRuns_loadJob (w := w) t j
  obtain ⟨c, hc⟩ := loadJob_snd w t j
  have hnone : Changes ExecutionStatus.Advances [w.ids.next.1] [w.ids.next.1] w
      (w.loadJob t j).2 := (Changes.of_keepsRuns hk).widen
  cases hl : w.loadJob t j with
  | mk r w₁ =>
    rw [hl] at hk hnone hc
    cases r with
    | error e =>
      have he : (w.startJob t j o).2 = w₁ := by simp [startJob, hl]
      rw [he]
      exact ⟨h.of_keepsRuns hk, hnone⟩
    | ok jb =>
      cases hv : (validate jb >>= fun () => checkOptions jb o) with
      | error e =>
        have he : (w.startJob t j o).2 = w₁ := by simp [startJob, hl, hv]
        rw [he]
        exact ⟨h.of_keepsRuns hk, hnone⟩
      | ok u =>
        simp only at hc
        subst hc
        simp only [startJob, hl, hv, freshId_snd, freshId_fst]
        -- the state the id is drawn from keeps the runs, and the id is the source's next one
        have hW : KeepsRuns w { w with
            jobCache := c, ids := w.ids.next.2,
            targets := (w.targets.insertMissing (List.map (JobTarget.fresh jb) jb.targetIds)).2 } :=
          .of_eq rfl rfl rfl rfl rfl
        split <;> rename_i heq <;>
          obtain ⟨h₁, h₂, h₃⟩ :=
            tryBegin_invariant (h.of_keepsRuns hW) (hu.of_keepsRuns hW) heq
        · exact ⟨h₂ _ jb rfl, (Changes.after_keepsRuns hW h₃).then_eq rfl rfl⟩
        · exact ⟨h₁, Changes.after_keepsRuns hW h₃⟩

/-! ### Stopping an execution -/

theorem mem_of_lookup {l : List (Uuid × Nat)} {u : Uuid} {k : Nat} (h : l.lookup u = some k) :
    (u, k) ∈ l := by
  obtain ⟨l₁, l₂, rfl, -⟩ := List.lookup_eq_some_iff.mp h
  simp

theorem not_mem_of_lookup {l : List (Uuid × Nat)} {u : Uuid} {k : Nat} (h : l.lookup u = none) :
    (u, k) ∉ l := fun hm => by
  have := List.lookup_eq_none_iff.mp h _ hm
  simp at this

theorem LiveRunning.except {w₁ : Cluster} {E : ExecutionStatus → ExecutionStatus → Prop}
    {u : Uuid}
    (hl : LiveRunning w) (hc : Coherent w) (hm : MovesWithin E [u] w.executions w₁.executions)
    (ht : TasksKept w w₁) (hco : w₁.coordinators = w.coordinators) :
    ∀ m y, (m, Task.execution y) ∈ w₁.tasks → w₁.Live y →
      y.execution.executionId ≠ u →
      ∃ r ∈ w₁.executions.executions, r.executionId = y.execution.executionId ∧
        r.status = .running := by
  intro m y h hy hne
  obtain ⟨r, hr, hid, hrun⟩ := hl m y ((ht.runs m y).mp h) ((live_iff_of hco y).mp hy)
  have hb := hm.others r.executionId (by simpa [hid] using hne)
  rw [hc.sound.byId_eq hr] at hb
  exact ⟨r, (mem_of_byId hb).1, hid, hrun⟩

theorem Coherent.listed_of_live (hc : Coherent w) {m : Nat} {y : ExecTask}
    (h : (m, Task.execution y) ∈ w.tasks) (hy : w.Live y) :
    (y.execution.executionId, m) ∈ (w.coordinator 0).running := by
  have hco := cancelled_of_home (w := w) (hc.home m y h)
  rw [hy.1] at hco
  refine hc.listed m y h ?_
  cases hs : (w.coordinator 0).shutdown
  · rfl
  · rw [hs] at hco
    simp at hco

theorem mem_put_of_ne {s : ExecutionStore} {x e : Execution} (hx : x ∈ s.executions)
    (hne : x.executionId ≠ e.executionId) : x ∈ (s.put e).executions :=
  List.mem_map.mpr ⟨x, hx, by simp [hne]⟩

theorem readAs_of_mem {s : ExecutionStore} {e : Execution} (hs : s.Sound)
    (he : e ∈ s.executions) : ReadAs s e e.status := fun cur hcur hid => by
  rw [hs.eq_of_id hcur he hid]
  exact ⟨rfl, rfl, .inr ⟨rfl, rfl⟩⟩

theorem endRead (hc : Coherent w) {e : Execution} {src tgt : ExecutionStatus}
    (hread : ReadAs w.executions e src) (htgt : tgt.Ended) (node : String) :
    ∃ w₁, w.endExecution node e src tgt = (.ok (), w₁) ∧ Coherent w₁ ∧ EndFrame e w w₁ ∧
      Changes (fun a b => a = src ∧ b = tgt) [e.executionId] [] w w₁ := by
  have hok : (w.endExecution node e src tgt).1 = .ok () :=
    (endExecution_ok hc.done hc.sound htgt.ne_running hc.tombstones).1
  have hm : MovesWithin (fun a b => a = src ∧ b = tgt) [e.executionId] w.executions
      (w.endExecution node e src tgt).2.executions :=
    movesWithin_endExecution hc.sound htgt.ne_running
  have hi : IdsFrom [] w.executions (w.endExecution node e src tgt).2.executions :=
    idsFrom_endExecution hc.sound htgt.ne_running
  have hc₁ : Coherent (w.endExecution node e src tgt).2 := hc.endExecution htgt hread
  generalize hw₁ : (w.endExecution node e src tgt).2 = w₁ at hm hi hc₁
  obtain ⟨fr, -⟩ := endExecution_cases hc.sound htgt.ne_running hw₁
  exact ⟨w₁, Prod.ext hok hw₁, hc₁, fr, hm, hi, fr.kept⟩

/-- When the record of an execution is still at the version it was read at, in the status `src`
it was read in, an end of it ends that record, and the end is recorded. -/
theorem endCurrent (hc : Coherent w) {e x : Execution} {src tgt : ExecutionStatus}
    (hread : ReadAs w.executions e src) (hx : x ∈ w.executions.executions)
    (hid : x.executionId = e.executionId) (hv : x.version = e.version) (hsrc : x.status = src)
    (hne : ¬ src.Ended) (htgt : tgt.Ended) (node : String) :
    ExecutionStore.ended x tgt w.nowMs ∈ (w.endExecution node e src tgt).2.executions.executions ∧
      endKey e.executionId e.version ∈ (w.endExecution node e src tgt).2.events.keys := by
  have hkey : endKey e.executionId e.version ∉ w.events.keys := fun hk => by
    rw [← hid, ← hv] at hk
    rcases hc.ends x hx _ hk with h | ⟨-, h⟩
    · exact Nat.lt_irrefl _ h
    · exact hne (hsrc ▸ h)
  refine ⟨?_, endExecution_recorded hc.sound htgt.ne_running hkey hc.tombstones⟩
  obtain ⟨ht, hj, -⟩ := hread x hx hid
  have hf : w.executions.find e.tenantId e.jobId e.executionId = some x := by
    rw [← ht, ← hj, ← hid]
    exact hc.sound.find_of_mem hx
  rcases endExecution_cases hc.sound htgt.ne_running
      (rfl : (w.endExecution node e src tgt).2 = _) with
    ⟨-, ⟨-, hk | hk | hk⟩ | ⟨cur, hcur, -, hx₁⟩⟩
  · exact absurd hk hkey
  · simp [EventStore.isTombstoned, hc.tombstones] at hk
  · exact absurd hsrc (hk x hf)
  · rw [hf] at hcur
    cases hcur
    rw [hx₁]
    exact mem_put_self hx rfl

theorem endQueued_invariant (h : Invariant w) {q : Execution}
    (hread : ReadAs w.executions q .queued) (node : String) :
    ∃ w₁, w.endExecution node q .queued .stopped = (.ok (), w₁) ∧ Invariant w₁ ∧
      TasksKept w w₁ ∧ Changes ExecutionStatus.Advances [q.executionId] [] w w₁ := by
  have hc := h.coherent
  obtain ⟨w₁, hpair, hc₁, fr, hch⟩ := endRead hc hread (.inl rfl) node
  refine ⟨w₁, hpair, ⟨hc₁, fun m y hy hly => ?_⟩, fr.tasks, hch.mono (fun a b ⟨ha, hb⟩ => by
    subst ha hb
    exact ⟨.drop, by decide⟩) (fun _ h => h) (fun _ h => h)⟩
  obtain ⟨x, hx, hxid, hrun⟩ := h.live m y ((fr.tasks.runs m y).mp hy)
    ((live_iff_of fr.coordinators y).mp hly)
  rcases (endExecution_cases hc.sound (by decide) (congrArg Prod.snd hpair)).2 with
    ⟨hx₁, -⟩ | ⟨cur, hf, hcur, hx₁⟩
  · exact ⟨x, hx₁ ▸ hx, hxid, hrun⟩
  · -- the record the end moved was queued, and a live run's record runs
    refine ⟨x, hx₁ ▸ mem_put_of_ne hx fun hne => ?_, hxid, hrun⟩
    rw [hc.sound.eq_of_id hx (mem_of_find hf).1 hne, hcur] at hrun
    cases hrun

/-- A stop's end of the running execution as it was read succeeds and keeps the invariant: a run
of it, if the coordinator lists one, is asked to stop. It moves at most that execution, from
running to stopped. -/
theorem stopExecution_invariant (h : Invariant w) {r : Execution}
    (hread : ReadAs w.executions r .running) :
    (w.stopExecution 0 r).1 = .ok () ∧ Invariant (w.stopExecution 0 r).2 ∧
      Changes ExecutionStatus.Advances [r.executionId] [] w (w.stopExecution 0 r).2 := by
  have hc := h.coherent
  obtain ⟨w₁, hpair, hc₁, fr, hch⟩ :=
    endRead hc hread (.inl rfl) (w.coordinator 0).config.nodeId
  have hch' : Changes ExecutionStatus.Advances [r.executionId] [] w w₁ :=
    hch.mono (fun a b ⟨ha, hb⟩ => by
      subst ha hb
      exact ⟨.stop, by decide⟩) (fun _ h => h) (fun _ h => h)
  have hothers := h.live.except hc hch.moves fr.tasks fr.coordinators
  rw [stopExecution_eq, hpair]
  dsimp only
  cases hlk : (w₁.coordinator 0).running.lookup r.executionId with
  | none =>
    refine ⟨rfl, ⟨hc₁, fun m y hy hly => ?_⟩, hch'⟩
    refine hothers m y hy hly fun hid => ?_
    have hl := hc₁.listed_of_live hy hly
    rw [hid] at hl
    exact not_mem_of_lookup hlk hl
  | some k =>
    refine ⟨rfl, ⟨hc₁.cancelRun k, LiveRunning.cancelRun_of fun m y hy hly hmk => ?_⟩,
      hch'.then_eq rfl rfl⟩
    refine hothers m y hy hly fun hid => hmk ?_
    have hl := hc₁.listed_of_live hy hly
    rw [hid] at hl
    exact hc₁.listed_eq hl (mem_of_lookup hlk)

theorem stopExecution_stores (w : Cluster) (i : Nat) (e : Execution) :
    (w.stopExecution i e).2.executions =
        (w.endExecution (w.coordinator i).config.nodeId e .running .stopped).2.executions ∧
      (w.stopExecution i e).2.events =
        (w.endExecution (w.coordinator i).config.nodeId e .running .stopped).2.events := by
  rw [stopExecution_eq]
  rcases w.endExecution (w.coordinator i).config.nodeId e .running .stopped with
    ⟨_ | ⟨⟩, w₁⟩
  · exact ⟨rfl, rfl⟩
  · dsimp only
    split <;> exact ⟨rfl, rfl⟩

/-! ### What a stop looks up -/

theorem stopJobLookup_spec (w : Cluster) (t j : String) :
    KeepsRuns w (w.stopJobLookup t j).2 ∧ ∀ r qs, (w.stopJobLookup t j).1 = .ok (r, qs) →
      (r ∈ (w.stopJobLookup t j).2.executions.executions ∧ r.status = .running) ∧
        ∀ q ∈ qs, q ∈ (w.stopJobLookup t j).2.executions.executions ∧ q.status = .queued := by
  have hk := keepsRuns_loadJob (w := w) t j
  unfold stopJobLookup
  split
  · rename_i e w₁ hl
    rw [hl] at hk
    exact ⟨hk, fun _ _ h => by cases h⟩
  · rename_i jb w₁ hl
    rw [hl] at hk
    split
    · exact ⟨hk, fun _ _ h => by cases h⟩
    · rename_i r hr
      refine ⟨hk, fun r' qs h => ?_⟩
      cases h
      refine ⟨⟨(mem_list.mp (List.mem_of_find?_eq_some hr)).1,
        by simpa using List.find?_some hr⟩, fun q hq => ?_⟩
      obtain ⟨hq, hqs⟩ := List.mem_filter.mp hq
      exact ⟨(mem_list.mp hq).1, by simpa using hqs⟩

theorem stopExecutionLookup_spec (w : Cluster) (t j : String) (id : Uuid) :
    KeepsRuns w (w.stopExecutionLookup t j id).2 ∧ ∀ r, (w.stopExecutionLookup t j id).1 = .ok r →
      r ∈ (w.stopExecutionLookup t j id).2.executions.executions ∧ r.status = .running := by
  have hk := keepsRuns_loadJob (w := w) t j
  unfold stopExecutionLookup
  split
  · rename_i e w₁ hl
    rw [hl] at hk
    exact ⟨hk, fun _ h => by cases h⟩
  · rename_i jb w₁ hl
    rw [hl] at hk
    split
    · exact ⟨hk, fun _ h => by cases h⟩
    · rename_i e hf
      split
      · exact ⟨hk, fun _ h => by cases h⟩
      · rename_i hst
        refine ⟨hk, fun r h => ?_⟩
        cases h
        exact ⟨(mem_of_find hf).1, by simpa using hst⟩

theorem Invariant.spawnStop (h : Invariant w) (c : Nat) {r : Execution} {qs : List Execution}
    (hr : r ∈ w.executions.executions ∧ r.status = .running)
    (hqs : ∀ q ∈ qs, q ∈ w.executions.executions ∧ q.status = .queued) :
    Invariant (w.spawn_ (.stopping 0 c r qs)) := by
  refine ⟨h.coherent.spawnStop ⟨rfl, hr.2 ▸ readAs_of_mem h.coherent.sound hr.1, fun q hq => ?_⟩,
    h.live.spawnStop⟩
  obtain ⟨hm, hst⟩ := hqs q hq
  exact hst ▸ readAs_of_mem h.coherent.sound hm

/-! ### Resuming, cleaning, relaunching orphans, shutting down -/

theorem not_listed_of_isLocal (hc : Coherent w) {u : Uuid} (h : w.isLocal u = false) :
    u ∉ (w.coordinator 0).running.map (·.1) := fun hm => by
  obtain ⟨p, hp, hpu⟩ := List.mem_map.mp hm
  rw [isLocal, current_eq hc.single, Option.isSome_eq_false_iff, Option.isNone_iff_eq_none] at h
  have := List.lookup_eq_none_iff.mp h p hp
  simp [hpu] at this

theorem Invariant.put (h : Invariant w) {x e : Execution} (hx : x ∈ w.executions.executions)
    (hsucc : e.Succeeds x) (hxr : x.status ≠ .running) (hs : Sound (w.executions.put e)) :
    Invariant { w with executions := w.executions.put e } := by
  have hc := h.coherent
  have hrec : ∀ y ∈ (w.executions.put e).executions,
      y ∈ w.executions.executions ∨ (∃ x ∈ w.executions.executions, y.Succeeds x) ∨
        w.Unused y.executionId := by
    intro y hy
    rcases mem_put hy with rfl | ⟨hy, -⟩
    · exact .inr (.inl ⟨x, hx, hsucc⟩)
    · exact .inl hy
  refine ⟨hc.of_records hs rfl hc.done rfl ⟨fun _ _ => Iff.rfl, fun _ _ _ _ _ => Iff.rfl, fun h => h⟩ hrec
    (hc.ends_of_records (fun _ _ => Iff.rfl) hrec),
    h.live.of_records rfl rfl fun y hy hyr => mem_put_of_ne hy fun hid => ?_⟩
  rw [hc.sound.eq_of_id hy hx (hid.trans hsucc.1)] at hyr
  exact hxr hyr

/-- A resume on the execution store keeps the invariant, with the run it launches for an
execution the coordinator does not run, and moves only the status it names. -/
theorem tryResume_invariant (h : Invariant w) {t j node : String} {id : Uuid} {now : Int}
    {b : ResumeOutcome} {s : ExecutionStore}
    (hb : w.executions.tryResume t j id node now = (b, s)) :
    Invariant { w with executions := s } ∧
      (∀ e jb, b = .resumed e → id ∉ (w.coordinator 0).running.map (·.1) →
        Invariant ({ w with executions := s }.launch w.currentIndex jb e false)) ∧
      Changes ExecutionStatus.Moves [id] [] w { w with executions := s } := by
  have hc := h.coherent
  have hch : Changes ExecutionStatus.Moves [id] [] w
      { w with executions := (w.executions.tryResume t j id node now).2 } :=
    ⟨movesWithin_tryResume hc.sound id now, idsFrom_tryResume hc.sound id now, fun _ _ h => h⟩
  rw [hb] at hch
  rcases tryResume_found w.executions t j id node now with
    ⟨heq, hno⟩ | ⟨e₀, hf, hr, hst, heq⟩
  · rw [hb] at heq hno
    subst heq
    exact ⟨h, fun e jb he => absurd he (hno e), hch⟩
  · rw [hb] at heq
    obtain ⟨rfl, rfl⟩ := Prod.mk.inj heq
    obtain ⟨he₀, ht, hj, hid⟩ := mem_of_find hf
    have hs : Sound (w.executions.put (resumed e₀ node now)) := by
      have := hc.sound.tryResume (t := t) (j := j) (n := node) id now
      rwa [hb] at this
    have h₁ := h.put he₀ (resumed_succeeds e₀ node now) (by rw [hst]; decide) hs
    refine ⟨h₁, fun e jb he hnot => ?_, hch⟩
    cases he
    rw [currentIndex_eq hc.single]
    exact h₁.launch (mem_put_self he₀ rfl) rfl (by rw [← hid] at hnot; exact hnot) jb false

theorem resumeJobExecution_invariant (h : Invariant w) (t j : String) (id : Uuid) :
    Invariant (w.resumeJobExecution t j id).2 ∧
      Changes ExecutionStatus.Moves [id] [] w (w.resumeJobExecution t j id).2 := by
  have hk := keepsRuns_loadJob (w := w) t j
  have hnone : Changes ExecutionStatus.Moves [id] [] w (w.loadJob t j).2 :=
    (Changes.of_keepsRuns hk).widen
  unfold resumeJobExecution
  split
  · rename_i e w₁ hl
    rw [hl] at hk hnone
    exact ⟨h.of_keepsRuns hk, hnone⟩
  · rename_i jb w₁ hl
    rw [hl] at hk hnone
    have h₁ := h.of_keepsRuns hk
    split
    · exact ⟨h₁, hnone⟩
    split
    · exact ⟨h₁, hnone⟩
    rename_i hloc
    split <;> rename_i heq <;> obtain ⟨hi, hl, hm⟩ := tryResume_invariant h₁ heq
    · exact ⟨hl _ jb rfl (not_listed_of_isLocal h₁.coherent (by simpa using hloc)),
        (Changes.after_keepsRuns hk hm).then_eq rfl rfl⟩
    · exact ⟨hi, Changes.after_keepsRuns hk hm⟩
    all_goals exact ⟨h₁, hnone⟩

theorem Invariant.dropJob (h : Invariant w) {t j : String} (hr : w.executions.running t j = []) :
    Invariant
      { w with executions := ⟨w.executions.executions.filter fun e => !ofJob t j e⟩ } := by
  have hrec : ∀ y ∈ w.executions.executions.filter (fun e => !ofJob t j e),
      y ∈ w.executions.executions ∨ (∃ x ∈ w.executions.executions, y.Succeeds x) ∨
        w.Unused y.executionId := fun y hy => .inl (List.mem_filter.mp hy).1
  refine ⟨h.coherent.of_records (h.coherent.sound.filter _) rfl h.coherent.done rfl
    ⟨fun _ _ => Iff.rfl, fun _ _ _ _ _ => Iff.rfl, fun h => h⟩
    hrec (h.coherent.ends_of_records (fun _ _ => Iff.rfl) hrec),
    h.live.of_records rfl rfl fun x hx hxr => List.mem_filter.mpr ⟨hx, ?_⟩⟩
  cases hxj : ofJob t j x
  · rfl
  · have hm : x ∈ w.executions.running t j := mem_running.mpr ⟨hx, (ofJob_eq_true.mp hxj).1,
      (ofJob_eq_true.mp hxj).2, hxr⟩
    rw [hr] at hm
    cases hm

theorem cleanJobData_invariant (h : Invariant w) (t j : String) :
    Invariant (w.cleanJobData t j).2 ∧
      Changes ExecutionStatus.Advances (w.executions.executions.map (·.executionId)) [] w
        (w.cleanJobData t j).2 := by
  have hk := keepsRuns_loadJob (w := w) t j
  have hnone : Changes ExecutionStatus.Advances (w.executions.executions.map (·.executionId)) []
      w (w.loadJob t j).2 := (Changes.of_keepsRuns hk).widen
  unfold cleanJobData
  split
  · rename_i e w₁ hl
    rw [hl] at hk hnone
    exact ⟨h.of_keepsRuns hk, hnone⟩
  · rename_i jb w₁ hl
    rw [hl] at hk hnone
    split
    · exact ⟨h.of_keepsRuns hk, hnone⟩
    rename_i hrun
    have hr : w.executions.running t j = [] := by
      rw [← findRunning_eq_none, ← hk.executions]
      simpa [isRunning] using hrun
    let P : Cluster → Prop := fun w' => Invariant w' ∧ w'.executions.running t j = [] ∧
      (w'.executions = w.executions ∨
        w'.executions = ⟨w.executions.executions.filter fun e => !ofJob t j e⟩) ∧
      ∀ u v, endKey u v ∈ w.events.keys → endKey u v ∈ w'.events.keys
    have hP : ∀ w' w'', P w' → KeepsRuns w' w'' → P w'' :=
      fun w' w'' ⟨hi, hr', hx, he⟩ hk' =>
      ⟨hi.of_keepsRuns hk', hk'.executions ▸ hr', hk'.executions ▸ hx,
        fun u v h => (hk'.events.ends u v).mpr (he u v h)⟩
    have hfin : ∀ w', P w' → Invariant w' ∧ Changes ExecutionStatus.Advances
        (w.executions.executions.map (·.executionId)) [] w w' := by
      rintro w' ⟨hi, -, hx, he⟩
      refine ⟨hi, ?_⟩
      rcases hx with hx | hx
      · exact ⟨(MovesWithin.of_eq hx).mono (fun _ _ h => h) (by simp), .of_eq hx, he⟩
      · exact ⟨hx ▸ movesWithin_filter h.coherent.sound _, hx ▸ idsFrom_filter _, he⟩
    split
    rename_i u w₂ hfr
    have hw₂ : P w₂ := by
      have h₂ := hP w w₁.freshId.2 ⟨h, hr, .inl rfl, fun _ _ h => h⟩
        (hk.trans (keepsRuns_freshId w₁))
      rwa [hfr] at h₂
    dsimp only
    have heff : ∀ (w₃ : Cluster) (v : Unit) (w₄ : Cluster), P w₃ →
        Except.ok ((), { w₃ with targets := (w₃.targets.deleteAll t j).2,
                                 executions := (w₃.executions.deleteAll t j).2 }) =
          (Except.ok (v, w₄) : Except StoreError (Unit × Cluster)) → P w₄ := by
      intro w₃ v w₄ ⟨hi, hr', hx, he⟩ heq
      cases heq
      refine ⟨(hi.dropJob hr').of_keepsRuns (.of_eq rfl rfl rfl rfl rfl), ?_, .inr ?_, he⟩
      · simp [running, list, deleteAll, List.filter_filter]
      · rcases hx with hx | hx <;> simp [deleteAll, hx, List.filter_filter]
    have hkey := jobEvent_key_ne u t jobEntity j .deleted (some (.obj [("scope", .str "data")]))
    split <;> rename_i r w' heq <;>
    · have hfinal : P (_, w').2 := heq ▸ recordOnce_preserves hP hkey heff hw₂
      exact hfin w' hfinal

/-! ### The acts of the tasks -/

theorem Invariant.removeTask (h : Invariant w) (n : Nat) : Invariant (w.removeTask n) :=
  ⟨h.coherent.removeTask n, h.live.removeTask n⟩

theorem Coherent.run_unique (hc : Coherent w) (hsd : (w.coordinator 0).shutdown = false)
    {n m : Nat} {x y : ExecTask} (hn : (n, Task.execution x) ∈ w.tasks)
    (hm : (m, Task.execution y) ∈ w.tasks)
    (hid : y.execution.executionId = x.execution.executionId) : m = n ∧ y = x := by
  have hl := hc.listed m y hm hsd
  rw [hid] at hl
  obtain rfl := hc.listed_eq hl (hc.listed n x hn hsd)
  have hp := List.inj_on_of_nodup_map hc.numbered.1 hm hn rfl
  exact ⟨rfl, Task.execution.inj (Prod.mk.inj hp).2⟩

theorem removeTask_launch {n : Nat} (hn : n ≠ w.nextTask) (j : Job) (e : Execution)
    (fresh : Bool) : (w.launch 0 j e fresh).removeTask n = (w.removeTask n).launch 0 j e fresh := by
  rw [launch_eq, launch_eq]
  simp [removeTask, List.filter_append, Ne.symm hn]

/-- A promotion keeps the invariant, with the run it launches for the execution it promotes, and
runs only executions that were queued. -/
theorem promoteNext_invariant (h : Invariant w) {t j node : String} {now : Int}
    {b : Option Execution} {s : ExecutionStore}
    (hb : w.executions.promoteNext t j node now = (b, s)) :
    Invariant { w with executions := s } ∧
      (∀ e jb, b = some e → Invariant ({ w with executions := s }.launch 0 jb e true)) ∧
      ∃ us, MovesWithin ExecutionStatus.Advances us w.executions s ∧
        IdsFrom [] w.executions s ∧
        ∀ u ∈ us, ∃ q ∈ w.executions.executions, q.executionId = u ∧
          q.status = .queued := by
  have hc := h.coherent
  obtain ⟨us, hm, hus⟩ := movesWithin_promoteNext (t := t) (j := j) (n := node) hc.sound now
  have hi := idsFrom_promoteNext (t := t) (j := j) (n := node) hc.sound now
  rw [hb] at hm hi
  rcases promoteNext_cases w.executions t j node now with ⟨heq, -⟩ | ⟨q, -, hq, heq⟩ <;>
    rw [hb] at heq <;> obtain ⟨rfl, rfl⟩ := Prod.mk.inj heq
  · exact ⟨h, (fun e jb he => by cases he), us, hm, hi, hus⟩
  · have hqm := (mem_list.mp (mem_list_of_firstQueued hq)).1
    have hqs := status_of_firstQueued hq
    have hs : Sound (w.executions.put (promoted q node now)) := by
      have := hc.sound.promoteNext (t := t) (j := j) (n := node) now
      rwa [hb] at this
    have h₁ := h.put hqm (promoted_succeeds q node now) (by rw [hqs]; decide) hs
    refine ⟨h₁, fun e jb he => ?_, us, hm, hi, hus⟩
    cases he
    refine h₁.launch (mem_put_self hqm rfl) rfl (fun hl => ?_) jb true
    obtain ⟨p, hp, hpid⟩ := List.mem_map.mp hl
    exact hc.listed_not_queued p hp q hqm hpid.symm hqs

/-- The end of the execution of a run that reached its end, on a coordinator in service, keeps
the invariant: the only run of that execution is the ending one, which is not live. The end
moves only that execution's status, from running to the run's end status. -/
theorem endRun_invariant (h : Invariant w) {n : Nat} {x : ExecTask} {st : ExecutionStatus}
    (hxn : (n, Task.execution x) ∈ w.tasks) (hp : x.phase = .ending st)
    (hsd : (w.coordinator 0).shutdown = false) (node : String) :
    Invariant (w.endExecution node x.execution .running st).2 ∧
      (n, Task.execution x) ∈ (w.endExecution node x.execution .running st).2.tasks ∧
      Changes ExecutionStatus.Advances [x.execution.executionId] [] w
        (w.endExecution node x.execution .running st).2 := by
  have hc := h.coherent
  have hst : st.Ended := hc.ending n x st hxn hp
  have hpre : ∀ cur ∈ w.executions.executions, cur.executionId = x.execution.executionId →
      cur.tenantId = x.execution.tenantId ∧ cur.jobId = x.execution.jobId ∧
        (x.execution.version < cur.version ∨
          x.execution.version = cur.version ∧ cur.status = .running) := by
    intro cur hcur hid
    obtain ⟨ht, hj, -, hv⟩ := hc.follows n x hxn cur hcur hid
    exact ⟨ht, hj, hv⟩
  have hm₁ : MovesWithin (fun a b => a = .running ∧ b = st) [x.execution.executionId]
      w.executions (w.endExecution node x.execution .running st).2.executions :=
    movesWithin_endExecution hc.sound hst.ne_running
  have hi₁ : IdsFrom [] w.executions (w.endExecution node x.execution .running st).2.executions :=
    idsFrom_endExecution hc.sound hst.ne_running
  have hc₁ : Coherent (w.endExecution node x.execution .running st).2 := hc.endExecution hst hpre
  generalize hw₁ : (w.endExecution node x.execution .running st).2 = w₁ at hm₁ hi₁ hc₁
  obtain ⟨fr, -⟩ := endExecution_cases hc.sound hst.ne_running hw₁
  have hch₁ : Changes ExecutionStatus.Advances [x.execution.executionId] [] w w₁ :=
    (⟨hm₁, hi₁, fr.kept⟩ : Changes (fun a b => a = .running ∧ b = st) _ _ w w₁).mono
      (fun a b ⟨ha, hb⟩ => by
        subst ha hb
        rcases hst with rfl | rfl
        · exact ⟨.stop, by decide⟩
        · exact ⟨.complete, by decide⟩) (fun _ h => h) (fun _ h => h)
  refine ⟨⟨hc₁, fun m y hy hly => ?_⟩, (fr.tasks.runs n x).mpr hxn, hch₁⟩
  by_cases hid : y.execution.executionId = x.execution.executionId
  · obtain ⟨-, rfl⟩ := hc.run_unique hsd hxn ((fr.tasks.runs m y).mp hy) hid
    have hend := hly.2
    rw [hp] at hend
    cases hend
  · exact h.live.except hc hm₁ fr.tasks fr.coordinators m y hy hly hid

/-- The end of a run. On a coordinator in service, the run's execution is ended in the run's end
status, the run is unlisted, and the next queued execution of its job is promoted and launched;
once the run is removed the invariant holds again. Only the run's execution is ended, and only
queued executions run. -/
theorem stepExecution_ending (h : Invariant w) {n : Nat} {x : ExecTask} {st : ExecutionStatus}
    (hxn : (n, Task.execution x) ∈ w.tasks) (hp : x.phase = .ending st) :
    ∃ w', w.stepExecution x = (none, w') ∧ Invariant (w'.removeTask n) ∧
      ∃ us, Changes ExecutionStatus.Advances us [] w w' := by
  have hx0 := h.coherent.home n x hxn
  unfold stepExecution
  rw [hp]
  dsimp only
  split
  · exact ⟨w, rfl, h.removeTask n, [], .of_eq rfl rfl⟩
  rename_i hsd
  rw [hx0] at hsd ⊢
  obtain ⟨⟨hc₁, hl₁⟩, hxn₁, hch₁⟩ :=
    endRun_invariant h hxn hp (by simpa using hsd) (w.coordinator 0).config.nodeId
  generalize (w.endExecution (w.coordinator 0).config.nodeId x.execution .running st).2 = w₁
    at hc₁ hl₁ hxn₁ hch₁ ⊢
  generalize hW : w₁.mapCoordinator 0 (fun c =>
    { c with running := c.running.filter (·.1 != x.execution.executionId) }) = W
  have hWx : W.executions = w₁.executions := by rw [← hW]; rfl
  have hWn : W.nextTask = w₁.nextTask := by rw [← hW]; rfl
  have h₂ : Invariant (W.removeTask n) := by
    rw [← hW]
    exact ⟨hc₁.retire hxn₁, hl₁.retire hc₁ _ n⟩
  have hchW : Changes ExecutionStatus.Advances [] [] w₁ W := .of_eq hWx (by rw [← hW]; rfl)
  have hn : n ≠ W.nextTask := by
    rw [hWn]
    exact Nat.ne_of_lt (hc₁.numbered.2 _ hxn₁)
  -- the promotion runs only queued executions, and the run's execution is not queued
  split <;> rename_i s heq
  all_goals
    obtain ⟨hi₃, hl₃, us, hm₃, hid₃, hus⟩ := promoteNext_invariant h₂ heq
    have hd : ∀ u ∈ [x.execution.executionId] ++ [], u ∉ us := fun u hu hu' => by
      obtain ⟨q, hq, hqid, hqs⟩ := hus u hu'
      rw [show (W.removeTask n).executions = w₁.executions from hWx] at hq
      rw [List.mem_singleton.mp hu] at hqid
      exact (hc₁.follows n x hxn₁ q hq hqid).2.2.1 hqs
    have hch : Changes ExecutionStatus.Advances _ [] w { W with executions := s } :=
      (hch₁.trans hchW (by simp)).trans ⟨hm₃, hid₃, fun _ _ h => h⟩ hd
  · refine ⟨_, rfl, ?_, _, hch.then_eq rfl rfl⟩
    rw [removeTask_launch (w := { W with executions := s }) hn]
    exact hl₃ _ x.job rfl
  · exact ⟨_, rfl, hi₃, _, hch⟩

theorem act_stopping_nil (w : Cluster) (n i c : Nat) (r : Execution) :
    w.act n (.stopping i c r []) =
      { ((w.removeTask n).stopExecution i r).2 with
        ended := ((w.removeTask n).stopExecution i r).2.ended ++
          [(c, .stopped ((w.removeTask n).stopExecution i r).1)] } :=
  rfl

/-- The act of a stop in flight ends the next queued execution it looked up or, none being
left, the running one; either way it keeps the invariant and moves at most that execution's
status, to stopped. -/
theorem act_stopping (h : Invariant w) {n i c : Nat} {r : Execution} {qs : List Execution}
    (hs : (n, Task.stopping i c r qs) ∈ w.tasks) :
    Invariant (w.act n (.stopping i c r qs)) ∧
      ∃ us, Changes ExecutionStatus.Advances us [] w (w.act n (.stopping i c r qs)) := by
  obtain ⟨rfl, hr, hqs⟩ := h.coherent.stops n i c r qs hs
  cases qs with
  | nil =>
    obtain ⟨-, h₁, hch⟩ := stopExecution_invariant (h.removeTask n) hr
    rw [act_stopping_nil]
    have hk : KeepsRuns ((w.removeTask n).stopExecution 0 r).2
        { ((w.removeTask n).stopExecution 0 r).2 with
          ended := ((w.removeTask n).stopExecution 0 r).2.ended ++
            [(c, .stopped ((w.removeTask n).stopExecution 0 r).1)] } :=
      .of_eq rfl rfl rfl rfl rfl
    have h₀ : Changes ExecutionStatus.Advances [] [] w (w.removeTask n) := .of_eq rfl rfl
    exact ⟨h₁.of_keepsRuns hk, _, (h₀.trans hch (by simp)).then_keepsRuns hk⟩
  | cons q qs =>
    obtain ⟨w₁, hend, h₁, hk₁, hch⟩ :=
      endQueued_invariant h (hqs q (List.mem_cons_self ..)) (w.coordinator 0).config.nodeId
    simp only [act, hend]
    exact ⟨⟨h₁.coherent.replaceStop ((hk₁.stops n 0 c r (q :: qs)).mpr hs),
      h₁.live.replaceStop⟩, _, hch.then_eq rfl rfl⟩

theorem act_stopping_last (h : Invariant w) {n i c : Nat} {r : Execution}
    (hs : (n, Task.stopping i c r []) ∈ w.tasks) :
    (w.act n (.stopping i c r [])).ended.getLast? = some (c, .stopped (.ok ())) ∧
      ((∃ x ∈ w.executions.executions, x.executionId = r.executionId ∧ x.version = r.version ∧
          x.status = .running) →
        (∃ e ∈ (w.act n (.stopping i c r [])).executions.executions,
            e.executionId = r.executionId ∧ e.status = .stopped) ∧
          endKey r.executionId r.version ∈ (w.act n (.stopping i c r [])).events.keys) := by
  obtain ⟨rfl, hr, -⟩ := h.coherent.stops n i c r [] hs
  obtain ⟨hok, -, -⟩ := stopExecution_invariant (h.removeTask n) hr
  obtain ⟨hx, he⟩ := stopExecution_stores (w.removeTask n) 0 r
  rw [act_stopping_nil, hok]
  refine ⟨by simp, fun ⟨x, hxm, hid, hv, hrun⟩ => ?_⟩
  obtain ⟨hmem, hkey⟩ := endCurrent (h.removeTask n).coherent hr hxm hid hv hrun
    (fun h => by rcases h with h | h <;> cases h) (.inl rfl)
    ((w.removeTask n).coordinator 0).config.nodeId
  exact ⟨⟨ExecutionStore.ended x .stopped _, hx ▸ hmem, hid, rfl⟩, he ▸ hkey⟩

theorem act_invariant (h : Invariant w) {n : Nat} {t : Task} (ht : (n, t) ∈ w.tasks) :
    Invariant (w.act n t) ∧ ∃ us, Changes ExecutionStatus.Advances us [] w (w.act n t) := by
  have h₀ : Changes ExecutionStatus.Advances [] [] w (w.removeTask n) := .of_eq rfl rfl
  cases t with
  | execution x =>
    cases hend : x.phase.isEnding with
    | false =>
      rcases stepExecution_of_not_ending (w := w) hend with ⟨w₁, hs, hk⟩ | ⟨p, w₁, hs, hk, hp⟩
      · simp only [act, hs]
        exact ⟨(h.of_keepsRuns hk).removeTask n, [], (Changes.of_keepsRuns hk).then_eq rfl rfl⟩
      have hxn : (n, Task.execution x) ∈ w₁.tasks := (hk.tasks.runs n x).mpr ht
      have h₁ := h.of_keepsRuns hk
      simp only [act, hs]
      exact ⟨⟨h₁.coherent.replaceTask hxn rfl rfl hp,
        h₁.live.replaceTask hxn rfl fun hl => ⟨hl.1, hend⟩⟩,
        [], (Changes.of_keepsRuns hk).then_eq rfl rfl⟩
    | true =>
      obtain ⟨st, hp⟩ := Phase.isEnding_eq_true.mp hend
      obtain ⟨w', hs, h', us, hch⟩ := stepExecution_ending h ht hp
      simp only [act, hs]
      exact ⟨h', us, hch.then_eq rfl rfl⟩
  | delivery e =>
    have hk := keepsRuns_handleReply (w := w.removeTask n) e
    exact ⟨(h.removeTask n).of_keepsRuns hk, [], h₀.then_keepsRuns hk⟩
  | sendCall call rw =>
    have hk := keepsRuns_awaitSettlement (w := w.removeTask n) rw
    cases hA : (w.removeTask n).awaitSettlement rw with
    | mk r w₁ =>
      rw [hA] at hk
      have hk' : KeepsRuns (w.removeTask n)
          { w₁ with ended := w₁.ended ++ [(call, .sent (r.map fun o => (rw.id, o)))] } :=
        hk.trans (.of_eq rfl rfl rfl rfl rfl)
      simp only [act, hA]
      exact ⟨(h.removeTask n).of_keepsRuns hk', [], h₀.then_keepsRuns hk'⟩
  | observeCall call rw =>
    have hk := keepsRuns_finishObserve (w := w.removeTask n) rw
    cases hA : (w.removeTask n).finishObserve rw with
    | mk r w₁ =>
      rw [hA] at hk
      have hk' : KeepsRuns (w.removeTask n)
          { w₁ with ended := w₁.ended ++ [(call, .observed r)] } :=
        hk.trans (.of_eq rfl rfl rfl rfl rfl)
      simp only [act, hA]
      exact ⟨(h.removeTask n).of_keepsRuns hk', [], h₀.then_keepsRuns hk'⟩
  | stopping i c r qs => exact act_stopping h ht

/-- One step of relaunching orphans: launch a run of the execution unless the coordinator runs
it or its job is gone. -/
def orphanStep (acc : Nat × Cluster) (e : Execution) : Nat × Cluster :=
  match acc with
  | (n, w) =>
    if w.isLocal e.executionId then (n, w)
    else
      match w.loadJob e.tenantId e.jobId with
      | (.ok j, w) => (n + 1, w.launch w.currentIndex j e false)
      | (.error _, w) => (n, w)

theorem resumeOrphans_eq (w : Cluster) :
    w.resumeOrphans = (w.executions.listRunningOwnedBy w.config.nodeId).foldl orphanStep (0, w) :=
  rfl

/-- Relaunching stored running executions the coordinator does not run keeps the invariant and
the stored executions. -/
theorem orphans_fold {s : ExecutionStore} : ∀ (es : List Execution) (n : Nat) {w : Cluster},
    (∀ e ∈ es, e ∈ s.executions ∧ e.status = .running) → Invariant w →
      w.executions = s →
    Invariant (es.foldl orphanStep (n, w)).2 ∧
      Changes ExecutionStatus.Advances [] [] w (es.foldl orphanStep (n, w)).2
  | [], _, _, _, h, _ => ⟨h, .of_eq rfl rfl⟩
  | e :: es, n, w, hes, h, hs => by
    have hes' : ∀ e' ∈ es, e' ∈ s.executions ∧ e'.status = .running :=
      fun e' he' => hes e' (List.mem_cons_of_mem _ he')
    obtain ⟨he, hrun⟩ := hes e (List.mem_cons_self ..)
    rw [List.foldl_cons]
    unfold orphanStep
    dsimp only
    split
    · exact orphans_fold es n hes' h hs
    · rename_i hloc
      have hk := keepsRuns_loadJob (w := w) e.tenantId e.jobId
      split
      · rename_i jb w₁ hl
        rw [hl] at hk
        have h₁ := h.of_keepsRuns hk
        have hnot := not_listed_of_isLocal h.coherent (by simpa using hloc)
        rw [← coordinator_eq_of hk.coordinators] at hnot
        rw [currentIndex_eq h₁.coherent.single]
        obtain ⟨hi, hch⟩ := orphans_fold es (n + 1) hes'
          (h₁.launch (by rw [hk.executions, hs]; exact he) hrun hnot jb false)
          (hk.executions.trans hs)
        have hlaunch : Changes ExecutionStatus.Advances [] [] w₁ (w₁.launch 0 jb e false) :=
          .of_eq rfl rfl
        exact ⟨hi, Changes.after_keepsRuns hk (hlaunch.trans hch (by simp))⟩
      · rename_i w₁ hl
        rw [hl] at hk
        obtain ⟨hi, hch⟩ := orphans_fold es n hes' (h.of_keepsRuns hk) (hk.executions.trans hs)
        exact ⟨hi, Changes.after_keepsRuns hk hch⟩

theorem resumeOrphans_invariant (h : Invariant w) :
    Invariant w.resumeOrphans.2 ∧ Changes ExecutionStatus.Advances [] [] w w.resumeOrphans.2 := by
  rw [resumeOrphans_eq]
  refine orphans_fold _ 0 (fun e he => ?_) h rfl
  have he' := List.mem_filter.mp he
  simp only [Bool.and_eq_true, beq_iff_eq] at he'
  exact ⟨he'.1, he'.2.1⟩

theorem halt_invariant (h : Invariant w) : Invariant (w.mapCoordinator w.currentIndex halted) := by
  rw [currentIndex_eq h.coherent.single]
  exact ⟨h.coherent.halt, LiveRunning.halt h.coherent⟩

end Cluster

end DeviceFleet.Engine
