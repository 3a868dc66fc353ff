import DeviceFleet.Proofs.Jobs.Interleaving

/-!
# The lifecycle of executions along any interleaving

Along any interleaving of the engine's moves (`Reachable`, `Run`), every stored status stays or
moves along one edge of `ExecutionStatus.Moves`; a stop answers success whatever came between
its lookup and its writes.
-/

namespace DeviceFleet.Engine

open Job Events Store ExecutionStore

/-- A request to the control surface of the engine. -/
inductive Request where
  | define (j : Job)
  | start (t j : String) (o : StartOptions)
  | stop (t j : String)
  | stopExecution (t j : String) (id : Uuid)
  | resume (t j : String) (id : Uuid)
  | clean (t j : String)
  | resumeOrphans
  | shutdown

/-- A move of the engine: a request, the act of a task, or the clock going on. -/
inductive Move where
  | request (r : Request)
  | act (n : Nat) (t : Task)
  | tick (now : Int)

namespace Cluster

variable {w w' : Cluster}

/-- What a request leaves. A stop leaves its lookup and, when that found what to stop, a task
of the coordinator that ends it; other moves may come before each of its acts. A shutdown here
is the coordinator leaving service; the runs it waits for then end by their own acts. -/
def serve (w : Cluster) : Request → Cluster
  | .define j => (w.defineJob j).2
  | .start t j o => (w.startJob t j o).2
  | .stop t j =>
    match w.stopJobLookup t j with
    | (.ok (r, qs), w) => w.spawn_ (.stopping w.currentIndex w.nextTask r qs)
    | (.error _, w) => w
  | .stopExecution t j id =>
    match w.stopExecutionLookup t j id with
    | (.ok r, w) => w.spawn_ (.stopping w.currentIndex w.nextTask r [])
    | (.error _, w) => w
  | .resume t j id => (w.resumeJobExecution t j id).2
  | .clean t j => (w.cleanJobData t j).2
  | .resumeOrphans => w.resumeOrphans.2
  | .shutdown => w.mapCoordinator w.currentIndex halted

def perform (w : Cluster) : Move → Cluster
  | .request r => w.serve r
  | .act n t => w.act n t
  | .tick now => { w with now }

/-- When a move can be made: a start draws an id nothing has used, a task acts while it is
there, and the clock does not go back. -/
def Enabled (w : Cluster) : Move → Prop
  | .request (.start ..) => w.Unused w.ids.next.1
  | .request _ => True
  | .act n t => (n, t) ∈ w.tasks
  | .tick now => w.now ≤ now

/-- The states the engine reaches from its first one. -/
inductive Reachable : Cluster → Prop where
  | initial (now : Int) (seed : UInt64) (config : EngineConfig) :
      Reachable (Cluster.initial now seed config)
  | move {w : Cluster} {m : Move} : Reachable w → w.Enabled m → Reachable (w.perform m)

/-- Moves made one after the other, each where it can be made. -/
inductive Run : Cluster → List Move → Cluster → Prop where
  | nil (w : Cluster) : Run w [] w
  | cons {w w' : Cluster} {m : Move} {ms : List Move} :
      w.Enabled m → Run (w.perform m) ms w' → Run w (m :: ms) w'

/-! ### What one move does -/

def Lawful (w : Cluster) (m : Move) (w' : Cluster) : Prop :=
  ∃ E us fresh, Changes E us fresh w w' ∧ (∀ a b, E a b → a.Moves b) ∧
    (∀ u ∈ us, ∀ b, E .stopped b → ∃ t j, m = .request (.resume t j u)) ∧
    ∀ u ∈ fresh, w.Unused u

theorem Lawful.of_advances {us fresh : List Uuid} {m : Move}
    (h : Changes ExecutionStatus.Advances us fresh w w') (hf : ∀ u ∈ fresh, w.Unused u) :
    w.Lawful m w' :=
  ⟨_, us, fresh, h, fun _ _ h => h.1, fun _ _ _ h => absurd rfl h.2, hf⟩

theorem Lawful.of_changes {us : List Uuid} {m : Move}
    (h : Changes ExecutionStatus.Advances us [] w w') : w.Lawful m w' :=
  .of_advances h (by simp)

theorem Lawful.of_keepsRuns {m : Move} (hk : KeepsRuns w w') : w.Lawful m w' :=
  .of_changes (Changes.of_keepsRuns hk : Changes ExecutionStatus.Advances [] [] w w')

theorem Invariant.perform (h : Invariant w) {m : Move} (hm : w.Enabled m) :
    Invariant (w.perform m) ∧ w.Lawful m (w.perform m) := by
  cases m with
  | request r =>
    cases r with
    | define jb =>
      have hk := keepsRuns_defineJob (w := w) jb
      exact ⟨h.of_keepsRuns hk, .of_keepsRuns hk⟩
    | start t j o =>
      obtain ⟨hi, hch⟩ := startJob_invariant h hm t j o
      refine ⟨hi, .of_advances hch fun u hu => ?_⟩
      rw [List.mem_singleton.mp hu]
      exact hm
    | stop t j =>
      obtain ⟨hk, hlook⟩ := stopJobLookup_spec w t j
      simp only [Cluster.perform, serve]
      split
      · rename_i r qs w₁ hl
        rw [hl] at hk hlook
        have h₁ := h.of_keepsRuns hk
        obtain ⟨hr, hqs⟩ := hlook r qs rfl
        rw [currentIndex_eq h₁.coherent.single]
        exact ⟨h₁.spawnStop _ hr hqs, .of_changes
          ((Changes.of_keepsRuns hk : Changes _ [] [] w w₁).then_eq rfl rfl)⟩
      · rename_i e w₁ hl
        rw [hl] at hk
        exact ⟨h.of_keepsRuns hk, .of_keepsRuns hk⟩
    | stopExecution t j id =>
      obtain ⟨hk, hlook⟩ := stopExecutionLookup_spec w t j id
      simp only [Cluster.perform, serve]
      split
      · rename_i r w₁ hl
        rw [hl] at hk hlook
        have h₁ := h.of_keepsRuns hk
        rw [currentIndex_eq h₁.coherent.single]
        exact ⟨h₁.spawnStop _ (hlook r rfl) (by simp), .of_changes
          ((Changes.of_keepsRuns hk : Changes _ [] [] w w₁).then_eq rfl rfl)⟩
      · rename_i e w₁ hl
        rw [hl] at hk
        exact ⟨h.of_keepsRuns hk, .of_keepsRuns hk⟩
    | resume t j id =>
      obtain ⟨hi, hch⟩ := resumeJobExecution_invariant h t j id
      refine ⟨hi, _, [id], [], hch, fun _ _ h => h, fun u hu _ _ => ?_, by simp⟩
      rw [List.mem_singleton.mp hu]
      exact ⟨t, j, rfl⟩
    | clean t j =>
      obtain ⟨hi, hch⟩ := cleanJobData_invariant h t j
      exact ⟨hi, .of_changes hch⟩
    | resumeOrphans =>
      obtain ⟨hi, hch⟩ := resumeOrphans_invariant h
      exact ⟨hi, .of_changes hch⟩
    | shutdown =>
      exact ⟨halt_invariant h, .of_changes (Changes.of_eq rfl rfl :
        Changes ExecutionStatus.Advances [] [] w (w.mapCoordinator w.currentIndex halted))⟩
  | act n t =>
    obtain ⟨hi, us, hch⟩ := act_invariant h hm
    exact ⟨hi, .of_changes hch⟩
  | tick now =>
    have hk : KeepsRuns w { w with now } := .of_eq rfl rfl rfl rfl rfl
    exact ⟨h.of_keepsRuns hk, .of_keepsRuns hk⟩

theorem Reachable.invariant (h : Reachable w) : Invariant w := by
  induction h with
  | initial now seed config =>
    exact ⟨Coherent.initial now seed config, LiveRunning.initial now seed config⟩
  | move _ hm ih => exact (ih.perform hm).1

theorem Reachable.runNow : ∀ (fuel : Nat) {w : Cluster}, Reachable w → Reachable (runNow fuel w)
  | 0, _, h => h
  | fuel + 1, w, h => by
    unfold Cluster.runNow
    split
    · exact h
    · rename_i n t hf
      exact Reachable.runNow fuel (h.move (m := .act n t) (List.mem_of_find?_eq_some hf))

theorem Reachable.runUntil {done : Cluster → Bool} {limit : Int} :
    ∀ (fuel : Nat) {w : Cluster}, Reachable w → Reachable (runUntil done limit fuel w).2
  | 0, _, h => h
  | fuel + 1, w, h => by
    have h₁ := Reachable.runNow actFuel h
    unfold Cluster.runUntil
    dsimp only
    split
    · exact h₁
    split
    · split
      · exact Reachable.runUntil fuel (h₁.move (m := .tick _) (le_max_left _ _))
      · exact h₁.move (m := .tick _) (le_max_left _ _)
    · exact h₁.move (m := .tick _) (le_max_left _ _)

theorem Reachable.shutdown (h : Reachable w) (limit : Nat) : Reachable (w.shutdown limit) :=
  Reachable.runUntil _ (h.move (m := .request .shutdown) trivial)

theorem Lawful.status {m : Move} (hl : w.Lawful m w') (hs : Sound w.executions)
    (hs' : Sound w'.executions) {e e' : Execution} (he : e ∈ w.executions.executions)
    (he' : e' ∈ w'.executions.executions) (hid : e.executionId = e'.executionId) :
    e.status = e'.status ∨ e.status.Moves e'.status ∧
      (e.status = .stopped → ∃ t j, m = .request (.resume t j e.executionId)) := by
  obtain ⟨E, us, fresh, hch, hE, hres, -⟩ := hl
  have hb := hs.byId_eq he
  have hb' := hs'.byId_eq he'
  rw [← hid] at hb'
  by_cases hu : e.executionId ∈ us
  · rcases hch.moves.moves _ e e' hb hb' with h | h
    · exact .inl h
    · exact .inr ⟨hE _ _ h, fun hst => hres _ hu _ (hst ▸ h)⟩
  · rw [hch.moves.others _ hu, hb] at hb'
    exact .inl (by rw [Option.some.inj hb'])

/-! ### After a stop -/

def Stilled (w : Cluster) (u : Uuid) : Prop :=
  (∀ e ∈ w.executions.executions, e.executionId = u → e.status = .stopped) ∧
    ∃ v, endKey u v ∈ w.events.keys

theorem Stilled.lawful {u : Uuid} {m : Move} (hq : w.Stilled u) (hs : Sound w.executions)
    (hs' : Sound w'.executions) (hl : w.Lawful m w')
    (hm : ∀ t j, m ≠ .request (.resume t j u)) : w'.Stilled u := by
  obtain ⟨hst, v, hv⟩ := hq
  obtain ⟨E, us, fresh, hch, -, hres, hfresh⟩ := hl
  refine ⟨fun e' he' hid => ?_, v, hch.ends _ _ hv⟩
  rcases hch.ids e' he' with ⟨x, hx, hxid⟩ | hf
  · have hxs := hst x hx (hxid.trans hid)
    have hb := hs.byId_eq hx
    rw [hxid, hid] at hb
    have hb' := hs'.byId_eq he'
    rw [hid] at hb'
    by_cases hu : u ∈ us
    · rcases hch.moves.moves _ x e' hb hb' with h | h
      · exact h ▸ hxs
      · obtain ⟨t, j, rfl⟩ := hres u hu _ (hxs ▸ h)
        exact absurd rfl (hm t j)
    · rw [hch.moves.others _ hu, hb] at hb'
      rw [← Option.some.inj hb']
      exact hxs
  · exact absurd (hid ▸ hv) ((hfresh _ hf).2.2.2.1 v)

def BeginsTarget (w : Cluster) (y : ExecTask) : Prop :=
  ∃ i t rest active again failed, y.phase = .presenting i (t :: rest) active again failed ∧
    active.findIdx? (fun k => w.replyReady k.wait) = none ∧ active.length < w.width y ∧
    w.cancelled y = false

theorem BeginsTarget.live {y : ExecTask} (h : w.BeginsTarget y) : w.Live y := by
  obtain ⟨i, t, rest, active, again, failed, hp, -, -, hc⟩ := h
  exact ⟨hc, by rw [hp]; rfl⟩

theorem Stilled.not_begins {u : Uuid} (hq : w.Stilled u) (h : Invariant w) {n : Nat}
    {y : ExecTask} (hy : (n, Task.execution y) ∈ w.tasks) (hid : y.execution.executionId = u) :
    ¬ w.BeginsTarget y := by
  intro hb
  obtain ⟨e, he, heid, hrun⟩ := h.live n y hy hb.live
  have hst := hq.1 e he (heid.trans hid)
  rw [hrun] at hst
  cases hst

theorem Run.stilled {u : Uuid} {ms : List Move} (hr : Run w ms w') :
    Invariant w → w.Stilled u → (∀ t j, Move.request (.resume t j u) ∉ ms) →
      Invariant w' ∧ w'.Stilled u := by
  induction hr with
  | nil w => exact fun h hq _ => ⟨h, hq⟩
  | cons hen _ ih =>
    intro h hq hm
    obtain ⟨h₁, hl⟩ := h.perform hen
    refine ih h₁ (hq.lawful h.coherent.sound h₁.coherent.sound hl fun t j he => ?_)
      fun t j hmem => hm t j (List.mem_cons_of_mem _ hmem)
    exact hm t j (he ▸ List.mem_cons_self ..)

/-- Execution `u` is stored stopped, and along any moves that do not resume it, no run of it is
ever about to begin a target. -/
def StaysStopped (w : Cluster) (u : Uuid) : Prop :=
  (∃ e ∈ w.executions.executions, e.executionId = u ∧ e.status = .stopped) ∧
    ∀ ms w', Run w ms w' → (∀ t j, Move.request (.resume t j u) ∉ ms) →
      ∀ n y, (n, Task.execution y) ∈ w'.tasks → y.execution.executionId = u →
        ¬ w'.BeginsTarget y

theorem staysStopped_of {u : Uuid} (h : Invariant w)
    (hst : ∃ e ∈ w.executions.executions, e.executionId = u ∧ e.status = .stopped)
    (hkey : ∃ v, endKey u v ∈ w.events.keys) : w.StaysStopped u := by
  obtain ⟨e, he, heid, hes⟩ := hst
  have hq : w.Stilled u :=
    ⟨fun e' he' hid => h.coherent.sound.eq_of_id he' he (hid.trans heid.symm) ▸ hes, hkey⟩
  refine ⟨⟨e, he, heid, hes⟩, fun ms w' hr hm n y hy hid => ?_⟩
  obtain ⟨h', hq'⟩ := hr.stilled h hq hm
  exact hq'.not_begins h' hy hid

/-! ### The lifecycle -/

/-- The laws of the executions' lifecycle at a state of the engine. -/
structure LifecycleLaws (w : Cluster) : Prop where
  moves : ∀ m, w.Enabled m → ∀ e ∈ w.executions.executions,
    ∀ e' ∈ (w.perform m).executions.executions, e.executionId = e'.executionId →
      e.status = e'.status ∨ e.status.Moves e'.status ∧
        (e.status = .stopped → ∃ t j, m = .request (.resume t j e.executionId))
  stopAnswers : ∀ n i c r, (n, Task.stopping i c r []) ∈ w.tasks →
    (w.perform (.act n (.stopping i c r []))).ended.getLast? = some (c, .stopped (.ok ()))
  stopStills : ∀ n i c r, (n, Task.stopping i c r []) ∈ w.tasks →
    (∃ x ∈ w.executions.executions, x.executionId = r.executionId ∧ x.version = r.version ∧
      x.status = .running) →
    (w.perform (.act n (.stopping i c r []))).StaysStopped r.executionId

/-- In every state the engine reaches, every move leaves each stored status as it was or moves
it along one edge of `ExecutionStatus.Moves` (so a completed execution stays completed), out of
stopped only by a resume of that execution. The last act of a stop in flight, which ends the
running execution its lookup found, answers success; when that execution is still stored
running at the version the lookup read, the act leaves it stored stopped, with no run of it
about to begin a target until it is resumed. -/
theorem execution_lifecycle (h : Reachable w) : LifecycleLaws w := by
  have hi := h.invariant
  refine ⟨fun m hm e he e' he' hid => ?_, fun n i c r hs => (act_stopping_last hi hs).1,
    fun n i c r hs hcur => ?_⟩
  · obtain ⟨hi', hl⟩ := hi.perform hm
    exact hl.status hi.coherent.sound hi'.coherent.sound he he' hid
  · obtain ⟨hst, hkey⟩ := (act_stopping_last hi hs).2 hcur
    exact staysStopped_of (act_invariant hi hs).1 hst ⟨_, hkey⟩

theorem start_lifecycle :
    Reachable ((Cluster.initial 0 0 default).perform
        (.request (.start "acme" "nightly" {}))) ∧
      LifecycleLaws ((Cluster.initial 0 0 default).perform
        (.request (.start "acme" "nightly" {}))) :=
  have hr : Reachable ((Cluster.initial 0 0 default).perform
      (.request (.start "acme" "nightly" {}))) :=
    .move (.initial 0 0 default) ⟨(fun _ h => by cases h), (fun _ _ h => by cases h),
      (fun _ h => by cases h), (fun _ h => by cases h), (fun _ _ _ _ _ h => by cases h)⟩
  ⟨hr, execution_lifecycle hr⟩

def haltJob : Job :=
  { jobId := "halt", tenantId := "1", name := "halt", targetIds := ["gw-1"],
    steps := [{ name := "a", processor := "scripted",
                template := { appName := "BUN-V1", method := .read } }] }

def haltDefined : Cluster :=
  (Cluster.initial 0 0 default).perform (.request (.define haltJob))

def haltRead : Execution :=
  .create haltDefined.ids.next.1 "1" "halt" {} (default : EngineConfig).nodeId .running 0

def haltLookedUp : Cluster :=
  ((haltDefined.perform (.request (.start "1" "halt" {}))).perform
    (.request (.stopExecution "1" "halt" haltRead.executionId))).perform
    (.request (.stopExecution "1" "halt" haltRead.executionId))

def haltResumed : Cluster :=
  (runNow 3 (haltLookedUp.perform (.act 2 (.stopping 0 2 haltRead [])))).perform
    (.request (.resume "1" "halt" haltRead.executionId))

/-- The first stop's lookup read the execution running. A second stop ends it, its run winds
down, and it is resumed at a later version; the first stop's end, of the version it read, then
answers success with the execution stored running. -/
theorem stop_answers_while_execution_runs :
    Reachable haltResumed ∧ (1, Task.stopping 0 1 haltRead []) ∈ haltResumed.tasks ∧
      (haltResumed.perform (.act 1 (.stopping 0 1 haltRead []))).ended.getLast? =
        some (1, .stopped (.ok ())) ∧
      ∃ e ∈ (haltResumed.perform (.act 1 (.stopping 0 1 haltRead []))).executions.executions,
        e.executionId = haltRead.executionId ∧ e.status = .running := by
  have hnone : (Cluster.initial 0 0 default).Unused haltDefined.ids.next.1 :=
    ⟨(fun _ h => by cases h), (fun _ _ h => by cases h), (fun _ h => by cases h),
      (fun _ h => by cases h), (fun _ _ _ _ _ h => by cases h)⟩
  have hdef : Reachable haltDefined := .move (.initial 0 0 default) trivial
  have hlook : Reachable haltLookedUp :=
    ((hdef.move (m := .request (.start "1" "halt" {}))
      (hnone.of_keepsRuns (keepsRuns_defineJob haltJob))).move
      (m := .request (.stopExecution "1" "halt" haltRead.executionId)) trivial).move
      (m := .request (.stopExecution "1" "halt" haltRead.executionId)) trivial
  have hsecond : (2, Task.stopping 0 2 haltRead []) ∈ haltLookedUp.tasks := by decide +kernel
  have hres : Reachable haltResumed :=
    (Reachable.runNow 3 (hlook.move (m := .act 2 (.stopping 0 2 haltRead [])) hsecond)).move
      (m := .request (.resume "1" "halt" haltRead.executionId)) trivial
  have hfirst : (1, Task.stopping 0 1 haltRead []) ∈ haltResumed.tasks := by decide +kernel
  exact ⟨hres, hfirst, (act_stopping_last hres.invariant hfirst).1, by decide +kernel⟩

end Cluster

end DeviceFleet.Engine
