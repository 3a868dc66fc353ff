import DeviceFleet.Proofs.Jobs.RunFrame
import DeviceFleet.Proofs.Jobs.Executions

/-!
# How an execution's status moves

After creation a status moves only along five edges (`ExecutionStatus.Moves`); what each write
of the execution store does to a stored status, and what ending an execution does.
-/

namespace DeviceFleet.Job

/-- The moves an execution's status makes. -/
inductive ExecutionStatus.Moves : ExecutionStatus → ExecutionStatus → Prop
  | run : Moves .queued .running
  | drop : Moves .queued .stopped
  | stop : Moves .running .stopped
  | complete : Moves .running .completed
  | resume : Moves .stopped .running

namespace ExecutionStatus

def Advances (a b : ExecutionStatus) : Prop :=
  a.Moves b ∧ a ≠ .stopped

end ExecutionStatus

namespace ExecutionStore

variable {s s' s'' : ExecutionStore} {e x : Execution} {u : Uuid} {t j n : String}

def byId (s : ExecutionStore) (u : Uuid) : Option Execution :=
  s.executions.find? (·.executionId == u)

theorem mem_of_byId (h : s.byId u = some e) : e ∈ s.executions ∧ e.executionId = u :=
  ⟨List.mem_of_find?_eq_some h, by simpa using List.find?_some h⟩

theorem Sound.byId_eq (hs : Sound s) (he : e ∈ s.executions) : s.byId e.executionId = some e := by
  cases h : s.byId e.executionId with
  | none =>
    rw [byId, List.find?_eq_none] at h
    exact absurd (by simp) (h e he)
  | some y =>
    obtain ⟨hy, hid⟩ := mem_of_byId h
    rw [hs.eq_of_id hy he hid]

theorem mem_of_find (h : s.find t j u = some e) :
    e ∈ s.executions ∧ e.tenantId = t ∧ e.jobId = j ∧ e.executionId = u := by
  have he := mem_list.mp (List.mem_of_find?_eq_some h)
  exact ⟨he.1, he.2.1, he.2.2, by simpa using List.find?_some h⟩

theorem Sound.byId_of_find (hs : Sound s) (h : s.find t j u = some e) : s.byId u = some e := by
  obtain ⟨he, -, -, rfl⟩ := mem_of_find h
  exact hs.byId_eq he

theorem byId_put (s : ExecutionStore) (e : Execution) (u : Uuid) :
    (s.put e).byId u =
      (s.byId u).map fun x => if x.executionId == e.executionId then e else x := by
  unfold byId put
  rw [List.find?_map]
  congr 2
  funext y
  simp only [Function.comp_apply]
  split
  · rename_i h
    rw [beq_iff_eq.mp h]
  · rfl

theorem byId_put_self (h : s.byId e.executionId = some x) : (s.put e).byId e.executionId = some e := by
  rw [byId_put, h]
  simp [(mem_of_byId h).2]

theorem byId_put_of_ne (h : u ≠ e.executionId) : (s.put e).byId u = s.byId u := by
  rw [byId_put]
  cases hb : s.byId u with
  | none => rfl
  | some y =>
    have hy := (mem_of_byId hb).2
    simp [hy, h]

theorem status_of_firstQueued {es : List Execution} {q : Execution} (h : firstQueued es = some q) :
    q.status = .queued := by
  have hs := firstQueued_spec es
  rw [h] at hs
  obtain ⟨-, -, -, hq, -⟩ := hs
  exact hq

/-! ### Moves of stored statuses -/

/-- `s'` differs from `s` only at the ids `us`, and every status stored under an id before and
after was kept or made a move `E`. -/
structure MovesWithin (E : ExecutionStatus → ExecutionStatus → Prop) (us : List Uuid)
    (s s' : ExecutionStore) : Prop where
  others : ∀ u, u ∉ us → s'.byId u = s.byId u
  moves : ∀ u e e', s.byId u = some e → s'.byId u = some e' →
    e.status = e'.status ∨ E e.status e'.status

variable {E E' : ExecutionStatus → ExecutionStatus → Prop} {us us' : List Uuid}

theorem MovesWithin.of_eq (h : s' = s) : MovesWithin E [] s s' := by
  subst h
  exact ⟨fun _ _ => rfl, fun _ e e' h h' => .inl (by rw [Option.some.inj (h.symm.trans h')])⟩

theorem MovesWithin.trans (h₁ : MovesWithin E us s s') (h₂ : MovesWithin E us' s' s'')
    (hd : ∀ u ∈ us, u ∉ us') : MovesWithin E (us ++ us') s s'' := by
  refine ⟨fun u hu => ?_, fun u e e'' he he'' => ?_⟩
  · rw [List.mem_append, not_or] at hu
    rw [h₂.others u hu.2, h₁.others u hu.1]
  · by_cases hu : u ∈ us
    · have h₃ : s'.byId u = some e'' := (h₂.others u (hd u hu)) ▸ he''
      exact h₁.moves u e e'' he h₃
    · exact h₂.moves u e e'' (h₁.others u hu ▸ he) he''

theorem MovesWithin.mono (h : MovesWithin E us s s') (hE : ∀ a b, E a b → E' a b)
    (hu : ∀ u ∈ us, u ∈ us') : MovesWithin E' us' s s' := by
  refine ⟨fun u hn => h.others u fun hm => hn (hu u hm), fun u e e' he he' => ?_⟩
  rcases h.moves u e e' he he' with h' | h'
  · exact .inl h'
  · exact .inr (hE _ _ h')

theorem movesWithin_put (hx : s.byId e.executionId = some x)
    (hm : x.status = e.status ∨ E x.status e.status) :
    MovesWithin E [e.executionId] s (s.put e) := by
  refine ⟨fun u hu => byId_put_of_ne (by simpa using hu), fun u y y' hy hy' => ?_⟩
  by_cases hu : u = e.executionId
  · rw [hu] at hy hy'
    rw [hx] at hy
    rw [byId_put_self hx] at hy'
    rw [← Option.some.inj hy, ← Option.some.inj hy']
    exact hm
  · rw [byId_put_of_ne hu] at hy'
    exact .inl (by rw [Option.some.inj (hy.symm.trans hy')])

theorem byId_append_of_ne (h : u ≠ e.executionId) :
    (⟨s.executions ++ [e]⟩ : ExecutionStore).byId u = s.byId u := by
  unfold byId
  rw [List.find?_append]
  have hn : [e].find? (·.executionId == u) = none := by
    simp [Ne.symm h]
  rw [hn, Option.or_none]

theorem movesWithin_append (hid : e.executionId ∉ s.executions.map (·.executionId)) :
    MovesWithin E [e.executionId] s ⟨s.executions ++ [e]⟩ := by
  refine ⟨fun u hu => byId_append_of_ne (by simpa using hu), fun u y y' hy hy' => ?_⟩
  have hne : u ≠ e.executionId := by
    rintro rfl
    obtain ⟨hm, hyid⟩ := mem_of_byId hy
    exact hid (List.mem_map.mpr ⟨y, hm, hyid⟩)
  rw [byId_append_of_ne hne, hy] at hy'
  exact .inl (by rw [Option.some.inj hy'])

theorem movesWithin_filter (hs : Sound s) (p : Execution → Bool) :
    MovesWithin E (s.executions.map (·.executionId)) s ⟨s.executions.filter p⟩ := by
  refine ⟨fun u hu => ?_, fun u y y' hy hy' => ?_⟩
  · have hnone : ∀ l : List Execution, (∀ x ∈ l, x.executionId ≠ u) →
        l.find? (·.executionId == u) = none := fun l hl => by
      rw [List.find?_eq_none]
      intro x hx
      simpa using hl x hx
    have hl : ∀ x ∈ s.executions, x.executionId ≠ u := fun x hx hxu =>
      hu (List.mem_map.mpr ⟨x, hx, hxu⟩)
    unfold byId
    rw [hnone _ hl, hnone _ fun x hx => hl x (List.mem_filter.mp hx).1]
  · obtain ⟨hm', hid'⟩ := mem_of_byId hy'
    have hb := hs.byId_eq (List.mem_filter.mp hm').1
    rw [hid', hy] at hb
    exact .inl (by rw [Option.some.inj hb])

/-! ### Where records come from -/

def IdsFrom (fresh : List Uuid) (s s' : ExecutionStore) : Prop :=
  ∀ y ∈ s'.executions, (∃ x ∈ s.executions, x.executionId = y.executionId) ∨ y.executionId ∈ fresh

theorem IdsFrom.of_eq (h : s' = s) : IdsFrom [] s s' :=
  fun y hy => .inl ⟨y, h ▸ hy, rfl⟩

theorem IdsFrom.trans {f f' : List Uuid} (h₁ : IdsFrom f s s') (h₂ : IdsFrom f' s' s'') :
    IdsFrom (f ++ f') s s'' := by
  intro y hy
  rcases h₂ y hy with ⟨x, hx, hid⟩ | hf
  · rcases h₁ x hx with ⟨x', hx', hid'⟩ | hf
    · exact .inl ⟨x', hx', hid'.trans hid⟩
    · exact .inr (List.mem_append_left _ (hid ▸ hf))
  · exact .inr (List.mem_append_right _ hf)

theorem IdsFrom.mono {f f' : List Uuid} (h : IdsFrom f s s') (hf : ∀ u ∈ f, u ∈ f') :
    IdsFrom f' s s' :=
  fun y hy => (h y hy).imp_right (hf _)

theorem idsFrom_put (hx : s.byId e.executionId = some x) : IdsFrom [] s (s.put e) := by
  intro y hy
  rcases mem_put hy with rfl | ⟨hy, -⟩
  · exact .inl ⟨x, (mem_of_byId hx).1, (mem_of_byId hx).2⟩
  · exact .inl ⟨y, hy, rfl⟩

theorem idsFrom_append (e : Execution) : IdsFrom [e.executionId] s ⟨s.executions ++ [e]⟩ := by
  intro y hy
  rcases List.mem_append.mp hy with hy | hy
  · exact .inl ⟨y, hy, rfl⟩
  · rw [List.mem_singleton.mp hy]
    exact .inr (List.mem_singleton_self _)

theorem idsFrom_filter (p : Execution → Bool) : IdsFrom [] s ⟨s.executions.filter p⟩ :=
  fun y hy => .inl ⟨y, (List.mem_filter.mp hy).1, rfl⟩

/-! ### What the execution store's calls move -/

theorem movesWithin_tryBegin {o : StartOptions} {id : Uuid} {now : Int}
    (hid : id ∉ s.executions.map (·.executionId)) :
    MovesWithin E [id] s (s.tryBegin t j o n id now).2 := by
  rcases tryBegin_cases s t j o n id now with ⟨-, heq⟩ | ⟨-, -, heq⟩ | ⟨_, -, -, heq⟩ <;>
    rw [heq]
  · exact movesWithin_append (e := Execution.create id t j o n .running now) hid
  · exact movesWithin_append (e := Execution.create id t j o n .queued now) hid
  · exact (MovesWithin.of_eq rfl).mono (fun _ _ h => h) (by simp)

theorem idsFrom_tryBegin (o : StartOptions) (id : Uuid) (now : Int) :
    IdsFrom [id] s (s.tryBegin t j o n id now).2 := by
  rcases tryBegin_cases s t j o n id now with ⟨-, heq⟩ | ⟨-, -, heq⟩ | ⟨_, -, -, heq⟩ <;>
    rw [heq]
  · exact idsFrom_append (Execution.create id t j o n .running now)
  · exact idsFrom_append (Execution.create id t j o n .queued now)
  · exact (IdsFrom.of_eq rfl).mono (by simp)

theorem tryResume_found (s : ExecutionStore) (t j : String) (id : Uuid) (n : String) (now : Int) :
    ((s.tryResume t j id n now).2 = s ∧ ∀ e, (s.tryResume t j id n now).1 ≠ .resumed e) ∨
      ∃ e, s.find t j id = some e ∧ s.running t j = [] ∧ e.status = .stopped ∧
        s.tryResume t j id n now = (.resumed (resumed e n now), s.put (resumed e n now)) := by
  unfold tryResume
  cases hf : s.find t j id with
  | none => exact .inl ⟨rfl, fun _ h => by cases h⟩
  | some e =>
    cases hr : s.findRunning t j with
    | some cur =>
      left
      simp only
      split <;> exact ⟨rfl, fun _ h => by cases h⟩
    | none =>
      simp only
      by_cases hs : e.status = .stopped
      · exact .inr ⟨e, rfl, findRunning_eq_none.mp hr, hs, by simp [hs, resumed]⟩
      · left
        simp [hs]

theorem movesWithin_tryResume (hs : Sound s) (id : Uuid) (now : Int) :
    MovesWithin ExecutionStatus.Moves [id] s (s.tryResume t j id n now).2 := by
  rcases tryResume_found s t j id n now with ⟨heq, -⟩ | ⟨e, hf, -, hst, heq⟩
  · rw [heq]
    exact (MovesWithin.of_eq rfl).mono (fun _ _ h => h) (by simp)
  · rw [heq]
    obtain ⟨-, -, -, rfl⟩ := mem_of_find hf
    refine movesWithin_put (e := resumed e n now) (hs.byId_of_find hf) (.inr ?_)
    rw [hst]
    exact .resume

theorem movesWithin_promoteNext (hs : Sound s) (now : Int) :
    ∃ us, MovesWithin ExecutionStatus.Advances us s (s.promoteNext t j n now).2 ∧
      ∀ u ∈ us, ∃ q ∈ s.executions, q.executionId = u ∧ q.status = .queued := by
  rcases promoteNext_cases s t j n now with ⟨heq, -⟩ | ⟨q, -, hq, heq⟩ <;> rw [heq]
  · exact ⟨[], .of_eq rfl, by simp⟩
  · have hm := (mem_list.mp (mem_list_of_firstQueued hq)).1
    have hqs := status_of_firstQueued hq
    refine ⟨[q.executionId], movesWithin_put (e := promoted q n now) (x := q) (hs.byId_eq hm) (.inr ?_),
      by simpa using ⟨q, hm, rfl, hqs⟩⟩
    rw [hqs]
    exact ⟨.run, by decide⟩

theorem idsFrom_tryResume (hs : Sound s) (id : Uuid) (now : Int) :
    IdsFrom [] s (s.tryResume t j id n now).2 := by
  rcases tryResume_found s t j id n now with ⟨heq, -⟩ | ⟨e, hf, -, -, heq⟩ <;> rw [heq]
  · exact .of_eq rfl
  · obtain ⟨-, -, -, rfl⟩ := mem_of_find hf
    exact idsFrom_put (e := resumed e n now) (hs.byId_of_find hf)

theorem idsFrom_promoteNext (hs : Sound s) (now : Int) :
    IdsFrom [] s (s.promoteNext t j n now).2 := by
  rcases promoteNext_cases s t j n now with ⟨heq, -⟩ | ⟨q, -, hq, heq⟩ <;> rw [heq]
  · exact .of_eq rfl
  · exact idsFrom_put (e := promoted q n now) (x := q)
      (hs.byId_eq (mem_list.mp (mem_list_of_firstQueued hq)).1)

def ended (cur : Execution) (status : ExecutionStatus) (now : Int) : Execution :=
  { cur with status, endedOn := some now, version := cur.version + 1 }

end ExecutionStore

end DeviceFleet.Job

namespace DeviceFleet.Engine

open Job Events Store ExecutionStore

namespace Cluster

variable {w w' : Cluster} {node : String} {e : Execution} {src tgt : ExecutionStatus}

/-! ### Ending an execution -/

def endEvent (e : Execution) (tgt : ExecutionStatus) : ServiceEvent :=
  jobEvent ("execution:" ++ e.executionId.text ++ ":v" ++ Text.natText e.version ++ ":end")
    e.tenantId "job-execution" e.executionId.text .updated
    (some (.obj [("jobId", .str e.jobId), ("status", .str tgt.name)]))

/-- What an end does once recorded: the execution, if stored with status `src`, is ended with
status `tgt`. -/
def endEffect (e : Execution) (src tgt : ExecutionStatus) (w : Cluster) :
    Except StoreError (Unit × Cluster) :=
  match w.executions.find e.tenantId e.jobId e.executionId with
  | none => .ok ((), w)
  | some current =>
    if current.status != src then .ok ((), w)
    else
      (w.executions.update { current with status := tgt, endedOn := some w.nowMs }).map
        fun (_, s) => ((), { w with executions := s })

theorem endEvent_key (e : Execution) (tgt : ExecutionStatus) :
    (endEvent e tgt).key = endKey e.executionId e.version := rfl

theorem endExecution_snd (w : Cluster) (node : String) (e : Execution) (src tgt : ExecutionStatus) :
    (w.endExecution node e src tgt).2 = (w.recordOnce node (endEvent e tgt) (endEffect e src tgt)).2 := by
  unfold endExecution
  dsimp only
  split <;> rename_i heq <;> exact (congrArg Prod.snd heq).symm

theorem endEffect_cases (e : Execution) (src : ExecutionStatus) (hs : w.executions.Sound) (htgt : tgt ≠ .running) :
    (endEffect e src tgt w = .ok ((), w) ∧
        ∀ cur, w.executions.find e.tenantId e.jobId e.executionId = some cur → cur.status ≠ src) ∨
      ∃ cur, w.executions.find e.tenantId e.jobId e.executionId = some cur ∧ cur.status = src ∧
        endEffect e src tgt w = .ok ((), { w with executions := w.executions.put (ExecutionStore.ended cur tgt w.nowMs) }) := by
  unfold endEffect
  cases hf : w.executions.find e.tenantId e.jobId e.executionId with
  | none => exact .inl ⟨rfl, fun _ h => by cases h⟩
  | some cur =>
    by_cases hst : cur.status = src
    · -- the write is of the record as stored, and ends it, so it succeeds
      obtain ⟨hm, ht, hj, hid⟩ := mem_of_find hf
      obtain ⟨r, hr⟩ := update_ok_of (e := { cur with status := tgt, endedOn := some w.nowMs }) hs
        (x := cur) (mem_list.mpr ⟨hm, rfl, rfl⟩) rfl rfl (fun h => absurd h htgt)
      obtain ⟨-, -, rfl⟩ := update_cases hr
      refine .inr ⟨cur, rfl, hst, ?_⟩
      simp only [hst, bne_self_eq_false, Bool.false_eq_true, if_false, hr]
      rfl
    · refine .inl ⟨?_, fun c hc => ?_⟩
      · simp [hst]
      · rw [Option.some.inj hc] at hst
        exact hst

theorem endEffect_ok (e : Execution) (src : ExecutionStatus) (hs : w.executions.Sound)
    (htgt : tgt ≠ .running) : ∃ w₂, endEffect e src tgt w = .ok ((), w₂) ∧ w₂.events = w.events := by
  rcases endEffect_cases e src hs htgt with ⟨heff, -⟩ | ⟨cur, -, -, heff⟩
  · exact ⟨w, heff, rfl⟩
  · exact ⟨_, heff, rfl⟩

/-- What an end leaves of the runs: the coordinators and runs, the recorded ends, and no new one
but its own. -/
structure EndFrame (e : Execution) (w w' : Cluster) : Prop where
  coordinators : w'.coordinators = w.coordinators
  tasks : TasksKept w w'
  tombstones : w'.events.tombstones = w.events.tombstones
  ends : ∀ u v, endKey u v ∈ w'.events.keys →
    endKey u v ∈ w.events.keys ∨ (u = e.executionId ∧ v = e.version)
  kept : ∀ u v, endKey u v ∈ w.events.keys → endKey u v ∈ w'.events.keys

/-- Ending an execution. Either the stored executions stay as they were, and then the end was
recorded already, or purged, or no execution of `e`'s job with `e`'s id has status `src`; or
that execution had status `src` and is ended. -/
theorem endExecution_cases (hs : w.executions.Sound) (htgt : tgt ≠ .running)
    (h : (w.endExecution node e src tgt).2 = w') :
    EndFrame e w w' ∧
      ((w'.executions = w.executions ∧
          (endKey e.executionId e.version ∈ w.events.keys ∨
            w.events.isTombstoned (endKey e.executionId e.version) = true ∨
            ∀ cur, w.executions.find e.tenantId e.jobId e.executionId = some cur →
              cur.status ≠ src)) ∨
        ∃ cur, w.executions.find e.tenantId e.jobId e.executionId = some cur ∧
          cur.status = src ∧ w'.executions = w.executions.put (ExecutionStore.ended cur tgt w.nowMs)) := by
  rw [endExecution_snd] at h
  subst h
  rcases recordOnce_cases w node (endEvent e tgt) (endEffect e src tgt) with
    ⟨hdup, hk⟩ | ⟨w₁, hnow, hx, hc, ht, hn, hts, hk, hg, -, -, hr⟩
  · rw [hdup]
    exact ⟨⟨rfl, ⟨fun _ _ => Iff.rfl, fun _ _ _ _ _ => Iff.rfl, id⟩, rfl, fun u v h => .inl h,
      fun u v h => h⟩, .inl ⟨rfl, by
      rcases hk with hk | hk
      · exact .inl hk
      · exact .inr (.inl hk)⟩⟩
  · have hs₁ : w₁.executions.Sound := hx ▸ hs
    -- the effect never fails, so the record's run went through its result
    obtain ⟨w₂, hv, hkeep⟩ : ∃ w₂, endEffect e src tgt w₁ = .ok ((), w₂) ∧
        KeepsRuns w₂ (w.recordOnce node (endEvent e tgt) (endEffect e src tgt)).2 := by
      rcases hr with ⟨err, herr, -, -⟩ | ⟨v, w₂, hv, hkeep⟩
      · obtain ⟨_, heff, -⟩ := endEffect_ok e src hs₁ htgt
        rw [heff] at herr
        cases herr
      · exact ⟨w₂, hv, hkeep⟩
    have hframe : ∀ w₂ : Cluster, w₂.coordinators = w₁.coordinators → w₂.tasks = w₁.tasks →
        w₂.nextTask = w₁.nextTask → w₂.events = w₁.events →
        KeepsRuns w₂ (w.recordOnce node (endEvent e tgt) (endEffect e src tgt)).2 →
        EndFrame e w (w.recordOnce node (endEvent e tgt) (endEffect e src tgt)).2 := by
      intro w₂ hc₂ ht₂ hn₂ he₂ hk₂
      refine ⟨hk₂.coordinators.trans (hc₂.trans hc), ⟨fun n x => ?_, fun n i c r qs => ?_,
        fun hnum => ?_⟩, hk₂.events.tombstones.trans (he₂ ▸ hts), fun u v hu => ?_, fun u v hu => ?_⟩
      · rw [hk₂.tasks.runs n x, ht₂, ht]
      · rw [hk₂.tasks.stops n i c r qs, ht₂, ht]
      · refine hk₂.tasks.numbered ?_
        unfold TasksNumbered
        rw [ht₂, hn₂, ht, hn]
        exact hnum
      · have h₁ := (hk₂.events.ends u v).mp hu
        rw [he₂] at h₁
        rcases hk _ h₁ with h₂ | h₂
        · exact .inl h₂
        · exact .inr (endKey_inj (h₂.trans (endEvent_key e tgt)))
      · refine (hk₂.events.ends u v).mpr ?_
        rw [he₂]
        exact hg _ hu
    rcases endEffect_cases e src hs₁ htgt with ⟨heff, hno⟩ | ⟨cur, hf, hst, heff⟩
    · rw [heff] at hv
      obtain rfl : w₁ = w₂ := (Prod.mk.inj (Except.ok.inj hv)).2
      refine ⟨hframe w₁ rfl rfl rfl rfl hkeep, .inl ⟨hkeep.executions.trans hx, ?_⟩⟩
      rw [hx] at hno
      exact .inr (.inr hno)
    · rw [heff] at hv
      have hw₂ := (Prod.mk.inj (Except.ok.inj hv)).2
      subst hw₂
      refine ⟨hframe { w₁ with executions := w₁.executions.put (ExecutionStore.ended cur tgt w₁.nowMs) }
        rfl rfl rfl rfl hkeep, .inr ⟨cur, hx ▸ hf, hst, ?_⟩⟩
      rw [hkeep.executions, hx]
      simp only [nowMs, hnow]

theorem events_heard (w : Cluster) (e : ServiceEvent) : (w.heard e).events = w.events := by
  unfold heard
  split <;> rfl

/-- An event recorded for the first time, while nothing was purged, with an effect that leaves
the events alone, goes through: the claim is new, and marking it processed succeeds, so every
recorded end that was processed still is. -/
theorem recordOnce_of_fresh {α : Type} {ev : ServiceEvent}
    {effect : Cluster → Except StoreError (α × Cluster)} (hk : ev.key ∉ w.events.keys)
    (ht : w.events.tombstones = [])
    (heff : ∀ w₁ : Cluster, w₁.executions = w.executions →
      ∃ v w₂, effect w₁ = .ok (v, w₂) ∧ w₂.events = w₁.events) :
    (∃ v, (w.recordOnce node ev effect).1 = .ok (.applied v)) ∧
      (w.events.EndsDone → (w.recordOnce node ev effect).2.events.EndsDone) := by
  obtain ⟨r, s, g, hc⟩ : ∃ r s g, w.events.claim ev node (w.config.claimLeaseMs * 1000) w.now w.ids =
      (.claimed r, s, g) := EventStore.claim_of_not_mem_keys hk ht
  obtain ⟨-, ⟨-, hr, -, hs⟩ | ⟨r₀, hf, -⟩⟩ := EventStore.claim_eq_claimed hc
  · obtain ⟨v, w₂, hv, hev⟩ := heff { w with events := s, ids := g } rfl
    have hb : s.byId r.recordId = some r := by
      refine EventStore.byId_eq_some.mpr ⟨ev.key, ?_, ?_⟩
      · have hl := EventStore.lookup_filter_id (· != r.recordId) r.recordId w.events.keysById
        simp only [bne_self_eq_false, Bool.false_eq_true, if_false] at hl
        rw [hs]
        simp [List.lookup_append, hl]
      · have hn : w.events.records.find? (·.key == ev.key) = none :=
          EventStore.find_eq_none_of_not_mem_keys hk
        rw [hs]
        simp only [EventStore.find, List.find?_append, hn, Option.none_or]
        simp [hr, EventRecord.key]
    have hu : r.status = .unprocessed := by rw [hr]
    have hrec : w.recordOnce node ev effect =
        (.ok (.applied v), ({ w₂ with events :=
          { s.put { r with status := .processed, inFlight := false, claimedOn := none,
                           sequence := s.lastSequence + 1 } with
            lastSequence := s.lastSequence + 1 } }.heard ev)) := by
      unfold recordOnce
      rw [hc]
      dsimp only
      rw [hv]
      dsimp only
      rw [hev, EventStore.markProcessed_of_unprocessed hb hu]
    refine ⟨⟨v, by rw [hrec]⟩, fun hd => ?_⟩
    rw [hrec, events_heard]
    refine EventStore.EndsDone.put_over (fun x hx hne hkx => ?_) rfl
    rw [hs] at hx
    rcases List.mem_append.mp hx with hx | hx
    · exact hd x hx hkx
    · rw [List.mem_singleton.mp hx] at hne
      exact absurd rfl hne
  · rw [EventStore.find_eq_none_of_not_mem_keys hk] at hf
    cases hf

theorem endExecution_eq (w : Cluster) (node : String) (e : Execution) (src tgt : ExecutionStatus) :
    w.endExecution node e src tgt =
      match w.recordOnce node (endEvent e tgt) (endEffect e src tgt) with
      | (.ok _, w) => (.ok (), w)
      | (.error f, w) =>
        (.error (.events (f.eventError (endEvent e tgt).contextId (endEvent e tgt).sourceService)), w) :=
  rfl

theorem recordOnce_end_of_fresh (hs : w.executions.Sound) (htgt : tgt ≠ .running)
    (hk : endKey e.executionId e.version ∉ w.events.keys) (ht : w.events.tombstones = []) :
    (∃ v, (w.recordOnce node (endEvent e tgt) (endEffect e src tgt)).1 = .ok (.applied v)) ∧
      (w.events.EndsDone →
        (w.recordOnce node (endEvent e tgt) (endEffect e src tgt)).2.events.EndsDone) :=
  recordOnce_of_fresh (endEvent_key e tgt ▸ hk) ht fun _ hx =>
    have ⟨w₂, heff, hev⟩ := endEffect_ok e src (hx ▸ hs) htgt
    ⟨(), w₂, heff, hev⟩

theorem endExecution_ok_of_fresh (hs : w.executions.Sound) (htgt : tgt ≠ .running)
    (hk : endKey e.executionId e.version ∉ w.events.keys) (ht : w.events.tombstones = []) :
    (w.endExecution node e src tgt).1 = .ok () := by
  have hrec : ∃ v, (w.recordOnce node (endEvent e tgt) (endEffect e src tgt)).1 = .ok (.applied v) :=
    (recordOnce_end_of_fresh hs htgt hk ht).1
  obtain ⟨v, hv⟩ := hrec
  rw [endExecution_eq]
  cases hr : w.recordOnce node (endEvent e tgt) (endEffect e src tgt) with
  | mk r w' =>
    rw [hr] at hv
    dsimp only at hv
    rw [hv]

theorem endExecution_recorded (hs : w.executions.Sound) (htgt : tgt ≠ .running)
    (hk : endKey e.executionId e.version ∉ w.events.keys) (ht : w.events.tombstones = []) :
    endKey e.executionId e.version ∈ (w.endExecution node e src tgt).2.events.keys := by
  rw [endExecution_snd]
  rcases recordOnce_cases w node (endEvent e tgt) (endEffect e src tgt) with
    ⟨-, hk'⟩ | ⟨w₁, -, hx, -, -, -, -, -, -, hmem, -, hr⟩
  · rcases hk' with hk' | hk'
    · exact absurd hk' hk
    · simp [EventStore.isTombstoned, ht] at hk'
  · obtain ⟨w₂, hv, hev⟩ := endEffect_ok (w := w₁) e src (hx ▸ hs) htgt
    rcases hr with ⟨err, herr, -, -⟩ | ⟨v, w₃, hv', hkeep⟩
    · rw [hv] at herr
      cases herr
    · rw [hv] at hv'
      obtain rfl := (Prod.mk.inj (Except.ok.inj hv')).2
      refine (hkeep.events.ends _ _).mpr ?_
      rw [hev]
      exact hmem

theorem endExecution_eq_self (hd : w.events.EndsDone)
    (hk : endKey e.executionId e.version ∈ w.events.keys) :
    w.endExecution node e src tgt = (.ok (), w) := by
  have hkey := endEvent_key e tgt
  rcases EventStore.claim_cases w.events (endEvent e tgt) node (w.config.claimLeaseMs * 1000)
      w.now w.ids with ⟨-, r, s, g, hc⟩ | ⟨-, o, ho, hc⟩
  · exfalso
    obtain ⟨-, ⟨hf, -⟩ | ⟨r₀, hf, hu, -⟩⟩ := EventStore.claim_eq_claimed hc
    · rw [hkey] at hf
      exact EventStore.find_ne_none_of_mem_keys hk hf
    · obtain ⟨hm, hk₀⟩ := EventStore.find_eq_some hf
      rw [hd r₀ hm ⟨_, _, hk₀.trans hkey⟩] at hu
      cases hu
  · rw [endExecution_eq]
    unfold recordOnce
    rw [hc]
    rcases ho with rfl | rfl <;> rfl

theorem endExecution_ok (hd : w.events.EndsDone) (hs : w.executions.Sound)
    (htgt : tgt ≠ .running) (ht : w.events.tombstones = []) :
    (w.endExecution node e src tgt).1 = .ok () ∧
      (w.endExecution node e src tgt).2.events.EndsDone := by
  by_cases hk : endKey e.executionId e.version ∈ w.events.keys
  · rw [endExecution_eq_self hd hk]
    exact ⟨rfl, hd⟩
  · refine ⟨endExecution_ok_of_fresh hs htgt hk ht, ?_⟩
    rw [endExecution_snd]
    exact (recordOnce_end_of_fresh hs htgt hk ht).2 hd

theorem movesWithin_endExecution (hs : w.executions.Sound) (htgt : tgt ≠ .running) :
    MovesWithin (fun a b => a = src ∧ b = tgt) [e.executionId] w.executions
      (w.endExecution node e src tgt).2.executions := by
  have hcases := (endExecution_cases hs htgt (rfl : (w.endExecution node e src tgt).2 = _)).2
  rcases hcases with ⟨hx, -⟩ | ⟨cur, hf, hst, hx⟩ <;> rw [hx]
  · exact (MovesWithin.of_eq rfl).mono (fun _ _ h => h) (by simp)
  · obtain ⟨-, -, -, hid⟩ := mem_of_find hf
    have hb : w.executions.byId cur.executionId = some cur := hid ▸ hs.byId_of_find hf
    rw [← hid]
    exact movesWithin_put (e := ExecutionStore.ended cur tgt w.nowMs) hb (.inr ⟨hst, rfl⟩)

theorem idsFrom_endExecution (hs : w.executions.Sound) (htgt : tgt ≠ .running) :
    IdsFrom [] w.executions (w.endExecution node e src tgt).2.executions := by
  have hcases := (endExecution_cases hs htgt (rfl : (w.endExecution node e src tgt).2 = _)).2
  rcases hcases with ⟨hx, -⟩ | ⟨cur, hf, -, hx⟩ <;> rw [hx]
  · exact .of_eq rfl
  · obtain ⟨-, -, -, hid⟩ := mem_of_find hf
    have hb : w.executions.byId cur.executionId = some cur := hid ▸ hs.byId_of_find hf
    exact idsFrom_put (e := ExecutionStore.ended cur tgt w.nowMs) hb

end Cluster

end DeviceFleet.Engine
