import DeviceFleet.Engine.Run
import DeviceFleet.Proofs.Jobs.Targets
import Mathlib.Data.List.Nodup

/-!
# Passes left to the targets of a run

A pending target may take `m + 1` passes of a step at most (`JobTarget.passesLeft`), and each
drive takes one away; summed over a run they bound how long a step lasts.
-/

namespace DeviceFleet

namespace Job

open TargetProgress

variable {m n i j : Nat} {t t' : JobTarget} {r : Except String TargetOutcome}

theorem lt_of_pending {p : TargetProgress} (h : p.isPendingFor j n = true) : j < n := by
  obtain ⟨k, s⟩ := p
  cases s <;> simp [isPendingFor, nextStep] at h <;> omega

namespace JobTarget

def passesLeft (m n i : Nat) (t : JobTarget) : Nat :=
  if t.progress.isPendingFor i n then m + 1 - t.againPasses else 0

theorem passesLeft_le (m n i : Nat) (t : JobTarget) : t.passesLeft m n i ≤ m + 1 := by
  unfold passesLeft
  split <;> omega

theorem passesLeft_pos (hp : t.progress.isPendingFor i n = true) (ha : t.againPasses ≤ m) :
    0 < t.passesLeft m n i := by
  simp only [passesLeft, hp, if_true]
  omega

theorem passesLeft_of_not_pending (h : t.progress.isPendingFor i n = false) :
    t.passesLeft m n i = 0 := by
  simp [passesLeft, h]

end JobTarget

theorem againPasses_absorbResult (t : JobTarget) (r : Except String TargetOutcome) :
    (absorbResult t r).1.againPasses = t.againPasses := by
  cases r <;> rfl

theorem againPasses_noteOutcome (t : JobTarget) (o : StepOutcome) :
    (noteOutcome t o).againPasses = t.againPasses := by
  cases o <;> rfl

theorem countPass_cases (m j : Nat) (t : JobTarget) (o : StepOutcome) :
    ((countPass m j t o).2 = .again →
        (countPass m j t o).1.againPasses = t.againPasses + 1 ∧ t.againPasses + 1 ≤ m) ∧
      ((countPass m j t o).2 = .ok → (countPass m j t o).1.againPasses = 0) := by
  cases o
  case again =>
    simp only [countPass]
    split
    · exact ⟨(fun h => by cases h), (fun h => by cases h)⟩
    · rename_i hle
      exact ⟨fun _ => ⟨rfl, by simpa using hle⟩, (fun h => by cases h)⟩
  case ok => exact ⟨(fun h => by cases h), fun _ => rfl⟩
  case failed => exact ⟨(fun h => by cases h), (fun h => by cases h)⟩

/-- A pass of a target pending for the step ends it there with the status of the outcome the
pass settles on: again within the limit, with one more pass counted; done, with the count
started afresh; or failed. -/
theorem pass_driveTarget (h : t.progress.isPendingFor j n = true) :
    ∃ o, (driveTarget m j n t r).progress = ⟨j, statusOf o⟩ ∧
      (o = .again → (driveTarget m j n t r).againPasses = t.againPasses + 1 ∧
        t.againPasses + 1 ≤ m) ∧
      (o = .ok → (driveTarget m j n t r).againPasses = 0) := by
  have hprog : (noteOutcome (countPass m j (absorbResult t r).1 (absorbResult t r).2).1
      (countPass m j (absorbResult t r).1 (absorbResult t r).2).2).progress = t.progress := by
    rw [noteOutcome_progress, countPass_progress, absorbResult_progress]
  have hpass : (driveTarget m j n t r).againPasses =
      (countPass m j (absorbResult t r).1 (absorbResult t r).2).1.againPasses := by
    simp only [driveTarget]
    rw [againPasses_noteOutcome]
  obtain ⟨hg, hk⟩ := countPass_cases m j (absorbResult t r).1 (absorbResult t r).2
  rw [againPasses_absorbResult] at hg
  refine ⟨(countPass m j (absorbResult t r).1 (absorbResult t r).2).2, ?_, fun ho => ?_,
    fun ho => ?_⟩
  · simp only [driveTarget]
    rw [apply_of_pending (by rw [hprog]; exact h)]
  · rw [hpass]
    exact hg ho
  · rw [hpass]
    exact hk ho

theorem pending_iff_of_progress {s : TargetStatus} :
    (⟨j, s⟩ : TargetProgress).isPendingFor i n = true ↔
      (s = .inQueue ∨ s = .processAgain) ∧ i = j ∧ j < n ∨ s = .processOk ∧ i = j + 1 ∧ j + 1 < n := by
  cases s <;> simp [isPendingFor, nextStep] <;> omega

theorem passesLeft_driveTarget_lt (h : t.progress.isPendingFor j n = true)
    (ha : t.againPasses ≤ m) :
    (driveTarget m j n t r).passesLeft m n j < t.passesLeft m n j := by
  have hpos := JobTarget.passesLeft_pos h ha
  obtain ⟨o, hp, hag, -⟩ := pass_driveTarget (m := m) (r := r) h
  unfold JobTarget.passesLeft
  rw [hp]
  cases o
  case again =>
    obtain ⟨hag, hle⟩ := hag rfl
    simp only [h, if_true, statusOf, hag]
    split <;> omega
  case ok =>
    have hn : (⟨j, statusOf .ok⟩ : TargetProgress).isPendingFor j n = false := by
      simp [isPendingFor, nextStep, statusOf]
    simpa [hn, JobTarget.passesLeft, h] using hpos
  case failed reason =>
    have hn : (⟨j, statusOf (.failed reason)⟩ : TargetProgress).isPendingFor j n = false := by
      simp [isPendingFor, nextStep, statusOf]
    simpa [hn, JobTarget.passesLeft, h] using hpos

theorem driveTarget_after (h : t.progress.isPendingFor j n = true) :
    (driveTarget m j n t r).progress.stepIndex = j ∧
      (∀ k, (driveTarget m j n t r).progress.isPendingFor k n = true → j ≤ k) ∧
      ((driveTarget m j n t r).progress.isTerminal n = false →
        (driveTarget m j n t r).againPasses ≤ m) := by
  obtain ⟨o, hp, hag, hok⟩ := pass_driveTarget (m := m) (r := r) h
  refine ⟨by rw [hp], fun k hk => ?_, fun hnt => ?_⟩
  · rw [hp, pending_iff_of_progress] at hk
    omega
  · rw [hp] at hnt
    cases o
    case again =>
      rw [(hag rfl).1]
      exact (hag rfl).2
    case ok => rw [hok rfl]; exact Nat.zero_le m
    case failed => simp [isTerminal, nextStep, statusOf] at hnt

def earlier (n : Nat) (acc : Option Nat) (p : TargetProgress) : Option Nat :=
  match acc, p.nextStep n with
  | some a, some k => some (min a k)
  | none, some k => some k
  | a, none => a

theorem resumeStep_eq (ps : List TargetProgress) (n : Nat) :
    resumeStep ps n = ps.foldl (earlier n) none := rfl

theorem foldl_earlier (n : Nat) : ∀ (ps : List TargetProgress) (acc : Option Nat),
    (ps.foldl (earlier n) acc = none ↔ acc = none ∧ ∀ p ∈ ps, p.nextStep n = none) ∧
    ∀ i, ps.foldl (earlier n) acc = some i →
      (acc = some i ∨ ∃ p ∈ ps, p.nextStep n = some i) ∧ (∀ a, acc = some a → i ≤ a) ∧
      ∀ p ∈ ps, ∀ k, p.nextStep n = some k → i ≤ k
  | [], acc => by
    refine ⟨by simp, fun i h => ⟨.inl h, fun a ha => ?_, by simp⟩⟩
    rw [List.foldl_nil, h] at *
    cases ha
    exact Nat.le_refl i
  | p :: ps, acc => by
    obtain ⟨hnone, hsome⟩ := foldl_earlier n ps (earlier n acc p)
    rw [List.foldl_cons]
    -- the accumulator after `p` is the earlier of the two, or whichever of them there is
    rcases hacc : acc with _ | a <;> rcases hp : p.nextStep n with _ | k <;>
      simp only [earlier, hacc, hp] at hnone hsome ⊢
    · refine ⟨by simp [hnone, hp], fun i h => ?_⟩
      obtain ⟨h1 | ⟨q, hq, hqi⟩, -, h3⟩ := hsome i h
      · cases h1
      · exact ⟨.inr ⟨q, List.mem_cons_of_mem p hq, hqi⟩, (fun a ha => by cases ha),
          (by simpa [hp] using h3)⟩
    · refine ⟨by simp [hnone, hp], fun i h => ?_⟩
      obtain ⟨h1 | ⟨q, hq, hqi⟩, h2, h3⟩ := hsome i h
      · exact ⟨.inr ⟨p, List.mem_cons_self, h1 ▸ hp⟩, (fun a ha => by cases ha),
          (by simpa [hp, h2 k rfl] using h3)⟩
      · exact ⟨.inr ⟨q, List.mem_cons_of_mem p hq, hqi⟩, (fun a ha => by cases ha),
          (by simpa [hp, h2 k rfl] using h3)⟩
    · refine ⟨by simp [hnone, hp], fun i h => ?_⟩
      obtain ⟨h1, h2, h3⟩ := hsome i h
      refine ⟨?_, h2, ?_⟩
      · rcases h1 with h1 | ⟨q, hq, hqi⟩
        · exact .inl h1
        · exact .inr ⟨q, List.mem_cons_of_mem p hq, hqi⟩
      · simpa [hp] using h3
    · refine ⟨by simp [hnone, hp], fun i h => ?_⟩
      obtain ⟨h1, h2, h3⟩ := hsome i h
      have hmin := h2 (min a k) rfl
      refine ⟨?_, fun b hb => ?_, ?_⟩
      · rcases h1 with h1 | ⟨q, hq, hqi⟩
        · cases h1
          rcases Nat.le_total a k with hak | hak
          · exact .inl (by rw [Nat.min_eq_left hak])
          · exact .inr ⟨p, List.mem_cons_self, by rw [hp, Nat.min_eq_right hak]⟩
        · exact .inr ⟨q, List.mem_cons_of_mem p hq, hqi⟩
      · cases hb
        omega
      · simp only [List.mem_cons, forall_eq_or_imp, hp, Option.some.injEq]
        exact ⟨fun j hj => by omega, h3⟩

theorem resumeStep_spec (ps : List TargetProgress) (n : Nat) :
    (resumeStep ps n = none ↔ ∀ p ∈ ps, p.nextStep n = none) ∧
    ∀ i, resumeStep ps n = some i →
      (∃ p ∈ ps, p.nextStep n = some i) ∧ ∀ p ∈ ps, ∀ k, p.nextStep n = some k → i ≤ k := by
  obtain ⟨hnone, hsome⟩ := foldl_earlier n ps none
  rw [resumeStep_eq]
  refine ⟨by simpa using hnone, fun i h => ?_⟩
  obtain ⟨h1, -, h3⟩ := hsome i h
  exact ⟨h1.resolve_left (by simp), h3⟩

def passesLeftAt (m n i : Nat) (ts : List JobTarget) : Nat :=
  ts.foldr (fun t s => t.passesLeft m n i + s) 0

variable {ts L : List JobTarget}

@[simp] theorem passesLeftAt_nil : passesLeftAt m n i [] = 0 := rfl

@[simp] theorem passesLeftAt_cons :
    passesLeftAt m n i (t :: ts) = t.passesLeft m n i + passesLeftAt m n i ts := rfl

theorem passesLeftAt_le : passesLeftAt m n i ts ≤ ts.length * (m + 1) := by
  induction ts with
  | nil => simp
  | cons t ts ih =>
    have := t.passesLeft_le m n i
    rw [passesLeftAt_cons, List.length_cons, Nat.succ_mul]
    omega

theorem passesLeftAt_eq_zero (h : ∀ t ∈ ts, t.progress.isPendingFor i n = false) :
    passesLeftAt m n i ts = 0 := by
  induction ts with
  | nil => rfl
  | cons t ts ih =>
    rw [passesLeftAt_cons, JobTarget.passesLeft_of_not_pending (h t (by simp)),
      ih fun u hu => h u (by simp [hu])]

theorem length_le_passesLeftAt (hL : L.Nodup) (hsub : ∀ t ∈ L, t ∈ ts)
    (hpos : ∀ t ∈ L, 0 < t.passesLeft m n i) : L.length ≤ passesLeftAt m n i ts := by
  induction ts generalizing L with
  | nil =>
    cases L with
    | nil => simp
    | cons t L => exact absurd (hsub t (by simp)) (by simp)
  | cons u ts ih =>
    rw [passesLeftAt_cons]
    by_cases hu : u ∈ L
    · -- `u` is counted by its own passes, the others by those of `ts`
      have hrest : ∀ t ∈ L.erase u, t ∈ ts := by
        intro t ht
        obtain ⟨hne, htL⟩ := hL.mem_erase_iff.mp ht
        exact (List.mem_cons.mp (hsub t htL)).resolve_left hne
      have h' := ih (hL.erase u) hrest fun t ht => hpos t (List.mem_of_mem_erase ht)
      have hlen := List.length_erase_of_mem hu
      have := hpos u hu
      omega
    · have hrest : ∀ t ∈ L, t ∈ ts := fun t ht =>
        (List.mem_cons.mp (hsub t ht)).resolve_left fun (h : t = u) => hu (h ▸ ht)
      have := ih hL hrest hpos
      omega

/-- Replacing the record of one of the targets, all of distinct keys, changes the passes left by
the difference between the two records. -/
theorem passesLeftAt_replace (hk : (ts.map JobTarget.key).Nodup) (ht : t ∈ ts) :
    passesLeftAt m n i (ts.map fun x => if x.key = t.key then t' else x) + t.passesLeft m n i =
      passesLeftAt m n i ts + t'.passesLeft m n i := by
  induction ts with
  | nil => simp at ht
  | cons u ts ih =>
    rw [List.map_cons, List.nodup_cons] at hk
    rw [List.map_cons, passesLeftAt_cons, passesLeftAt_cons]
    by_cases hu : u.key = t.key
    · have hut : u = t := by
        rcases List.mem_cons.mp ht with h | h
        · exact h.symm
        · exact absurd (hu ▸ List.mem_map_of_mem h) hk.1
      subst hut
      have hrest : (ts.map fun x => if x.key = u.key then t' else x) = ts :=
        (List.map_congr_left fun x hx =>
          if_neg fun h => hk.1 (by rw [← h]; exact List.mem_map_of_mem hx)).trans
          (List.map_id' ts)
      rw [if_pos rfl, hrest]
      omega
    · have ht' : t ∈ ts := (List.mem_cons.mp ht).resolve_left fun h => hu (h ▸ rfl)
      rw [if_neg hu]
      have := ih hk.2 ht'
      omega

namespace TargetStore

variable {s s' : TargetStore}

theorem find_of_mem (hk : (s.targets.map JobTarget.key).Nodup) (ht : t ∈ s.targets) :
    s.find t.key = some t := by
  rw [find_eq]
  cases hf : s.targets.find? fun x => decide (x.key = t.key) with
  | none => exact absurd ht (by simpa using (List.find?_eq_none.mp hf) t)
  | some y =>
    have hy := List.find?_some hf
    simp only [decide_eq_true_eq] at hy
    rw [List.inj_on_of_nodup_map hk (List.mem_of_find?_eq_some hf) ht hy]

theorem targets_update (h : s.update t = .ok (t', s')) :
    t' = { t with version := t.version + 1 } ∧
      s'.targets = s.targets.map fun x => if x.key = t.key then t' else x := by
  unfold update at h
  dsimp only at h
  split at h
  · cases h
  · split at h
    · cases h
    · obtain ⟨rfl, rfl⟩ := Prod.mk.inj (Except.ok.inj h)
      refine ⟨rfl, ?_⟩
      simp only [isTarget_of, decide_eq_true_eq]

end TargetStore

end Job

namespace Engine

open Job

namespace Cluster

variable {w : Cluster} {t t' : JobTarget} {s : TargetStore}

theorem key_eq_iff {x y : JobTarget} :
    x.key = y.key ↔ x.tenantId = y.tenantId ∧ x.jobId = y.jobId ∧ x.targetId = y.targetId := by
  simp [JobTarget.key]

theorem participants_map {f : JobTarget → JobTarget} (hf : ∀ x, (f x).key = x.key)
    (w : Cluster) (e : Execution) :
    ({ w with targets := ⟨w.targets.targets.map f⟩ } : Cluster).participants e =
      (w.participants e).map f := by
  have h := fun x => key_eq_iff.mp (hf x)
  simp only [participants, TargetStore.list, List.filter_map, Function.comp_def,
    fun x => (h x).1, fun x => (h x).2.1, fun x => (h x).2.2]

theorem participants_update (h : w.targets.update t = .ok (t', s)) (e : Execution) :
    ({ w with targets := s } : Cluster).participants e =
      (w.participants e).map fun x => if x.key = t.key then t' else x := by
  obtain ⟨rfl, hs⟩ := TargetStore.targets_update h
  have hw : ({ w with targets := s } : Cluster) =
      { w with targets := ⟨w.targets.targets.map fun x => if x.key = t.key then
        { t with version := t.version + 1 } else x⟩ } := by
    rw [← hs]
  rw [hw]
  refine participants_map (fun x => ?_) w e
  split
  · rename_i hx
    exact hx.symm
  · rfl

theorem mem_targets_of_participant {e : Execution} (h : t ∈ w.participants e) :
    t ∈ w.targets.targets :=
  List.mem_of_mem_filter (List.mem_of_mem_filter h)

theorem participants_sublist (w : Cluster) (e : Execution) :
    List.Sublist (w.participants e) w.targets.targets :=
  (List.filter_sublist).trans List.filter_sublist

/-- Resetting distinct current records of the store one after another rewrites each of them in
place. -/
theorem foldlM_reset (idx : Nat) : ∀ (L : List JobTarget) (w : Cluster),
    (w.targets.targets.map JobTarget.key).Nodup → (L.map JobTarget.key).Nodup →
    (∀ t ∈ L, t ∈ w.targets.targets) →
    L.foldlM (fun w t => (w.targets.update (t.reset idx)).map fun (_, s) =>
        ({ w with targets := s } : Cluster)) w =
      .ok { w with targets := ⟨w.targets.targets.map fun x =>
        if x ∈ L then { x.reset idx with version := x.version + 1 } else x⟩ }
  | [], w, _, _, _ => by
    simp only [List.foldlM_nil, List.not_mem_nil, if_false, List.map_id']
    rfl
  | t :: L, w, hk, hL, hmem => by
    rw [List.map_cons, List.nodup_cons] at hL
    have ht : t ∈ w.targets.targets := hmem t (by simp)
    have hf : w.targets.find (t.reset idx).key = some t := TargetStore.find_of_mem hk ht
    obtain ⟨s, hs⟩ := TargetStore.update_of_find hf rfl
    obtain ⟨-, hst⟩ := TargetStore.targets_update hs
    have hne : ∀ u ∈ L, u.key ≠ t.key := fun u hu h => hL.1 (h ▸ List.mem_map_of_mem hu)
    have hk' : (s.targets.map JobTarget.key).Nodup := by
      rw [hst, List.map_map]
      refine (List.map_congr_left fun x _ => ?_).symm ▸ hk
      simp only [Function.comp_apply]
      split
      · rename_i hx
        exact hx.symm
      · rfl
    have hmem' : ∀ u ∈ L, u ∈ s.targets := by
      intro u hu
      rw [hst]
      exact List.mem_map.mpr ⟨u, hmem u (by simp [hu]), if_neg (hne u hu)⟩
    rw [List.foldlM_cons, hs]
    show L.foldlM _ ({ w with targets := s } : Cluster) = _
    rw [foldlM_reset idx L { w with targets := s } hk' hL.2 hmem', hst, List.map_map]
    congr 3
    refine List.map_congr_left fun x hx => ?_
    simp only [Function.comp_apply, List.mem_cons]
    by_cases hxt : x.key = t.key
    · have hx : x = t := List.inj_on_of_nodup_map hk hx ht hxt
      subst hx
      have hnot : ({ x.reset idx with version := x.version + 1 } : JobTarget) ∉ L :=
        fun h => hne _ h rfl
      simp only [JobTarget.reset] at hnot ⊢
      simp [JobTarget.key, hnot]
    · have hxt' : x ≠ t := fun h => hxt (h ▸ rfl)
      have hxr : ¬x.key = (t.reset idx).key := hxt
      rw [if_neg hxr]
      simp [hxt']

theorem resetTargets_eq (hk : (w.targets.targets.map JobTarget.key).Nodup) (e : Execution)
    (idx : Nat) :
    ∃ s, w.resetTargets e idx = .ok { w with targets := s } ∧
      ({ w with targets := s } : Cluster).participants e =
        (w.participants e).map (fun t => { t.reset idx with version := t.version + 1 }) ∧
      s.targets.map JobTarget.key = w.targets.targets.map JobTarget.key := by
  have hsub := participants_sublist w e
  have h := foldlM_reset idx (w.participants e) w hk
    (hk.sublist (hsub.map JobTarget.key)) fun t ht => mem_targets_of_participant ht
  refine ⟨_, h, ?_, ?_⟩
  · rw [participants_map (fun x => by split <;> rfl)]
    exact List.map_congr_left fun x hx => if_pos hx
  · rw [List.map_map]
    exact List.map_congr_left fun x _ => by simp only [Function.comp_apply]; split <;> rfl

end Cluster

end Engine

end DeviceFleet
