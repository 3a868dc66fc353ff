import DeviceFleet.Proofs.Events.Numbering
import DeviceFleet.Proofs.Events.Pass
import DeviceFleet.Proofs.Events.RecordOnce

/-!
# Deliveries and passes of house-keeping on nodes sharing one store

Each store call of a pass is a move (`Move`), one read for each batch, interleaved in any order
with deliveries; every hub a run from a start reaches keeps `Keeps` (`Start.keeps`), and a pass
taken alone is one `housekeep` (`runs_pass_alone`).
-/

namespace DeviceFleet.Events

/-- What a node's listeners were told of an event, and how: by the node's own delivery of it,
or replayed by the node's house-keeping from a record that another node processed. -/
inductive Notice where
  | applied (key : EventKey)
  | replayed (key : EventKey) (origin : String)
  deriving DecidableEq, Repr

def Notice.key : Notice → EventKey
  | .applied k => k
  | .replayed k _ => k

/-- Where a node's pass of house-keeping stands between its store calls: none under way; reading
batches on from a cursor; read to the end, saving the cursor next; saved, reading the floor
next; or read the floor, purging next, with the consumers whose cursors it counted. -/
inductive PassStage where
  | idle
  | reading (cursor : Nat)
  | caughtUp (cursor : Nat)
  | saved (cursor : Nat)
  | floorRead (floor : Nat) (counted : List String)

namespace Fleet

variable {α : Type}

def draws (w : Fleet α) (i : Nat) (now : Int) : List Uuid :=
  match w.copies[i]? with
  | some c =>
    match c.stage with
    | .claiming _ =>
      (StoreCall.claim c.event (w.recorderOf c).nodeId (w.recorderOf c).claimLease now).draws
        w.store w.ids
    | _ => []
  | none => []

/-- What delivery `i`'s next action tells the listeners of node `n`: its event, when the effect
ends in success on that node and the mark is answered. -/
def tells (w : Fleet α) (i : Nat) (result : Except String α) (n : Nat) : List Notice :=
  match w.copies[i]?, result with
  | some c, .ok _ =>
    match c.stage with
    | .running r _ =>
      match w.store.markProcessed r.recordId with
      | .ok _ => if c.node = n then [.applied c.event.key] else []
      | .error _ => []
    | _ => []
  | _, _ => []

section Tells

variable {w : Fleet α} {i : Nat} {c : Copy α} {now : Int} {result : Except String α} {n : Nat}

theorem tells_of_none (hc : w.copies[i]? = none) : w.tells i result n = [] := by
  simp [tells, hc]

theorem draws_of_none (hc : w.copies[i]? = none) : w.draws i now = [] := by
  simp [draws, hc]

theorem tells_of_not_running (hc : w.copies[i]? = some c) (hs : ∀ r t, c.stage ≠ .running r t) :
    w.tells i result n = [] := by
  rcases hst : c.stage with t | ⟨r, t⟩ | ⟨o, t⟩
  · cases result <;> simp [tells, hc, hst]
  · exact absurd hst (hs r t)
  · cases result <;> simp [tells, hc, hst]

theorem draws_of_not_claiming (hc : w.copies[i]? = some c) (hs : ∀ t, c.stage ≠ .claiming t) :
    w.draws i now = [] := by
  rcases hst : c.stage with t | ⟨r, t⟩ | ⟨o, t⟩
  · exact absurd hst (hs t)
  · simp [draws, hc, hst]
  · simp [draws, hc, hst]

theorem draws_of_claiming {t : Int} (hc : w.copies[i]? = some c) (hs : c.stage = .claiming t) :
    w.draws i now = (StoreCall.claim c.event (w.recorderOf c).nodeId (w.recorderOf c).claimLease
      now).draws w.store w.ids := by
  simp [draws, hc, hs]

theorem tells_of_error (m : String) : w.tells i (.error m) n = [] := by
  unfold tells
  split
  · rename_i heq
    cases heq
  · rfl

theorem tells_of_applied {r r' : EventRecord} {t : Int} {s : EventStore} {v : α}
    (hc : w.copies[i]? = some c) (hs : c.stage = .running r t)
    (hm : w.store.markProcessed r.recordId = .ok (r', s)) :
    w.tells i (.ok v) n = if c.node = n then [.applied c.event.key] else [] := by
  simp [tells, hc, hs, hm]

end Tells

end Fleet

def replayNotices (r : Recorder) (xs : List EventRecord) : List Notice :=
  (xs.filter (·.originNode != r.nodeId)).map fun x => .replayed x.key x.originNode

namespace EventStore

def CursorsGrow (s s' : EventStore) : Prop :=
  ∀ c u, s.loadCursor c = some u → ∃ v, s'.loadCursor c = some v ∧ u ≤ v

theorem CursorsGrow.refl (s : EventStore) : s.CursorsGrow s :=
  fun _ u hu => ⟨u, hu, Nat.le_refl u⟩

theorem CursorsGrow.trans {s₁ s₂ s₃ : EventStore} (h₁ : s₁.CursorsGrow s₂)
    (h₂ : s₂.CursorsGrow s₃) : s₁.CursorsGrow s₃ := by
  intro c u hu
  obtain ⟨v, hv, huv⟩ := h₁ c u hu
  obtain ⟨w, hw, hvw⟩ := h₂ c v hv
  exact ⟨w, hw, Nat.le_trans huv hvw⟩

theorem CursorsGrow.of_cursors {s s' : EventStore} (h : s'.cursors = s.cursors) :
    s.CursorsGrow s' := by
  intro c u hu
  exact ⟨u, by rw [loadCursor, h]; exact hu, Nat.le_refl u⟩

theorem cursorsGrow_saveCursor (s : EventStore) (c : String) (v : Nat) :
    s.CursorsGrow (s.saveCursor c v) :=
  fun c' _ hu => loadCursor_perform (.saveCursor c v) default c' hu

theorem inv_saveCursor {D : List Uuid} {M : List EventKey} {s : EventStore} (hi : s.Inv D M)
    (c : String) (v : Nat) : (s.saveCursor c v).Inv D M :=
  ⟨hi.1, hi.2, hi.3, hi.4, hi.5, hi.6, hi.7⟩

theorem numberOf_of_mem {s : EventStore} {D : List Uuid} {M : List EventKey} (hi : s.Inv D M)
    {x : EventRecord} (hx : x ∈ s.records) (hp : x.status = .processed) :
    s.numberOf x.key = some x.sequence := by
  rw [numberOf_of_find (find_of_mem hi.keys_nodup hx)]
  simp [seqOf, hp]

theorem Inv.forget {s : EventStore} {D : List Uuid} {M : List EventKey} (hi : s.Inv D M) :
    s.Inv D [] :=
  ⟨hi.1, hi.2, hi.3, hi.4, by simp, hi.6, hi.7⟩

theorem numberOf_of_claimed {s s' : EventStore} {e : ServiceEvent} {node : String} {lease : Nat}
    {now : Int} {g g' : UuidSource} {r : EventRecord}
    (h : s.claim e node lease now g = (.claimed r, s', g')) : s.numberOf e.key = none := by
  obtain ⟨ht, hf | ⟨r₀, hf, hu, -⟩⟩ := claim_claimed_when h
  · rw [numberOf_of_find_none hf, lookup_eq_none_of_tombstoned ht]
  · rw [numberOf_of_find hf, seqOf_of_unprocessed hu]

theorem claimed_found {s s' : EventStore} {e : ServiceEvent} {node : String} {lease : Nat}
    {now : Int} {g g' : UuidSource} {r : EventRecord}
    (h : s.claim e node lease now g = (.claimed r, s', g')) :
    s'.find e.key = some r ∧ r.status = .unprocessed ∧ r.inFlight = true ∧
      r.originNode = node := by
  obtain ⟨-, ⟨hf, rfl, -, rfl⟩ | ⟨r₀, hf, hu, -, rfl, -, rfl⟩⟩ := claim_eq_claimed h
  · refine ⟨?_, rfl, rfl, rfl⟩
    unfold find at hf ⊢
    rw [List.find?_append, hf]
    simp [EventRecord.key]
  · refine ⟨?_, hu, rfl, rfl⟩
    have hk : r₀.key = e.key := (find_eq_some hf).2
    rw [← hk]
    exact find_put_self (show (s.find r₀.key).isSome by rw [hk, hf]; rfl)

/-- What a delivery's store call leaves alone: the record and the number of every identity but
`k₀`, the number of `k₀` if it had one, the cursors, and the numbers handed out; a number it
gives `k₀` is a new one. -/
structure Frames (s s' : EventStore) (k₀ : EventKey) : Prop where
  find : ∀ k, k ≠ k₀ → s'.find k = s.find k
  numberOf : ∀ k, k ≠ k₀ → s'.numberOf k = s.numberOf k
  kept : ∀ v, s.numberOf k₀ = some v → s'.numberOf k₀ = some v
  fresh : s.numberOf k₀ = none → ∀ v, s'.numberOf k₀ = some v → s.lastSequence < v
  present : (s.find k₀).isSome → (s'.find k₀).isSome
  numbered : s.numberOf k₀ = none → (s'.numberOf k₀).isSome → (s'.find k₀).isSome
  cursors : s'.cursors = s.cursors
  last : s.lastSequence ≤ s'.lastSequence

theorem Frames.refl (s : EventStore) (k₀ : EventKey) : Frames s s k₀ :=
  ⟨fun _ _ => rfl, fun _ _ => rfl, fun _ h => h, (fun h v h' => by rw [h] at h'; cases h'), id,
    (fun h h' => by rw [h] at h'; cases h'), rfl, Nat.le_refl _⟩

theorem Frames.of_numberOf {s s' : EventStore} {k₀ : EventKey}
    (hf : ∀ k, k ≠ k₀ → s'.find k = s.find k) (hn : ∀ k, s'.numberOf k = s.numberOf k)
    (hp : (s'.find k₀).isSome) (hc : s'.cursors = s.cursors)
    (hl : s.lastSequence ≤ s'.lastSequence) : Frames s s' k₀ :=
  ⟨hf, fun k _ => hn k, fun v h => (hn k₀).trans h,
    (fun h v h' => by rw [hn k₀, h] at h'; cases h'), fun _ => hp, fun _ _ => hp, hc, hl⟩

theorem Frames.numberOf_cases {s s' : EventStore} {k₀ : EventKey} (hfr : Frames s s' k₀)
    {k : EventKey} {m : Nat} (hm : s'.numberOf k = some m) :
    s.numberOf k = some m ∨ (s.lastSequence < m ∧ (s'.find k).isSome) := by
  by_cases hk : k = k₀
  · subst hk
    cases hn : s.numberOf k with
    | none => exact .inr ⟨hfr.fresh hn m hm, hfr.numbered hn (by rw [hm]; rfl)⟩
    | some v =>
      rw [hfr.kept v hn, Option.some.injEq] at hm
      exact .inl (hm ▸ rfl)
  · exact .inl ((hfr.numberOf k hk).symm.trans hm)

theorem Frames.isSome_find {s s' : EventStore} {k₀ : EventKey} (hfr : Frames s s' k₀)
    {k : EventKey} (h : (s.find k).isSome) : (s'.find k).isSome := by
  by_cases hk : k = k₀
  · subst hk
    exact hfr.present h
  · rw [hfr.find k hk]
    exact h

theorem frames_put {s : EventStore} {r r₀ : EventRecord} (hf : s.find r.key = some r₀)
    (hu₀ : r₀.status = .unprocessed) (hu : r.status = .unprocessed) :
    Frames s (s.put r) r.key :=
  .of_numberOf (fun _ hk => find_put_of_ne hk) (numberOf_put hf hu₀ hu)
    (by rw [find_put_self (by simp [hf])]; rfl) rfl (Nat.le_refl _)

theorem frames_claim {s s' : EventStore} {e : ServiceEvent} {node : String} {lease : Nat}
    {now : Int} {g g' : UuidSource} {r : EventRecord}
    (h : s.claim e node lease now g = (.claimed r, s', g')) : Frames s s' e.key := by
  have hnum : ∀ k, s'.numberOf k = s.numberOf k := fun k => by
    simpa only [h] using numberOf_claim (s := s) e node lease now g k
  have hp : (s'.find e.key).isSome := by rw [(claimed_found h).1]; rfl
  obtain ⟨-, ⟨-, rfl, -, rfl⟩ | ⟨r₀, hf, hu, -, rfl, -, rfl⟩⟩ := claim_eq_claimed h
  · refine .of_numberOf (fun k hk => ?_) hnum hp rfl (Nat.le_refl _)
    unfold find
    rw [List.find?_append]
    cases s.records.find? (·.key == k) with
    | some x => rfl
    | none =>
      have hne : (e.key == k) = false := by simpa using Ne.symm hk
      simp [EventRecord.key, hne]
  · exact .of_numberOf (fun _ hk => find_put_of_ne fun h' => hk (h'.trans (find_eq_some hf).2))
      hnum hp rfl (Nat.le_refl _)

theorem find_markProcessed_self {s s' : EventStore} {id : Uuid} {r₀ r : EventRecord}
    (hb : s.byId id = some r₀) (hu : r₀.status = .unprocessed)
    (h : s.markProcessed id = .ok (r, s')) : s'.find r₀.key = some r := by
  rw [markProcessed_of_unprocessed hb hu] at h
  obtain ⟨rfl, rfl⟩ := Prod.mk.inj (Except.ok.inj h)
  exact find_put_self (s := s)
    (r := { r₀ with status := .processed, inFlight := false, claimedOn := none,
                    sequence := s.lastSequence + 1 })
    (show (s.find r₀.key).isSome by simp [find_of_byId hb])

theorem frames_markProcessed {s s' : EventStore} {id : Uuid} {r₀ r : EventRecord}
    (hb : s.byId id = some r₀) (hu : r₀.status = .unprocessed)
    (h : s.markProcessed id = .ok (r, s')) : Frames s s' r₀.key := by
  have hnum := numberOf_markProcessed hb hu h
  have hnone : s.numberOf r₀.key = none := by
    rw [numberOf_of_find (find_of_byId hb), seqOf_of_unprocessed hu]
  have hp : (s'.find r₀.key).isSome := by rw [find_markProcessed_self hb hu h]; rfl
  rw [markProcessed_of_unprocessed hb hu] at h
  obtain ⟨-, rfl⟩ := Prod.mk.inj (Except.ok.inj h)
  refine ⟨fun _ hk => find_put_of_ne hk, (fun k hk => by rw [hnum k, if_neg hk]),
    (fun v hv => by rw [hnone] at hv; cases hv), fun _ v hv => ?_, fun _ => hp, fun _ _ => hp,
    rfl, Nat.le_succ _⟩
  rw [hnum, if_pos rfl, Option.some.injEq] at hv
  omega

theorem markProcessed_originNode {s s' : EventStore} {id : Uuid} {r r' : EventRecord}
    (hb : s.byId id = some r) (h : s.markProcessed id = .ok (r', s')) :
    r'.originNode = r.originNode := by
  obtain ⟨r₀, hb', ⟨-, rfl, -⟩ | ⟨-, rfl, -⟩⟩ := markProcessed_eq_ok h <;>
    rw [hb, Option.some.injEq] at hb' <;> rw [hb']

theorem loadCursor_of_mem {s : EventStore} {c : String} (h : c ∈ s.cursors.map (·.1)) :
    ∃ v, s.loadCursor c = some v := by
  obtain ⟨p, hp, rfl⟩ := List.mem_map.mp h
  exact Option.isSome_iff_exists.mp (List.lookup_isSome_iff.mpr ⟨p, hp, by simp⟩)

end EventStore

/-- Deliveries of events and passes of house-keeping on nodes sharing one store: the
deliveries, and each node's keeper cursor and pass; kept for the proofs, what each node's
listeners were told and the identifiers drawn. -/
structure Hub (α : Type) where
  fleet : Fleet α
  keepers : Nat → Nat
  stages : Nat → PassStage
  told : Nat → List Notice
  drawn : List Uuid

/-- One step of a hub: a delivery's next action, or one store call of a node's pass; `abandon`
is a store call that fails, ending the pass where it stands. -/
inductive Move (α : Type) where
  | deliver (i : Nat) (now : Int) (result : Except String α)
  | begin (n : Nat)
  | batch (n : Nat)
  | save (n : Nat)
  | floor (n : Nat)
  | purge (n retention : Nat) (now : Int)
  | abandon (n : Nat)

namespace Hub

variable {α : Type}

def store (h : Hub α) : EventStore :=
  h.fleet.store

def recorder (h : Hub α) (n : Nat) : Recorder :=
  h.fleet.recorders.getD n default

def reach (h : Hub α) (n : Nat) : Nat :=
  passStart h.store (h.recorder n) (h.keepers n)

def deliver (h : Hub α) (i : Nat) (now : Int) (result : Except String α) : Hub α :=
  { h with fleet := h.fleet.step i now result,
           told := fun n => h.told n ++ h.fleet.tells i result n,
           drawn := h.drawn ++ h.fleet.draws i now }

def begin (h : Hub α) (n : Nat) : Hub α :=
  match h.stages n with
  | .idle => { h with stages := Function.update h.stages n (.reading (h.reach n)) }
  | _ => h

/-- Node `n` reads the batch after `c` and replays it; the pass reads on from the cursor it
reached, or, the batch coming back short, has read to the end. -/
def readBatch (h : Hub α) (n c : Nat) : Hub α :=
  let xs := h.store.processedAfter c replayBatch
  let p := replay (h.recorder n) c xs
  { h with
    fleet := { h.fleet with recorders := h.fleet.recorders.set n p.1 }
    keepers := Function.update h.keepers n (p.2.2.2.getD (h.keepers n))
    stages := Function.update h.stages n
      (if xs.length < replayBatch then .caughtUp p.2.2.1 else .reading p.2.2.1)
    told := Function.update h.told n (h.told n ++ replayNotices (h.recorder n) xs) }

def batch (h : Hub α) (n : Nat) : Hub α :=
  match h.stages n with
  | .reading c => h.readBatch n c
  | _ => h

def saveAt (h : Hub α) (n c : Nat) : Hub α :=
  { h with fleet := { h.fleet with store := h.store.saveCursor (h.recorder n).nodeId c },
           stages := Function.update h.stages n (.saved c) }

def save (h : Hub α) (n : Nat) : Hub α :=
  match h.stages n with
  | .caughtUp c => h.saveAt n c
  | _ => h

def floor (h : Hub α) (n : Nat) : Hub α :=
  match h.stages n with
  | .saved c =>
    { h with stages := Function.update h.stages n
               (.floorRead (passFloor h.store c) (h.store.cursors.map (·.1))) }
  | _ => h

def purge (h : Hub α) (n retention : Nat) (now : Int) : Hub α :=
  match h.stages n with
  | .floorRead f _ =>
    { h with fleet := { h.fleet with store := (purgeOlder h.store f retention now).2 },
             stages := Function.update h.stages n .idle }
  | _ => h

def abandon (h : Hub α) (n : Nat) : Hub α :=
  { h with stages := Function.update h.stages n .idle }

def move (h : Hub α) : Move α → Hub α
  | .deliver i now result => h.deliver i now result
  | .begin n => h.begin n
  | .batch n => h.batch n
  | .save n => h.save n
  | .floor n => h.floor n
  | .purge n retention now => h.purge n retention now
  | .abandon n => h.abandon n

def Enabled (h : Hub α) : Move α → Prop
  | .deliver i now _ => h.fleet.Timely i now ∧ (h.drawn ++ h.fleet.draws i now).Nodup
  | .begin n | .batch n | .save n | .floor n | .purge n _ _ | .abandon n =>
    n < h.fleet.recorders.length

/-- The hubs a run from `h₀` reaches. -/
inductive Runs (h₀ : Hub α) : Hub α → Prop where
  | refl : Runs h₀ h₀
  | move {h : Hub α} {m : Move α} : Runs h₀ h → h.Enabled m → Runs h₀ (h.move m)

theorem Runs.trans {h₁ h₂ h₃ : Hub α} (h₁₂ : Runs h₁ h₂) (h₂₃ : Runs h₂ h₃) : Runs h₁ h₃ := by
  induction h₂₃ with
  | refl => exact h₁₂
  | move _ hen ih => exact .move ih hen

theorem Runs.single {h h' : Hub α} {m : Move α} (hen : h.Enabled m) (he : h.move m = h') :
    Runs h h' := by
  subst he
  exact .move .refl hen

/-- Where a run starts: an empty store, nodes of distinct names, deliveries on them each about
to claim, no pass under way and nothing told. -/
structure Start (h : Hub α) : Prop where
  store : h.store = {}
  drawn : h.drawn = []
  names : (h.fleet.recorders.map (·.nodeId)).Nodup
  nodes : ∀ c ∈ h.fleet.copies, c.node < h.fleet.recorders.length
  claiming : ∀ c ∈ h.fleet.copies, ∃ t, c.stage = .claiming t
  keepers : ∀ n, h.keepers n = 0
  stages : ∀ n, h.stages n = .idle
  told : ∀ n, h.told n = []

/-! ### What each step changes -/

section Shape

variable {h : Hub α}

theorem recorderOf_eq (c : Copy α) : h.fleet.recorderOf c = h.recorder c.node := rfl

@[simp] theorem deliver_store (i : Nat) (now : Int) (result : Except String α) :
    (h.deliver i now result).store = (h.fleet.step i now result).store := rfl

@[simp] theorem deliver_keepers (i : Nat) (now : Int) (result : Except String α) :
    (h.deliver i now result).keepers = h.keepers := rfl

@[simp] theorem deliver_stages (i : Nat) (now : Int) (result : Except String α) :
    (h.deliver i now result).stages = h.stages := rfl

@[simp] theorem readBatch_store (n c : Nat) : (h.readBatch n c).store = h.store := rfl

@[simp] theorem readBatch_copies (n c : Nat) :
    (h.readBatch n c).fleet.copies = h.fleet.copies := rfl

@[simp] theorem readBatch_drawn (n c : Nat) : (h.readBatch n c).drawn = h.drawn := rfl

@[simp] theorem readBatch_recorders (n c : Nat) :
    (h.readBatch n c).fleet.recorders =
      h.fleet.recorders.set n (replay (h.recorder n) c (h.store.processedAfter c replayBatch)).1 :=
  rfl

theorem readBatch_keepers (n c : Nat) :
    (h.readBatch n c).keepers = Function.update h.keepers n
      ((replay (h.recorder n) c (h.store.processedAfter c replayBatch)).2.2.2.getD
        (h.keepers n)) := rfl

theorem readBatch_told (n c : Nat) :
    (h.readBatch n c).told = Function.update h.told n
      (h.told n ++ replayNotices (h.recorder n) (h.store.processedAfter c replayBatch)) := rfl

theorem readBatch_stages (n c : Nat) :
    (h.readBatch n c).stages = Function.update h.stages n
      (if (h.store.processedAfter c replayBatch).length < replayBatch then
        .caughtUp (replay (h.recorder n) c (h.store.processedAfter c replayBatch)).2.2.1
      else .reading (replay (h.recorder n) c (h.store.processedAfter c replayBatch)).2.2.1) :=
  rfl

@[simp] theorem saveAt_store (n c : Nat) :
    (h.saveAt n c).store = h.store.saveCursor (h.recorder n).nodeId c := rfl

@[simp] theorem saveAt_recorder (n c : Nat) : (h.saveAt n c).recorder = h.recorder := rfl

@[simp] theorem saveAt_keepers (n c : Nat) : (h.saveAt n c).keepers = h.keepers := rfl

theorem begin_cases (n : Nat) :
    h.begin n = h ∨
      h.begin n = { h with stages := Function.update h.stages n (.reading (h.reach n)) } := by
  unfold begin
  split
  · exact .inr rfl
  · exact .inl rfl

theorem begin_of_idle {n : Nat} (hst : h.stages n = .idle) :
    h.begin n = { h with stages := Function.update h.stages n (.reading (h.reach n)) } := by
  rw [begin, hst]

theorem batch_cases (n : Nat) :
    h.batch n = h ∨ ∃ c, h.stages n = .reading c ∧ h.batch n = h.readBatch n c := by
  unfold batch
  split
  · rename_i c hc
    exact .inr ⟨c, hc, rfl⟩
  · exact .inl rfl

theorem batch_of_reading {n c : Nat} (hst : h.stages n = .reading c) :
    h.batch n = h.readBatch n c := by
  rw [batch, hst]

theorem save_cases (n : Nat) :
    h.save n = h ∨ ∃ c, h.stages n = .caughtUp c ∧ h.save n = h.saveAt n c := by
  unfold save
  split
  · rename_i c hc
    exact .inr ⟨c, hc, rfl⟩
  · exact .inl rfl

theorem save_of_caughtUp {n c : Nat} (hst : h.stages n = .caughtUp c) :
    h.save n = h.saveAt n c := by
  rw [save, hst]

theorem floor_cases (n : Nat) :
    h.floor n = h ∨ ∃ c, h.stages n = .saved c ∧
      h.floor n =
        { h with stages := Function.update h.stages n
                   (.floorRead (passFloor h.store c) (h.store.cursors.map (·.1))) } := by
  unfold floor
  split
  · rename_i c hc
    exact .inr ⟨c, hc, rfl⟩
  · exact .inl rfl

theorem floor_of_saved {n c : Nat} (hst : h.stages n = .saved c) :
    h.floor n =
      { h with stages := Function.update h.stages n
                 (.floorRead (passFloor h.store c) (h.store.cursors.map (·.1))) } := by
  rw [floor, hst]

theorem purge_cases (n retention : Nat) (now : Int) :
    h.purge n retention now = h ∨ ∃ f cs, h.stages n = .floorRead f cs ∧
      h.purge n retention now =
        { h with fleet := { h.fleet with store := (purgeOlder h.store f retention now).2 },
                 stages := Function.update h.stages n .idle } := by
  unfold purge
  split
  · rename_i f cs hc
    exact .inr ⟨f, cs, hc, rfl⟩
  · exact .inl rfl

theorem purge_of_floorRead {n f : Nat} {cs : List String} (hst : h.stages n = .floorRead f cs)
    (retention : Nat) (now : Int) :
    h.purge n retention now =
      { h with fleet := { h.fleet with store := (purgeOlder h.store f retention now).2 },
               stages := Function.update h.stages n .idle } := by
  rw [purge, hst]

end Shape

/-! ### The invariant -/

/-- What a pass under way has read fits the store: the cursor it saved and the floor it read
are numbers handed out, and every consumer the floor counted has a cursor at least the floor. -/
def StageFits : PassStage → EventStore → Prop
  | .saved c, s => c ≤ s.lastSequence
  | .floorRead f cs, s =>
    f ≤ s.lastSequence ∧ ∀ c ∈ cs, ∃ v, s.loadCursor c = some v ∧ f ≤ v
  | _, _ => True

theorem StageFits.mono {st : PassStage} {s s' : EventStore} (h : StageFits st s)
    (hl : s.lastSequence ≤ s'.lastSequence) (hc : s.CursorsGrow s') : StageFits st s' := by
  cases st with
  | saved c => exact Nat.le_trans h hl
  | floorRead f cs =>
    refine ⟨Nat.le_trans h.1 hl, fun c hc' => ?_⟩
    obtain ⟨u, hu, hfu⟩ := h.2 c hc'
    obtain ⟨v, hv, huv⟩ := hc c u hu
    exact ⟨v, hv, Nat.le_trans hfu huv⟩
  | _ => trivial

/-- What every hub a run from `h₀` reaches keeps.

* the store: its invariant over the identifiers drawn, all distinct;
* the nodes: as many as at the start, of distinct names, every delivery on one of them, and
  each node's listeners heard what the node was told, in order;
* the deliveries: a running delivery holds its event's record, unprocessed, claimed on its
  node, and is the only one running for that event;
* what was told: no event twice to a node; an event a node applied is numbered, its record
  (while there is one) names the node as its origin, and a delivery on the node applied it;
  an event replayed to a node is numbered at most where the node reads from, and came from
  another node, which applied it; the origin of every processed record applied it;
* the passes: every keeper, saved cursor and pass under way is within the numbers handed
  out, and a pass reading batches, or read to the end, stands where its node reads from. -/
structure Keeps (h₀ h : Hub α) : Prop where
  store : h.store.Inv h.drawn []
  drawn : h.drawn.Nodup
  length : h.fleet.recorders.length = h₀.fleet.recorders.length
  names : (h.fleet.recorders.map (·.nodeId)).Nodup
  nodes : ∀ c ∈ h.fleet.copies, c.node < h.fleet.recorders.length
  heard : ∀ n, (h.recorder n).listeners.map (·.received) =
    (h₀.recorder n).listeners.map fun l => l.received ++ (h.told n).map (·.key.1)
  held : ∀ c ∈ h.fleet.copies, ∀ r t, c.stage = .running r t →
    h.store.find c.event.key = some r ∧ r.status = .unprocessed ∧ r.inFlight = true ∧
      r.originNode = (h.recorder c.node).nodeId
  alone : ∀ (i j : Nat) (ci cj : Copy α) (r r' : EventRecord) (t t' : Int),
    h.fleet.copies[i]? = some ci → h.fleet.copies[j]? = some cj → ci.stage = .running r t →
      cj.stage = .running r' t' → ci.event.key = cj.event.key → i = j
  once : ∀ n, ((h.told n).map Notice.key).Nodup
  applied : ∀ n k, .applied k ∈ h.told n → (h.store.numberOf k).isSome ∧
    (∀ r, h.store.find k = some r → r.originNode = (h.recorder n).nodeId) ∧
    ∃ c ∈ h.fleet.copies, c.node = n ∧ c.event.key = k ∧ c.stage.isApplied
  replayed : ∀ n k o, .replayed k o ∈ h.told n →
    (∃ v, h.store.numberOf k = some v ∧ v ≤ h.reach n) ∧ o ≠ (h.recorder n).nodeId ∧
      ∃ n' < h.fleet.recorders.length, (h.recorder n').nodeId = o ∧ .applied k ∈ h.told n'
  origin : ∀ k x, h.store.find k = some x → x.status = .processed →
    ∃ n < h.fleet.recorders.length, (h.recorder n).nodeId = x.originNode ∧
      .applied k ∈ h.told n
  keepers : ∀ n, h.keepers n ≤ h.store.lastSequence
  cursors : ∀ c v, h.store.loadCursor c = some v → v ≤ h.store.lastSequence
  stages : ∀ n, StageFits (h.stages n) h.store
  reading : ∀ n c, h.stages n = .reading c ∨ h.stages n = .caughtUp c →
    n < h.fleet.recorders.length ∧ c = h.reach n

theorem keeps_start {h₀ : Hub α} (hs : h₀.Start) : Keeps h₀ h₀ := by
  have hnr : ∀ c ∈ h₀.fleet.copies, ∀ r t, c.stage ≠ .running r t := by
    intro c hc r t hr
    obtain ⟨t', ht'⟩ := hs.claiming c hc
    rw [ht'] at hr
    cases hr
  refine ⟨?_, by simp [hs.drawn], rfl, hs.names, hs.nodes, fun n => by simp [hs.told n], ?_, ?_,
    fun n => by simp [hs.told n], fun n k hk => by simp [hs.told n] at hk,
    fun n k o hk => by simp [hs.told n] at hk, ?_, fun n => by simp [hs.keepers n], ?_,
    fun n => by simp [hs.stages n, StageFits], fun n c hc => ?_⟩
  · rw [hs.store, hs.drawn]
    exact EventStore.inv_init
  · exact fun c hc r t hr => absurd hr (hnr c hc r t)
  · exact fun i j ci cj r r' t t' hi _ hr => absurd hr (hnr ci (List.mem_of_getElem? hi) r t)
  · intro k x hx
    rw [hs.store] at hx
    cases hx
  · intro c v hv
    rw [hs.store] at hv
    cases hv
  · rw [hs.stages n] at hc
    rcases hc with hc | hc <;> cases hc

/-! ### The parts of a pass that change its stage alone -/

section Passes

variable {h₀ h : Hub α}

theorem Keeps.stage (hk : Keeps h₀ h) (n : Nat) {st : PassStage} (hst : StageFits st h.store)
    (hr : ∀ c, st = .reading c ∨ st = .caughtUp c →
      n < h.fleet.recorders.length ∧ c = h.reach n) :
    Keeps h₀ { h with stages := Function.update h.stages n st } := by
  refine { hk with stages := fun n' => ?_, reading := fun n' c hc => ?_ }
  · show StageFits (Function.update h.stages n st n') h.store
    by_cases hn : n' = n
    · subst hn
      rw [Function.update_self]
      exact hst
    · rw [Function.update_of_ne hn]
      exact hk.stages n'
  · change Function.update h.stages n st n' = _ ∨ Function.update h.stages n st n' = _ at hc
    by_cases hn : n' = n
    · subst hn
      rw [Function.update_self] at hc
      exact hr c hc
    · rw [Function.update_of_ne hn] at hc
      exact hk.reading n' c hc

theorem Keeps.idle (hk : Keeps h₀ h) (n : Nat) :
    Keeps h₀ { h with stages := Function.update h.stages n .idle } :=
  hk.stage n trivial fun c hc => by rcases hc with hc | hc <;> cases hc

theorem Keeps.begin (hk : Keeps h₀ h) {n : Nat} (hn : n < h.fleet.recorders.length) :
    Keeps h₀ (h.begin n) := by
  rcases begin_cases (h := h) n with heq | heq <;> rw [heq]
  · exact hk
  · refine hk.stage n trivial fun c hc => ?_
    rcases hc with hc | hc <;> cases hc
    exact ⟨hn, rfl⟩

theorem Keeps.abandon (hk : Keeps h₀ h) (n : Nat) : Keeps h₀ (h.abandon n) :=
  hk.idle n

theorem Keeps.floor (hk : Keeps h₀ h) (n : Nat) : Keeps h₀ (h.floor n) := by
  rcases floor_cases (h := h) n with heq | ⟨c, hc, heq⟩
  · rw [heq]
    exact hk
  · rw [heq]
    have hcl : c ≤ h.store.lastSequence := by simpa [hc, StageFits] using hk.stages n
    refine hk.stage n ⟨Nat.le_trans (passFloor_le_cursor _ _) hcl, fun c' hc' => ?_⟩
      fun c' hc' => by rcases hc' with hc' | hc' <;> cases hc'
    obtain ⟨v, hv⟩ := EventStore.loadCursor_of_mem hc'
    exact ⟨v, hv, passFloor_le c hv⟩

/-- A purge keeps the invariant: it removes processed records only, and their events keep
their numbers in tombstones. -/
theorem Keeps.purged (hk : Keeps h₀ h) (p : Nat) (t : Int) (n : Nat) :
    Keeps h₀ { h with fleet := { h.fleet with store := (h.store.purgeProcessed p t).2 },
                      stages := Function.update h.stages n .idle } := by
  have hi := hk.store
  have hnum : ∀ k, (h.store.purgeProcessed p t).2.numberOf k = h.store.numberOf k :=
    EventStore.numberOf_purge hi p t
  have hk' := hk.idle n
  refine { hk' with
    store := EventStore.inv_purge hi p t, held := ?_, applied := ?_, replayed := ?_,
    origin := ?_, stages := fun n' => ?_ }
  · intro c hc r t' hr
    obtain ⟨hf, hu, hfl, ho⟩ := hk.held c hc r t' hr
    exact ⟨EventStore.find_purge_of_keep hf (by simp [EventStore.purgeable, hu]), hu, hfl, ho⟩
  · intro n' k hk'
    obtain ⟨hn, hor, hc⟩ := hk.applied n' k hk'
    refine ⟨?_, fun r hr => hor r (EventStore.find_of_find_purge hi hr), hc⟩
    show ((h.store.purgeProcessed p t).2.numberOf k).isSome
    rw [hnum]
    exact hn
  · intro n' k o hk'
    obtain ⟨⟨v, hv, hle⟩, ho, hn''⟩ := hk.replayed n' k o hk'
    exact ⟨⟨v, (hnum k).trans hv, hle⟩, ho, hn''⟩
  · intro k x hx hp
    exact hk.origin k x (EventStore.find_of_find_purge hi hx) hp
  · exact (hk'.stages n').mono (Nat.le_refl _) (.of_cursors rfl)

theorem Keeps.purge (hk : Keeps h₀ h) (n retention : Nat) (now : Int) :
    Keeps h₀ (h.purge n retention now) := by
  rcases purge_cases (h := h) n retention now with heq | ⟨f, cs, -, heq⟩
  · rw [heq]
    exact hk
  · rw [heq]
    unfold purgeOlder
    split
    · exact hk.purged _ _ n
    · exact hk.idle n

end Passes

/-! ### Reading a batch -/

theorem replayNotices_contextIds (r : Recorder) (xs : List EventRecord) :
    (replayNotices r xs).map (·.key.1) =
      (xs.filter (·.originNode != r.nodeId)).map (·.event.contextId) := by
  simp [replayNotices, Notice.key, EventRecord.key, ServiceEvent.key, Function.comp_def]

theorem mem_replayNotices {r : Recorder} {xs : List EventRecord} {N : Notice} :
    N ∈ replayNotices r xs ↔
      ∃ x ∈ xs, x.originNode ≠ r.nodeId ∧ N = .replayed x.key x.originNode := by
  unfold replayNotices
  simp only [List.mem_map, List.mem_filter, bne_iff_ne, ne_eq]
  constructor
  · rintro ⟨x, ⟨hx, ho⟩, rfl⟩
    exact ⟨x, hx, ho, rfl⟩
  · rintro ⟨x, hx, ho, rfl⟩
    exact ⟨x, ⟨hx, ho⟩, rfl⟩

theorem passStart_mono {s s' : EventStore} {r r' : Recorder} {k k' : Nat}
    (hc : s.CursorsGrow s') (hk : k ≤ k') (hr : r'.nodeId = r.nodeId) :
    passStart s r k ≤ passStart s' r' k' := by
  unfold passStart
  rw [hr]
  cases hs : s.loadCursor r.nodeId with
  | none => exact Nat.max_le.mpr ⟨Nat.le_trans hk (Nat.le_max_left _ _), Nat.zero_le _⟩
  | some u =>
    obtain ⟨v, hv, huv⟩ := hc _ u hs
    rw [hv]
    simp only [Option.getD_some]
    omega

theorem nodup_keys_replayNotices {s : EventStore} (hn : (s.records.map (·.key)).Nodup)
    (r : Recorder) (c : Nat) :
    ((replayNotices r (s.processedAfter c replayBatch)).map Notice.key).Nodup := by
  have hd := (EventStore.nodup_keys_processedAfter hn c replayBatch).sublist
    ((List.filter_sublist (p := fun x : EventRecord => x.originNode != r.nodeId)).map (·.key))
  simpa [replayNotices, Function.comp_def, Notice.key] using hd

section Read

variable {h₀ h : Hub α} {n c : Nat}

theorem recorder_readBatch_self (hn : n < h.fleet.recorders.length) :
    (h.readBatch n c).recorder n =
      (replay (h.recorder n) c (h.store.processedAfter c replayBatch)).1 := by
  simp [recorder, readBatch, List.getD_eq_getElem?_getD, hn]

theorem recorder_readBatch_of_ne {n' : Nat} (hn : n' ≠ n) :
    (h.readBatch n c).recorder n' = h.recorder n' := by
  simp [recorder, readBatch, List.getD_eq_getElem?_getD, Ne.symm hn]

theorem nodeId_readBatch (n' : Nat) :
    ((h.readBatch n c).recorder n').nodeId = (h.recorder n').nodeId := by
  by_cases hn' : n' = n
  · subst hn'
    by_cases hl : n' < h.fleet.recorders.length
    · rw [recorder_readBatch_self hl, replay_nodeId]
    · simp [recorder, readBatch, List.getD_eq_getElem?_getD, hl]
  · rw [recorder_readBatch_of_ne hn']

theorem names_readBatch :
    (h.readBatch n c).fleet.recorders.map (·.nodeId) = h.fleet.recorders.map (·.nodeId) := by
  refine List.ext_getElem (by simp) fun i h₁ h₂ => ?_
  have hi := nodeId_readBatch (h := h) (n := n) (c := c) i
  simp only [List.length_map] at h₁ h₂
  simp only [recorder, List.getD_eq_getElem?_getD, List.getElem?_eq_getElem h₁,
    List.getElem?_eq_getElem h₂, Option.getD_some] at hi
  simpa only [List.getElem_map] using hi

theorem mem_told_readBatch {n' : Nat} {N : Notice} :
    N ∈ (h.readBatch n c).told n' ↔ N ∈ h.told n' ∨ (n' = n ∧
      N ∈ replayNotices (h.recorder n) (h.store.processedAfter c replayBatch)) := by
  rw [readBatch_told, Function.update_apply]
  split
  · rename_i hn'
    subst hn'
    simp
  · rename_i hn'
    simp [hn']

theorem applied_readBatch {k : EventKey} {o : String}
    (ha : ∃ n' < h.fleet.recorders.length, (h.recorder n').nodeId = o ∧ .applied k ∈ h.told n') :
    ∃ n' < (h.readBatch n c).fleet.recorders.length, ((h.readBatch n c).recorder n').nodeId = o ∧
      .applied k ∈ (h.readBatch n c).told n' := by
  obtain ⟨n', hn', hid, happ⟩ := ha
  refine ⟨n', by simpa using hn', ?_, mem_told_readBatch.mpr (.inl happ)⟩
  rw [nodeId_readBatch]
  exact hid

theorem reach_readBatch_of_ne {n' : Nat} (hn' : n' ≠ n) :
    (h.readBatch n c).reach n' = h.reach n' := by
  unfold reach
  rw [recorder_readBatch_of_ne hn', readBatch_keepers, Function.update_of_ne hn', readBatch_store]

theorem reach_readBatch_self (hn : n < h.fleet.recorders.length) (hc : c = h.reach n) :
    (h.readBatch n c).reach n =
      (replay (h.recorder n) c (h.store.processedAfter c replayBatch)).2.2.1 := by
  have hge := replay_cursor_ge (h.recorder n) c (h.store.processedAfter c replayBatch)
  have hsaved : (h.store.loadCursor (h.recorder n).nodeId).getD 0 ≤ c := by
    rw [hc]
    exact Nat.le_max_right _ _
  unfold reach passStart
  rw [recorder_readBatch_self hn, readBatch_keepers, Function.update_self, readBatch_store,
    replay_nodeId, replay_moved]
  split
  · rename_i hnil
    rw [hnil]
    exact hc.symm
  · rw [Option.getD_some]
    exact Nat.max_eq_left (Nat.le_trans hsaved hge)

theorem reach_le_readBatch (hn : n < h.fleet.recorders.length) (hc : c = h.reach n)
    (n' : Nat) : h.reach n' ≤ (h.readBatch n c).reach n' := by
  by_cases hn' : n' = n
  · subst hn'
    rw [reach_readBatch_self hn hc, ← hc]
    exact replay_cursor_ge ..
  · exact Nat.le_of_eq (reach_readBatch_of_ne hn').symm

theorem Keeps.saved_le (hk : Keeps h₀ h) (node : String) :
    (h.store.loadCursor node).getD 0 ≤ h.store.lastSequence := by
  cases hc : h.store.loadCursor node with
  | none => exact Nat.zero_le _
  | some v => exact hk.cursors node v hc

theorem Keeps.reach_le (hk : Keeps h₀ h) (n : Nat) : h.reach n ≤ h.store.lastSequence :=
  Nat.max_le.mpr ⟨hk.keepers n, hk.saved_le _⟩

theorem Keeps.replay_cursor_le (hk : Keeps h₀ h) (hc : c = h.reach n) :
    (replay (h.recorder n) c (h.store.processedAfter c replayBatch)).2.2.1 ≤
      h.store.lastSequence := by
  rw [replay_cursor]
  refine foldl_max_le (hc ▸ hk.reach_le n) fun x hx => ?_
  obtain ⟨hxr, hxp, -⟩ := EventStore.of_mem_processedAfter hx
  exact hk.store.assigned_le _ (EventStore.mem_assigned_of_processed hxr hxp)

/-- What a batch replays is new to its node. A record it replays is numbered after where the
node reads from and names another node as its origin, while every event replayed to the node
before is numbered at most there, and the record of every event the node applied names the
node itself. -/
theorem Keeps.replay_new (hk : Keeps h₀ h) (hc : c = h.reach n) {N N' : Notice}
    (hN : N ∈ h.told n)
    (hN' : N' ∈ replayNotices (h.recorder n) (h.store.processedAfter c replayBatch)) :
    N.key ≠ N'.key := by
  intro hkey
  obtain ⟨x, hx, ho, rfl⟩ := mem_replayNotices.mp hN'
  obtain ⟨hxr, hxp, hlt⟩ := EventStore.of_mem_processedAfter hx
  have hfx := EventStore.find_of_mem hk.store.keys_nodup hxr
  cases N with
  | applied k =>
    obtain ⟨-, hor, -⟩ := hk.applied n k hN
    simp only [Notice.key] at hkey
    exact ho (hor x (hkey ▸ hfx))
  | replayed k o =>
    obtain ⟨⟨v, hv, hle⟩, -⟩ := hk.replayed n k o hN
    simp only [Notice.key] at hkey
    rw [hkey, EventStore.numberOf_of_mem hk.store hxr hxp, Option.some.injEq] at hv
    omega

/-- A batch read from where its node reads from keeps the invariant; what it tells its node is
new there (`Keeps.replay_new`). -/
theorem Keeps.readBatch (hk : Keeps h₀ h) (hn : n < h.fleet.recorders.length)
    (hc : c = h.reach n) : Keeps h₀ (h.readBatch n c) := by
  have hi := hk.store
  have hlen : (h.readBatch n c).fleet.recorders.length = h.fleet.recorders.length := by
    rw [readBatch_recorders, List.length_set]
  refine ⟨hi, hk.drawn, hlen.trans hk.length, by rw [names_readBatch]; exact hk.names,
    fun d hd => hlen ▸ hk.nodes d hd, ?heard, ?held, hk.alone, ?once, ?applied, ?replayed,
    ?origin, ?keepers, hk.cursors, ?stages, ?reading⟩
  case heard =>
    intro n'
    by_cases hn' : n' = n
    · subst hn'
      have hh := congrArg (List.map (· ++ ((h.store.processedAfter c replayBatch).filter
        (·.originNode != (h.recorder n').nodeId)).map (·.event.contextId))) (hk.heard n')
      simp only [List.map_map, Function.comp_def, List.append_assoc] at hh
      rw [recorder_readBatch_self hn, replay_recorder, listeners_foldl_notify, hh, readBatch_told,
        Function.update_self]
      simp [replayNotices_contextIds]
    · rw [recorder_readBatch_of_ne hn', hk.heard n', readBatch_told, Function.update_of_ne hn']
  case held =>
    intro d hd r t hr
    obtain ⟨hf, hu, hfl, ho⟩ := hk.held d hd r t hr
    exact ⟨hf, hu, hfl, by rw [nodeId_readBatch]; exact ho⟩
  case once =>
    intro n'
    rw [readBatch_told, Function.update_apply]
    split
    · rename_i hn'
      subst hn'
      rw [List.map_append, List.nodup_append]
      refine ⟨hk.once n', nodup_keys_replayNotices hi.keys_nodup _ c, ?_⟩
      intro a ha b hb hab
      obtain ⟨N, hN, rfl⟩ := List.mem_map.mp ha
      obtain ⟨N', hN', rfl⟩ := List.mem_map.mp hb
      exact hk.replay_new hc hN hN' hab
    · exact hk.once n'
  case applied =>
    intro n' k hk'
    have hold : Notice.applied k ∈ h.told n' := by
      rcases mem_told_readBatch.mp hk' with h₁ | ⟨-, h₂⟩
      · exact h₁
      · obtain ⟨x, -, -, hx⟩ := mem_replayNotices.mp h₂
        cases hx
    obtain ⟨hnum, hor, hd⟩ := hk.applied n' k hold
    exact ⟨hnum, fun r hr => by rw [nodeId_readBatch]; exact hor r hr, hd⟩
  case replayed =>
    intro n' k o hk'
    rcases mem_told_readBatch.mp hk' with hold | ⟨rfl, hnew⟩
    · obtain ⟨⟨v, hv, hle⟩, ho, happ⟩ := hk.replayed n' k o hold
      exact ⟨⟨v, hv, Nat.le_trans hle (reach_le_readBatch hn hc n')⟩,
        by rw [nodeId_readBatch]; exact ho, applied_readBatch happ⟩
    · obtain ⟨x, hx, ho, hN⟩ := mem_replayNotices.mp hnew
      cases hN
      obtain ⟨hxr, hxp, -⟩ := EventStore.of_mem_processedAfter hx
      have happ := hk.origin x.key x (EventStore.find_of_mem hi.keys_nodup hxr) hxp
      refine ⟨⟨x.sequence, EventStore.numberOf_of_mem hi hxr hxp, ?_⟩,
        by rw [nodeId_readBatch]; exact ho, applied_readBatch happ⟩
      rw [reach_readBatch_self hn hc]
      exact sequence_le_replay_cursor _ _ hx
  case origin =>
    intro k x hx hp
    exact applied_readBatch (hk.origin k x hx hp)
  case keepers =>
    intro n'
    rw [readBatch_keepers, Function.update_apply]
    split
    · rename_i hn'
      subst hn'
      rw [replay_moved]
      split
      · exact hk.keepers n'
      · exact hk.replay_cursor_le hc
    · exact hk.keepers n'
  case stages =>
    intro n'
    rw [readBatch_stages, Function.update_apply]
    split
    · split <;> trivial
    · exact hk.stages n'
  case reading =>
    intro n' c' hc'
    rw [readBatch_stages, Function.update_apply] at hc'
    split at hc'
    · rename_i hn'
      subst hn'
      refine ⟨hlen ▸ hn, ?_⟩
      rw [reach_readBatch_self hn hc]
      split at hc' <;> rcases hc' with hc' | hc' <;> cases hc' <;> rfl
    · rename_i hn'
      obtain ⟨hn'', hc''⟩ := hk.reading n' c' hc'
      exact ⟨hlen ▸ hn'', hc''.trans (reach_readBatch_of_ne hn').symm⟩

theorem Keeps.batch (hk : Keeps h₀ h) (hn : n < h.fleet.recorders.length) :
    Keeps h₀ (h.batch n) := by
  rcases batch_cases (h := h) n with heq | ⟨c, hc, heq⟩ <;> rw [heq]
  · exact hk
  · exact hk.readBatch hn (hk.reading n c (.inl hc)).2

end Read

/-! ### Saving the cursor -/

section Save

variable {h₀ h : Hub α} {n c : Nat}

theorem Keeps.eq_of_nodeId (hk : Keeps h₀ h) {n n' : Nat} (hn : n < h.fleet.recorders.length)
    (hn' : n' < h.fleet.recorders.length)
    (he : (h.recorder n).nodeId = (h.recorder n').nodeId) : n = n' := by
  have h₁ : n < (h.fleet.recorders.map (·.nodeId)).length := by simpa using hn
  have h₂ : n' < (h.fleet.recorders.map (·.nodeId)).length := by simpa using hn'
  refine (@List.Nodup.getElem_inj_iff _ _ hk.names n h₁ n' h₂).mp ?_
  simpa [recorder, List.getD_eq_getElem?_getD, hn, hn'] using he

theorem reach_le_saveAt (n' : Nat) : h.reach n' ≤ (h.saveAt n c).reach n' :=
  passStart_mono (EventStore.cursorsGrow_saveCursor _ _ _) (Nat.le_refl _) rfl

theorem Keeps.reach_saveAt (hk : Keeps h₀ h) (hc : h.stages n = .caughtUp c) {n' : Nat}
    (hn' : n' < h.fleet.recorders.length) : (h.saveAt n c).reach n' = h.reach n' := by
  obtain ⟨hn, hcr⟩ := hk.reading n c (.inr hc)
  unfold reach passStart at hcr ⊢
  simp only [saveAt_store, saveAt_recorder, saveAt_keepers]
  by_cases he : n' = n
  · subst he
    rw [EventStore.saveCursor_load, Option.getD_some]
    omega
  · rw [EventStore.loadCursor_saveCursor_of_ne _ fun e => he (hk.eq_of_nodeId hn' hn e)]

/-- Saving the cursor keeps the invariant: the cursor is where the node reads from, within the
numbers handed out. -/
theorem Keeps.saveAt (hk : Keeps h₀ h) (hc : h.stages n = .caughtUp c) :
    Keeps h₀ (h.saveAt n c) := by
  obtain ⟨-, hcr⟩ := hk.reading n c (.inr hc)
  have hcl : c ≤ h.store.lastSequence := hcr ▸ hk.reach_le n
  refine { hk with
    store := EventStore.inv_saveCursor hk.store _ _, replayed := ?_, cursors := ?_,
    stages := fun n' => ?_, reading := fun n' c' hc' => ?_ }
  · intro n' k o hN
    obtain ⟨⟨v, hv, hle⟩, ho, hn''⟩ := hk.replayed n' k o hN
    exact ⟨⟨v, hv, Nat.le_trans hle (reach_le_saveAt n')⟩, ho, hn''⟩
  · intro c' v hv
    show v ≤ h.store.lastSequence
    rw [saveAt_store] at hv
    by_cases he : c' = (h.recorder n).nodeId
    · subst he
      rw [EventStore.saveCursor_load, Option.some.injEq] at hv
      subst hv
      exact Nat.max_le.mpr ⟨hk.saved_le _, hcl⟩
    · rw [EventStore.loadCursor_saveCursor_of_ne _ he] at hv
      exact hk.cursors c' v hv
  · show StageFits (Function.update h.stages n (.saved c) n') (h.store.saveCursor _ c)
    by_cases he : n' = n
    · subst he
      rw [Function.update_self]
      exact hcl
    · rw [Function.update_of_ne he]
      exact (hk.stages n').mono (Nat.le_refl _) (EventStore.cursorsGrow_saveCursor _ _ _)
  · change Function.update h.stages n (.saved c) n' = _ ∨
      Function.update h.stages n (.saved c) n' = _ at hc'
    by_cases he : n' = n
    · subst he
      rw [Function.update_self] at hc'
      rcases hc' with hc' | hc' <;> cases hc'
    · rw [Function.update_of_ne he] at hc'
      obtain ⟨hn', hc''⟩ := hk.reading n' c' hc'
      exact ⟨hn', hc''.trans (hk.reach_saveAt hc hn').symm⟩

theorem Keeps.save (hk : Keeps h₀ h) (n : Nat) : Keeps h₀ (h.save n) := by
  rcases save_cases (h := h) n with heq | ⟨c, hc, heq⟩ <;> rw [heq]
  · exact hk
  · exact hk.saveAt hc

end Save

/-! ### A pass taken alone -/

section Alone

variable {h : Hub α} {n c : Nat}

theorem runs_batches {s : EventStore} {r : Recorder} (hs : h.store = s) (hr : h.recorder n = r)
    (hn : n < h.fleet.recorders.length) (hst : h.stages n = .reading c) :
    ∃ h', Runs h h' ∧ h'.store = s ∧ h'.fleet.recorders.length = h.fleet.recorders.length ∧
      h'.recorder n = (replayBatches s r c).1 ∧
      h'.keepers n = (replayBatches s r c).2.2.2.getD (h.keepers n) ∧
      h'.stages n = .caughtUp (replayBatches s r c).2.2.1 := by
  fun_induction replayBatches s r c generalizing h with
  | case1 r c xs p =>
    rename_i hb
    subst hs hr
    refine ⟨h.readBatch n c, .single (m := .batch n) hn (batch_of_reading hst), rfl, by simp,
      recorder_readBatch_self hn, by rw [readBatch_keepers, Function.update_self], ?_⟩
    rw [readBatch_stages, Function.update_self, if_pos hb]
  | case2 r c xs p hb q =>
    rename_i ih
    subst hs hr
    obtain ⟨h', hr', hs', hl', hrec', hkeep', hst'⟩ := ih (h := h.readBatch n c) rfl
      (recorder_readBatch_self hn) (by simpa using hn)
      (by rw [readBatch_stages, Function.update_self, if_neg hb])
    refine ⟨h', (Runs.single (m := .batch n) hn (batch_of_reading hst)).trans hr', hs',
      by simp [hl'], hrec', ?_, hst'⟩
    rw [hkeep', readBatch_keepers, Function.update_self]
    show q.2.2.2.getD (p.2.2.2.getD (h.keepers n)) = (q.2.2.2.or p.2.2.2).getD (h.keepers n)
    cases q.2.2.2 <;> rfl

theorem runs_pass_end (hn : n < h.fleet.recorders.length)
    (hst : h.stages n = .caughtUp c) (retention : Nat) (now : Int) :
    ∃ h', Runs h h' ∧ h'.stages n = .idle ∧ h'.keepers = h.keepers ∧ h'.recorder = h.recorder ∧
      h'.store = (purgeOlder (h.store.saveCursor (h.recorder n).nodeId c)
        (passFloor (h.store.saveCursor (h.recorder n).nodeId c) c) retention now).2 := by
  have hsave : h.move (.save n) = h.saveAt n c := save_of_caughtUp hst
  set h₁ := h.saveAt n c
  have hs₁ : h₁.stages n = .saved c := Function.update_self ..
  have hfloor : h₁.move (.floor n) = _ := floor_of_saved hs₁
  set h₂ := h₁.move (.floor n)
  have hs₂ : h₂.stages n = .floorRead (passFloor h₁.store c) (h₁.store.cursors.map (·.1)) := by
    rw [hfloor]
    exact Function.update_self ..
  have hpurge : h₂.move (.purge n retention now) = _ := purge_of_floorRead hs₂ retention now
  have hn₂ : n < h₂.fleet.recorders.length := by
    rw [hfloor]
    exact hn
  have hr : Runs h (h₂.move (.purge n retention now)) :=
    .move (.move (.single (m := .save n) hn hsave) hn) hn₂
  refine ⟨_, hr, ?_, ?_, ?_, ?_⟩ <;> rw [hpurge]
  · exact Function.update_self ..
  all_goals rw [hfloor]; rfl

/-- Taken alone, a pass of node `n` (begun, read batch by batch to the end, its cursor saved,
the floor read and the purge made) is one `housekeep`: it leaves the keeper's cursor, the store
and the node's recorder as `housekeep` does. -/
theorem runs_pass_alone (hn : n < h.fleet.recorders.length)
    (hst : h.stages n = .idle) (retention : Nat) (now : Int) :
    ∃ h', Runs h h' ∧ h'.stages n = .idle ∧
      (housekeep h.store (h.recorder n) (h.keepers n) retention now).2 =
        (h'.keepers n, h'.store, h'.recorder n) := by
  have hbegin : h.move (.begin n) = _ := begin_of_idle hst
  obtain ⟨h₁, hr₁, hs₁, hl₁, hrec₁, hk₁, hst₁⟩ :=
    runs_batches (s := h.store) (r := h.recorder n) (c := h.reach n) (h := h.move (.begin n))
      (by rw [hbegin]; rfl) (by rw [hbegin]; rfl) (by rw [hbegin]; exact hn)
      (by rw [hbegin]; exact Function.update_self ..)
  obtain ⟨h₂, hr₂, hst₂, hk₂, hrec₂, hs₂⟩ :=
    runs_pass_end (by rw [hl₁, hbegin]; exact hn) hst₁ retention now
  refine ⟨h₂, Runs.trans (.move (m := .begin n) .refl hn) (Runs.trans hr₁ hr₂), hst₂, ?_⟩
  have hstart : passStart h.store (h.recorder n) (h.keepers n) = h.reach n := rfl
  rw [housekeep_eq, hk₂, hrec₂, hs₂, hs₁, hrec₁, hk₁, hbegin, hstart]

end Alone

/-! ### Deliveries -/

theorem mem_set_of_ne {β : Type} {l : List β} {i : Nat} {c d : β} (x : β) (hd : d ∈ l)
    (hc : l[i]? = some c) (hne : d ≠ c) : d ∈ l.set i x := by
  obtain ⟨j, hj⟩ := List.mem_iff_getElem?.mp hd
  have hji : j ≠ i := by
    rintro rfl
    rw [hc, Option.some.injEq] at hj
    exact hne hj.symm
  exact List.mem_of_getElem? (by rw [List.getElem?_set_ne (Ne.symm hji)]; exact hj)

theorem mem_set_self {β : Type} {l : List β} {i : Nat} {c : β} (x : β) (hc : l[i]? = some c) :
    x ∈ l.set i x :=
  List.mem_of_getElem? (List.getElem?_set_self (List.getElem?_eq_some_iff.mp hc).1)

section Deliver

variable {h₀ h h' : Hub α}

theorem Keeps.numbered (hk : Keeps h₀ h) {n : Nat} {N : Notice} (hN : N ∈ h.told n) :
    (h.store.numberOf N.key).isSome := by
  cases N with
  | applied k => exact (hk.applied n k hN).1
  | replayed k o =>
    obtain ⟨⟨v, hv, -⟩, -⟩ := hk.replayed n k o hN
    simp [Notice.key, hv]

theorem map_nodeId_eq (hlen : h'.fleet.recorders.length = h.fleet.recorders.length)
    (hnames : ∀ n, (h'.recorder n).nodeId = (h.recorder n).nodeId) :
    h'.fleet.recorders.map (·.nodeId) = h.fleet.recorders.map (·.nodeId) := by
  refine List.ext_getElem (by simp [hlen]) fun j h₁ h₂ => ?_
  have hj := hnames j
  simp only [List.length_map] at h₁ h₂
  simp only [recorder, List.getD_eq_getElem?_getD, List.getElem?_eq_getElem h₁,
    List.getElem?_eq_getElem h₂, Option.getD_some] at hj
  simpa only [List.getElem_map] using hj

theorem reach_eq_of (hcur : h'.store.cursors = h.store.cursors) (hkeep : h'.keepers = h.keepers)
    {n : Nat} (hname : (h'.recorder n).nodeId = (h.recorder n).nodeId) :
    h'.reach n = h.reach n := by
  unfold reach passStart EventStore.loadCursor
  rw [hcur, hkeep, hname]

/-- A delivery's step keeps the invariant when it does what a delivery does: its copy keeps its
event and node; its node's recorder keeps its name; on a store where its event is not numbered,
its store call leaves every other identity alone, and no other delivery running holds that
event; and what it tells its node is the event it applied. -/
theorem Keeps.delivered (hk : Keeps h₀ h) {i : Nat} {c c' : Copy α} {T : List Notice}
    (hc : h.fleet.copies[i]? = some c) (hca : c.stage.isApplied = false)
    (hnum₀ : h.store.numberOf c.event.key = none)
    (hframes : h.store.Frames h'.store c.event.key)
    (hstore : h'.store.Inv h'.drawn []) (hdrawn : h'.drawn.Nodup)
    (hcopies : h'.fleet.copies = h.fleet.copies.set i c') (hce : c'.event = c.event)
    (hcn : c'.node = c.node) (hlen : h'.fleet.recorders.length = h.fleet.recorders.length)
    (hnames : ∀ n, (h'.recorder n).nodeId = (h.recorder n).nodeId)
    (hkeepers : h'.keepers = h.keepers) (hstages : h'.stages = h.stages)
    (htold : ∀ n, h'.told n = h.told n ++ if n = c.node then T else [])
    (hheard : ∀ n, (h'.recorder n).listeners.map (·.received) =
      (h₀.recorder n).listeners.map fun l => l.received ++ (h'.told n).map (·.key.1))
    (hT : T = [] ∨ (T = [.applied c.event.key] ∧ c'.stage.isApplied ∧
      (h'.store.numberOf c.event.key).isSome ∧
      ∀ r, h'.store.find c.event.key = some r → r.originNode = (h.recorder c.node).nodeId))
    (hheld : ∀ r t, c'.stage = .running r t → h'.store.find c.event.key = some r ∧
      r.status = .unprocessed ∧ r.inFlight = true ∧ r.originNode = (h.recorder c.node).nodeId)
    (hfree : ∀ j d r t, j ≠ i → h.fleet.copies[j]? = some d → d.stage = .running r t →
      d.event.key ≠ c.event.key)
    (horigin : ∀ x, h'.store.find c.event.key = some x → x.status = .processed →
      T = [.applied c.event.key] ∧ x.originNode = (h.recorder c.node).nodeId) :
    Keeps h₀ h' := by
  have hnode : c.node < h.fleet.recorders.length := hk.nodes c (List.mem_of_getElem? hc)
  -- what was told before is numbered, so it is not of the delivery's event
  have hne : ∀ n N, N ∈ h.told n → N.key ≠ c.event.key := by
    intro n N hN heq
    have := hk.numbered hN
    rw [heq, hnum₀] at this
    cases this
  have hold : ∀ n N, N ∈ h.told n → N ∈ h'.told n := fun n N hN => by
    rw [htold n]
    exact List.mem_append_left _ hN
  have hreach : ∀ n, h'.reach n = h.reach n := fun n =>
    reach_eq_of hframes.cursors hkeepers (hnames n)
  refine ⟨hstore, hdrawn, hlen.trans hk.length, by rw [map_nodeId_eq hlen hnames]; exact hk.names,
    ?nodes, hheard, ?held, ?alone, ?once, ?applied, ?replayed, ?origin, ?keepers, ?cursors,
    ?stages, ?reading⟩
  case nodes =>
    intro d hd
    rw [hcopies] at hd
    rw [hlen]
    rcases Fleet.mem_set_cases hd with rfl | ⟨j, -, hj⟩
    · exact hcn ▸ hnode
    · exact hk.nodes d (List.mem_of_getElem? hj)
  case held =>
    intro d hd r t hr
    rw [hcopies] at hd
    rcases Fleet.mem_set_cases hd with rfl | ⟨j, hj, hdj⟩
    · rw [hce, hcn, hnames]
      exact hheld r t hr
    · obtain ⟨hf, hu, hfl, ho⟩ := hk.held d (List.mem_of_getElem? hdj) r t hr
      rw [hframes.find _ (hfree j d r t hj hdj hr), hnames]
      exact ⟨hf, hu, hfl, ho⟩
  case alone =>
    intro a b ca cb r r' t t' ha hb hra hrb hkey
    rw [hcopies] at ha hb
    rcases Fleet.getElem?_set_eq_some ha with ⟨rfl, rfl⟩ | ⟨hai, ha'⟩ <;>
      rcases Fleet.getElem?_set_eq_some hb with ⟨rfl, rfl⟩ | ⟨hbi, hb'⟩
    · rfl
    · exact absurd (hkey.symm.trans (congrArg ServiceEvent.key hce)) (hfree b cb r' t' hbi hb' hrb)
    · exact absurd (hkey.trans (congrArg ServiceEvent.key hce)) (hfree a ca r t hai ha' hra)
    · exact hk.alone a b ca cb r r' t t' ha' hb' hra hrb hkey
  case once =>
    intro n
    rw [htold n]
    split
    · rcases hT with rfl | ⟨rfl, -⟩
      · simpa using hk.once n
      · rw [List.map_append, List.nodup_append]
        refine ⟨hk.once n, List.nodup_singleton _, fun a ha b hb hab => ?_⟩
        obtain ⟨N, hN, rfl⟩ := List.mem_map.mp ha
        simp only [List.map_cons, List.map_nil, List.mem_singleton, Notice.key] at hb
        exact hne n N hN (hab.trans hb)
    · simpa using hk.once n
  case applied =>
    intro n k hN
    rw [htold n, List.mem_append] at hN
    rcases hN with hN | hN
    · obtain ⟨hnum, hor, d, hd, hdn, hdk, hda⟩ := hk.applied n k hN
      have hk' : k ≠ c.event.key := hne n _ hN
      refine ⟨by rw [hframes.numberOf k hk']; exact hnum, fun r hr => ?_, d, ?_, hdn, hdk, hda⟩
      · rw [hnames]
        exact hor r (by rw [← hframes.find k hk']; exact hr)
      · rw [hcopies]
        exact mem_set_of_ne c' hd hc fun hdc => by rw [hdc, hca] at hda; cases hda
    · by_cases hn : n = c.node
      · rw [if_pos hn] at hN
        subst hn
        rcases hT with rfl | ⟨rfl, hca', hnum', hor'⟩
        · cases hN
        · rw [List.mem_singleton, Notice.applied.injEq] at hN
          subst hN
          refine ⟨hnum', fun r hr => by rw [hnames]; exact hor' r hr, c', ?_, hcn, by rw [hce],
            hca'⟩
          rw [hcopies]
          exact mem_set_self c' hc
      · rw [if_neg hn] at hN
        cases hN
  case replayed =>
    intro n k o hN
    rw [htold n, List.mem_append] at hN
    have hN : Notice.replayed k o ∈ h.told n := by
      rcases hN with hN | hN
      · exact hN
      · by_cases hn : n = c.node
        · rw [if_pos hn] at hN
          rcases hT with rfl | ⟨rfl, -⟩
          · cases hN
          · simp at hN
        · rw [if_neg hn] at hN
          cases hN
    obtain ⟨⟨v, hv, hle⟩, ho, n', hn', hid, happ⟩ := hk.replayed n k o hN
    have hk' : k ≠ c.event.key := hne n _ hN
    exact ⟨⟨v, by rw [hframes.numberOf k hk']; exact hv, by rw [hreach]; exact hle⟩,
      by rw [hnames]; exact ho, n', by rw [hlen]; exact hn', by rw [hnames]; exact hid,
      hold n' _ happ⟩
  case origin =>
    intro k x hx hp
    by_cases hk' : k = c.event.key
    · subst hk'
      obtain ⟨hT', ho⟩ := horigin x hx hp
      refine ⟨c.node, by rw [hlen]; exact hnode, by rw [hnames]; exact ho.symm, ?_⟩
      rw [htold, if_pos rfl, hT']
      exact List.mem_append_right _ (List.mem_singleton_self _)
    · rw [hframes.find k hk'] at hx
      obtain ⟨n, hn, hid, happ⟩ := hk.origin k x hx hp
      exact ⟨n, by rw [hlen]; exact hn, by rw [hnames]; exact hid, hold n _ happ⟩
  case keepers =>
    intro n
    rw [hkeepers]
    exact Nat.le_trans (hk.keepers n) hframes.last
  case cursors =>
    intro c' v hv
    have hv' : h.store.loadCursor c' = some v := by
      rw [EventStore.loadCursor, ← hframes.cursors]
      exact hv
    exact Nat.le_trans (hk.cursors c' v hv') hframes.last
  case stages =>
    intro n
    rw [hstages]
    exact (hk.stages n).mono hframes.last (.of_cursors hframes.cursors)
  case reading =>
    intro n cur hcur
    rw [hstages] at hcur
    obtain ⟨hn, hcr⟩ := hk.reading n cur hcur
    exact ⟨hlen ▸ hn, hcr.trans (hreach n).symm⟩

end Deliver

/-! ### Each action of a delivery -/

section Deliveries

variable {h₀ h : Hub α} {i : Nat} {c : Copy α} {now : Int}

theorem deliver_of_none {result : Except String α} (hc : h.fleet.copies[i]? = none) :
    h.deliver i now result = h := by
  have hw : h.fleet.step i now result = h.fleet := by simp [Fleet.step, hc]
  simp only [deliver, hw, Fleet.tells_of_none hc, Fleet.draws_of_none hc, List.append_nil]

theorem deliver_of_over {result : Except String α} {o : Except EventStoreError (RecordOutcome α)}
    {t : Int} (hc : h.fleet.copies[i]? = some c) (hs : c.stage = .over o t) :
    h.deliver i now result = h := by
  simp only [deliver, Fleet.step_over hc hs,
    Fleet.tells_of_not_running hc (fun r t' => by simp [hs]),
    Fleet.draws_of_not_claiming hc (fun t' => by simp [hs]), List.append_nil]

theorem Keeps.replaced (hk : Keeps h₀ h) (hc : h.fleet.copies[i]? = some c)
    (hca : c.stage.isApplied = false) {c' : Copy α} (hce : c'.event = c.event)
    (hcn : c'.node = c.node) (hrun : ∀ r t, c'.stage ≠ .running r t) :
    Keeps h₀ { h with fleet := { h.fleet with copies := h.fleet.copies.set i c' } } := by
  refine { hk with nodes := ?_, held := ?_, alone := ?_, applied := ?_ }
  · intro d hd
    rcases Fleet.mem_set_cases hd with rfl | ⟨j, -, hj⟩
    · exact hcn ▸ hk.nodes c (List.mem_of_getElem? hc)
    · exact hk.nodes d (List.mem_of_getElem? hj)
  · intro d hd r t hr
    rcases Fleet.mem_set_cases hd with rfl | ⟨j, -, hj⟩
    · exact absurd hr (hrun r t)
    · exact hk.held d (List.mem_of_getElem? hj) r t hr
  · intro a b ca cb r r' t t' ha hb hra hrb hkey
    rcases Fleet.getElem?_set_eq_some ha with ⟨-, rfl⟩ | ⟨-, ha'⟩
    · exact absurd hra (hrun r t)
    rcases Fleet.getElem?_set_eq_some hb with ⟨-, rfl⟩ | ⟨-, hb'⟩
    · exact absurd hrb (hrun r' t')
    exact hk.alone a b ca cb r r' t t' ha' hb' hra hrb hkey
  · intro n k hN
    obtain ⟨hnum, hor, d, hd, hdn, hdk, hda⟩ := hk.applied n k hN
    exact ⟨hnum, hor, d, mem_set_of_ne c' hd hc (fun hdc => by rw [hdc, hca] at hda; cases hda),
      hdn, hdk, hda⟩

theorem Keeps.claim_refused (hk : Keeps h₀ h) (hc : h.fleet.copies[i]? = some c) {t : Int}
    (hs : c.stage = .claiming t) {o : ClaimOutcome} (result : Except String α)
    (ho : o = .alreadyProcessed ∨ o = .inFlight)
    (hcl : h.store.claim c.event (h.recorder c.node).nodeId (h.recorder c.node).claimLease now
      h.fleet.ids = (o, h.store, h.fleet.ids)) :
    Keeps h₀ (h.deliver i now result) := by
  have hca : c.stage.isApplied = false := by simp [hs, Delivery.isApplied]
  have hdraws : h.fleet.draws i now = [] := by
    rw [Fleet.draws_of_claiming hc hs]
    simp only [StoreCall.draws, recorderOf_eq]
    rw [show h.fleet.store = h.store from rfl, hcl]
    rcases ho with rfl | rfl <;> rfl
  have htells : ∀ n, h.fleet.tells i result n = [] := fun n =>
    Fleet.tells_of_not_running hc fun r t' => by simp [hs]
  rcases ho with rfl | rfl
  · have hw : h.fleet.step i now result = _ := Fleet.step_duplicate hc hs hcl
    have heq : h.deliver i now result =
        { h with fleet := { h.fleet with
          copies := h.fleet.copies.set i { c with stage := .over (.ok .duplicate) now } } } := by
      simp only [deliver, hw, htells, hdraws, List.append_nil]
      rfl
    rw [heq]
    exact hk.replaced hc hca rfl rfl fun r t' => by simp
  · have hw : h.fleet.step i now result = _ := Fleet.step_waits hc hs hcl
    have heq : h.deliver i now result =
        { h with fleet := { h.fleet with
          copies := h.fleet.copies.set i
            { c with stage := .claiming (now + (h.fleet.recorderOf c).pollInterval) } } } := by
      simp only [deliver, hw, htells, hdraws, List.append_nil]
      rfl
    rw [heq]
    exact hk.replaced hc hca rfl rfl fun r t' => by simp

theorem nodeId_getD_set {l : List Recorder} {m : Nat} {x : Recorder}
    (hx : x.nodeId = (l.getD m default).nodeId) (n : Nat) :
    ((l.set m x).getD n default).nodeId = (l.getD n default).nodeId := by
  simp only [List.getD_eq_getElem?_getD, List.getElem?_set]
  by_cases hmn : m = n
  · subst hmn
    by_cases hl : m < l.length
    · simpa [hl] using hx
    · simp [hl]
  · simp [hmn]

/-- A claim that succeeds: no other delivery runs the event, since its claim would still be
held and this one would wait; the claimant now holds the event's record, unprocessed and
claimed on its own node. -/
theorem Keeps.claimed (hk : Keeps h₀ h) (hc : h.fleet.copies[i]? = some c) {t : Int}
    (hs : c.stage = .claiming t) {result : Except String α}
    (hen : h.Enabled (.deliver i now result)) {r : EventRecord} {s : EventStore} {g : UuidSource}
    (hcl : h.store.claim c.event (h.recorder c.node).nodeId (h.recorder c.node).claimLease now
      h.fleet.ids = (.claimed r, s, g)) :
    Keeps h₀ (h.deliver i now result) := by
  obtain ⟨ht, hn⟩ := hen
  obtain ⟨hf, hu, hfl, ho⟩ := EventStore.claimed_found hcl
  have htells : ∀ n, h.fleet.tells i result n = [] := fun n =>
    Fleet.tells_of_not_running hc fun r t' => by simp [hs]
  have heq : h.deliver i now result =
      { h with
        fleet := { h.fleet with
          store := s
          ids := g
          copies := h.fleet.copies.set i { c with stage := .running r (now + 1) } }
        drawn := h.drawn ++ h.fleet.draws i now } := by
    simp only [deliver, Fleet.step_claimed hc hs hcl, htells, List.append_nil]
  have hinv : s.Inv (h.drawn ++ h.fleet.draws i now) [] := by
    have h₁ := EventStore.inv_step hk.store h.fleet.ids
      (.claim c.event (h.recorder c.node).nodeId (h.recorder c.node).claimLease now)
    simp only [StoreCall.perform, hcl] at h₁
    rw [Fleet.draws_of_claiming hc hs]
    exact h₁.forget
  -- no other delivery runs the event: its claim would have made this one wait
  have hfree : ∀ j d r' t', j ≠ i → h.fleet.copies[j]? = some d →
      d.stage = .running r' t' → d.event.key ≠ c.event.key := by
    intro j d r' t' _ hd hr hkey
    obtain ⟨hfd, hud, hfld, -⟩ := hk.held d (List.mem_of_getElem? hd) r' t' hr
    rw [hkey] at hfd
    have htb : h.store.isTombstoned c.event.key = false :=
      (EventStore.find_eq_some hfd).2 ▸ hk.store.apart r' (EventStore.find_eq_some hfd).1
    have hw : (h.store.claim c.event (h.recorder c.node).nodeId (h.recorder c.node).claimLease now
        h.fleet.ids).1 = .inFlight :=
      EventStore.claim_of_held htb hfd hud hfld
        (ht c hc ⟨t, hs⟩ d (List.mem_of_getElem? hd) r' t' hr)
    rw [hcl] at hw
    cases hw
  rw [heq]
  refine hk.delivered hc (by simp [hs, Delivery.isApplied]) (EventStore.numberOf_of_claimed hcl)
    (EventStore.frames_claim hcl) hinv (by rw [← heq]; exact hn) rfl rfl rfl rfl (fun _ => rfl)
    rfl
    rfl (fun n => by simp) hk.heard (.inl rfl) ?_ hfree ?_
  · intro r' t' hr
    cases hr
    exact ⟨hf, hu, hfl, ho⟩
  · intro x hx hp
    have hx' : s.find c.event.key = some x := hx
    rw [hf, Option.some.injEq] at hx'
    rw [← hx', hu] at hp
    cases hp

theorem Keeps.unnumbered_of_running (hk : Keeps h₀ h) (hc : h.fleet.copies[i]? = some c)
    {r : EventRecord} {t : Int} (hs : c.stage = .running r t) :
    h.store.numberOf c.event.key = none := by
  obtain ⟨hf, hu, -, -⟩ := hk.held c (List.mem_of_getElem? hc) r t hs
  rw [EventStore.numberOf_of_find hf, EventStore.seqOf_of_unprocessed hu]

theorem Keeps.runs_alone (hk : Keeps h₀ h) (hc : h.fleet.copies[i]? = some c)
    {r : EventRecord} {t : Int} (hs : c.stage = .running r t) :
    ∀ j d r' t', j ≠ i → h.fleet.copies[j]? = some d → d.stage = .running r' t' →
      d.event.key ≠ c.event.key :=
  fun j d r' t' hj hd hr hkey => hj (hk.alone j i d c r' r t' t hd hc hr hs hkey)

/-- An effect that succeeds: its delivery, the one running the event, marks the record
processed, numbering it next, and its node's listeners hear of the event. -/
theorem Keeps.succeeded (hk : Keeps h₀ h) (hc : h.fleet.copies[i]? = some c) {r : EventRecord}
    {t : Int} (hs : c.stage = .running r t) (v : α) : Keeps h₀ (h.deliver i now (.ok v)) := by
  obtain ⟨hf, hu, -, ho⟩ := hk.held c (List.mem_of_getElem? hc) r t hs
  have hix := hk.store.indexed hk.drawn c.event.key
  obtain ⟨r', s, hm, hf', hp, -⟩ := EventStore.markProcessed_held hix hf hu
  have hb : h.store.byId r.recordId = some r := hix r hf
  have hrk : r.key = c.event.key := (EventStore.find_eq_some hf).2
  have hnum := EventStore.numberOf_markProcessed hb hu hm
  have heq : h.deliver i now (.ok v) =
      { h with
        fleet := { h.fleet with
          store := s
          recorders := h.fleet.recorders.set c.node ((h.fleet.recorderOf c).notify c.event)
          copies := h.fleet.copies.set i { c with stage := .over (.ok (.applied v)) now } }
        told := fun n => h.told n ++ if n = c.node then [.applied c.event.key] else [] } := by
    simp only [deliver, Fleet.step_applied hc hs hm, Fleet.tells_of_applied hc hs hm,
      Fleet.draws_of_not_claiming hc (fun t' => by simp [hs]), List.append_nil, eq_comm]
  have hinv : s.Inv h.drawn [] := by
    have h₁ := EventStore.inv_step hk.store h.fleet.ids (.markProcessed r.recordId)
    simp only [StoreCall.perform, StoreCall.draws, hm, List.append_nil] at h₁
    exact h₁.forget
  have hname : ((h.fleet.recorderOf c).notify c.event).nodeId =
      (h.fleet.recorders.getD c.node default).nodeId := rfl
  rw [heq]
  refine hk.delivered hc (by simp [hs, Delivery.isApplied]) (hk.unnumbered_of_running hc hs)
    (hrk ▸ EventStore.frames_markProcessed hb hu hm)
    hinv hk.drawn rfl rfl rfl (by simp) (nodeId_getD_set hname) rfl rfl (fun n => rfl) ?_ ?_
    (fun r₁ t₁ hr => by cases hr) (hk.runs_alone hc hs) ?_
  · intro n
    have hh := congrArg (List.map (· ++ if c.node = n then [c.event.contextId] else []))
      (hk.heard n)
    rw [show h.recorder n = h.fleet.recorders.getD n default from rfl] at hh
    simp only [List.map_map, Function.comp_def, List.append_assoc] at hh
    show ((h.fleet.recorders.set c.node ((h.fleet.recorderOf c).notify c.event)).getD n
      default).listeners.map (·.received) = (h₀.recorder n).listeners.map fun l => l.received ++
        (h.told n ++ if n = c.node then [Notice.applied c.event.key] else []).map (·.key.1)
    rw [Fleet.heard_notify, hh]
    refine List.map_congr_left fun l _ => ?_
    by_cases hn : n = c.node
    · subst hn
      simp [Notice.key, ServiceEvent.key]
    · simp [hn, Ne.symm hn]
  · refine .inr ⟨rfl, by simp [Delivery.isApplied],
      show (s.numberOf c.event.key).isSome by rw [hnum, if_pos hrk.symm]; rfl, fun x hx => ?_⟩
    have hx' : s.find c.event.key = some x := hx
    rw [hf', Option.some.injEq] at hx'
    rw [← hx', EventStore.markProcessed_originNode hb hm]
    exact ho
  · intro x hx _
    have hx' : s.find c.event.key = some x := hx
    rw [hf', Option.some.injEq] at hx'
    rw [← hx', EventStore.markProcessed_originNode hb hm]
    exact ⟨rfl, ho⟩

/-- An effect that fails: its delivery, the one running the event, releases the claim, and the
event stays unnumbered. -/
theorem Keeps.failed (hk : Keeps h₀ h) (hc : h.fleet.copies[i]? = some c) {r : EventRecord}
    {t : Int} (hs : c.stage = .running r t) (m : String) :
    Keeps h₀ (h.deliver i now (.error m)) := by
  obtain ⟨hf, hu, -, -⟩ := hk.held c (List.mem_of_getElem? hc) r t hs
  have hix := hk.store.indexed hk.drawn c.event.key
  have htb : h.store.isTombstoned c.event.key = false :=
    (EventStore.find_eq_some hf).2 ▸ hk.store.apart r (EventStore.find_eq_some hf).1
  obtain ⟨hrel, hf', -, -⟩ := EventStore.release_held hix htb hf hu
  have hrk : r.key = c.event.key := (EventStore.find_eq_some hf).2
  have heq : h.deliver i now (.error m) =
      { h with
        fleet := { h.fleet with
          store := h.store.put { r with inFlight := false, claimedOn := none }
          copies := h.fleet.copies.set i
            { c with stage := .over (.error (.effectFailed c.event.contextId
                                               c.event.sourceService m)) now } } } := by
    simp only [deliver, Fleet.step_failed hc hs hrel, Fleet.tells_of_error,
      Fleet.draws_of_not_claiming hc (fun t' => by simp [hs]), List.append_nil]
  have hinv : (h.store.put { r with inFlight := false, claimedOn := none }).Inv h.drawn [] := by
    have h₁ := EventStore.inv_step hk.store h.fleet.ids (.release r.recordId r.claimToken)
    simp only [StoreCall.perform, StoreCall.draws, StoreCall.marks, hrel, List.append_nil] at h₁
    exact h₁
  rw [heq]
  refine hk.delivered (T := []) hc (by simp [hs, Delivery.isApplied])
    (hk.unnumbered_of_running hc hs)
    (hrk ▸ EventStore.frames_put (r := { r with inFlight := false, claimedOn := none })
      (by rw [hrk]; exact hf : h.store.find r.key = some r) hu hu)
    hinv hk.drawn rfl rfl rfl rfl (fun _ => rfl) rfl rfl (fun n => by simp) hk.heard (.inl rfl)
    (fun r₁ t₁ hr => by cases hr) (hk.runs_alone hc hs) ?_
  intro x hx hp
  have hx' : (h.store.put { r with inFlight := false, claimedOn := none }).find c.event.key =
      some x := hx
  rw [hf', Option.some.injEq] at hx'
  rw [← hx'] at hp
  rw [hu] at hp
  cases hp

end Deliveries

/-! ### Every step -/

section Steps

variable {h₀ h : Hub α}

theorem Keeps.deliver (hk : Keeps h₀ h) {i : Nat} {now : Int} {result : Except String α}
    (hen : h.Enabled (.deliver i now result)) : Keeps h₀ (h.deliver i now result) := by
  cases hc : h.fleet.copies[i]? with
  | none =>
    rw [deliver_of_none hc]
    exact hk
  | some c =>
    rcases hs : c.stage with t | ⟨r, t⟩ | ⟨o, t⟩
    · rcases EventStore.claim_cases h.store c.event (h.recorder c.node).nodeId
          (h.recorder c.node).claimLease now h.fleet.ids with
        ⟨-, r, s, g, hcl⟩ | ⟨-, o, ho, hcl⟩
      · exact hk.claimed hc hs hen hcl
      · exact hk.claim_refused hc hs result ho hcl
    · cases result with
      | ok v => exact hk.succeeded hc hs v
      | error m => exact hk.failed hc hs m
    · rw [deliver_of_over hc hs]
      exact hk

theorem Keeps.move (hk : Keeps h₀ h) {m : Move α} (hen : h.Enabled m) :
    Keeps h₀ (h.move m) := by
  cases m with
  | deliver i now result => exact hk.deliver hen
  | begin n => exact hk.begin hen
  | batch n => exact hk.batch hen
  | save n => exact hk.save n
  | floor n => exact hk.floor n
  | purge n retention now => exact hk.purge n retention now
  | abandon n => exact hk.abandon n

theorem Keeps.runs (hk : Keeps h₀ h) {h' : Hub α} (hr : Runs h h') : Keeps h₀ h' := by
  induction hr with
  | refl => exact hk
  | move _ hen ih => exact ih.move hen

theorem Start.keeps (hs : h₀.Start) (hr : Runs h₀ h) : Keeps h₀ h :=
  (keeps_start hs).runs hr

end Steps

end Hub

end DeviceFleet.Events
