import DeviceFleet.Agent.Executor

/-!
# What requests do to a device's state

A request that only reads or that fails leaves the device's state as it was; key material is
never empty, and a bundle version is empty only after a blank write.
-/

namespace DeviceFleet

namespace SortedMap

variable {α : Type} {m : SortedMap α} {k : String} {v : α} {kv : String × α}

theorem mem_insert (h : kv ∈ m.insert k v) : kv = (k, v) ∨ kv ∈ m := by
  induction m with
  | nil => exact .inl (List.mem_singleton.mp h)
  | cons e rest ih =>
    unfold insert at h
    split at h
    · rcases List.mem_cons.mp h with h | h
      · exact .inl h
      · exact .inr (List.mem_cons_of_mem _ h)
    · split at h
      · rcases List.mem_cons.mp h with h | h
        · exact .inl h
        · exact .inr h
      · rcases List.mem_cons.mp h with h | h
        · exact .inr (h ▸ List.mem_cons_self ..)
        · exact (ih h).imp_right (List.mem_cons_of_mem _)

theorem mem_of_mem_erase (h : kv ∈ m.erase k) : kv ∈ m :=
  (List.mem_filter.mp h).1

end SortedMap

namespace Agent

/-! ## What each application can do -/

/-- The bundles application changes the device only to install a bundle under a version that
is not blank, to set an installed bundle's version to the request's body, blank or not, or to
remove an installed bundle. -/
theorem bundlesApp_cases (s : DeviceState) (r : AppRequest) :
    (bundlesApp s r).2 = s ∨
    (∃ name, r.method = .create ∧ r.bodyText ≠ "" ∧
      bundlesApp s r = (.created, { s with bundles := s.bundles.insert name r.bodyText })) ∨
    (∃ name, r.method = .write ∧
      bundlesApp s r = (.empty, { s with bundles := s.bundles.insert name r.bodyText })) ∨
    (∃ name, r.method = .delete ∧
      bundlesApp s r = (.empty, { s with bundles := s.bundles.erase name })) := by
  unfold bundlesApp
  split
  · exact .inl rfl
  · split
    · exact .inl rfl
    · next name _ =>
      split
      · split <;> exact .inl rfl
      · next hm =>
        dsimp only
        split
        · exact .inl rfl
        · split
          · exact .inl rfl
          · next hv _ => exact .inr (.inl ⟨name, hm, by simpa using hv, rfl⟩)
      · next hm =>
        split
        · exact .inr (.inr (.inl ⟨name, hm, rfl⟩))
        · exact .inl rfl
      · next hm =>
        split
        · exact .inr (.inr (.inr ⟨name, hm, rfl⟩))
        · exact .inl rfl
      · exact .inl rfl

def rotatedKeys (keys : SortedMap String) (gen : Nat) : SortedMap String :=
  keys.map fun (name, _) => (name, "k" ++ Text.natText gen ++ "-" ++ name)

/-- The key store changes the device only to rotate every key to the next generation, to
store material that is not blank under an alias, or to remove an alias. -/
theorem keysApp_cases (s : DeviceState) (r : AppRequest) :
    (keysApp s r).2 = s ∨
    (r.method = .execute ∧ ∃ ms, keysApp s r = (.completed [] ms,
      { s with keys := rotatedKeys s.keys (s.keyRotations + 1),
               keyRotations := s.keyRotations + 1 })) ∨
    (∃ name, r.method = .write ∧ r.bodyText ≠ "" ∧
      keysApp s r = (.empty, { s with keys := s.keys.insert name r.bodyText })) ∨
    (∃ name, r.method = .delete ∧
      keysApp s r = (.empty, { s with keys := s.keys.erase name })) := by
  unfold keysApp
  split
  · exact .inl rfl
  · next hm _ =>
    split
    · exact .inr (.inl ⟨hm, _, rfl⟩)
    · exact .inl rfl
  case h_3 hm _ =>
    split
    · exact .inl rfl
    · rw [hm]
      dsimp only
      split <;> exact .inl rfl
  case h_4 hm =>
    split
    · exact .inl rfl
    · next name _ =>
      rw [hm]
      dsimp only
      split
      · exact .inl rfl
      · next hv => exact .inr (.inr (.inl ⟨name, rfl, by simpa using hv, rfl⟩))
  case h_5 hm =>
    split
    · exact .inl rfl
    · next name _ =>
      rw [hm]
      dsimp only
      split
      · exact .inr (.inr (.inr ⟨name, rfl, rfl⟩))
      · exact .inl rfl
  case h_6 => exact .inl rfl

theorem assetsApp_cases (s : DeviceState) (r : AppRequest) :
    (assetsApp s r).2 = s ∨
    (∃ name body ms, r.method = .write ∧
      assetsApp s r = (.completed body ms, { s with assets := s.assets.insert name r.bodyText })) := by
  unfold assetsApp
  split
  case h_3 => exact .inl rfl
  all_goals
    split
    · exact .inl rfl
    · split
      · exact .inl rfl
      · next name _ =>
        split
        · exact .inl rfl
        · by_cases hw : r.method = .write
          · refine .inr ⟨name, r.bodyText.toUTF8.toList,
              [Metric.ofText ("asset." ++ name) r.bodyText], hw, ?_⟩
            simp [hw]
          · exact .inl (by simp_all)

theorem statusApp_state (now : Int) (s : DeviceState) (r : AppRequest) :
    (statusApp now s r).2 = s := by
  unfold statusApp
  split <;> rfl

/-! ## Reads and failures keep the state -/

def Guarded (s : DeviceState) (m : Method) (out : CommandResult × DeviceState) : Prop :=
  out.2 = s ∨ (m ≠ .read ∧ m ≠ .options ∧ out.1.resultCode < 400)

theorem guarded_of_success {s s' : DeviceState} {m : Method} {res : CommandResult}
    (hm : m ≠ .read ∧ m ≠ .options) (hc : res.resultCode < 400) : Guarded s m (res, s') :=
  .inr ⟨hm.1, hm.2, hc⟩

theorem bundlesApp_guarded (s : DeviceState) (r : AppRequest) :
    Guarded s r.method (bundlesApp s r) := by
  rcases bundlesApp_cases s r with h | ⟨_, hm, -, h⟩ | ⟨_, hm, h⟩ | ⟨_, hm, h⟩
  · exact .inl h
  all_goals
    rw [h]
    exact guarded_of_success (by simp [hm]) (by simp [CommandResult.resultCode, CommandResult.empty])

theorem keysApp_guarded (s : DeviceState) (r : AppRequest) :
    Guarded s r.method (keysApp s r) := by
  rcases keysApp_cases s r with h | ⟨hm, _, h⟩ | ⟨_, hm, -, h⟩ | ⟨_, hm, h⟩
  · exact .inl h
  all_goals
    rw [h]
    exact guarded_of_success (by simp [hm]) (by simp [CommandResult.resultCode, CommandResult.empty])

theorem assetsApp_guarded (s : DeviceState) (r : AppRequest) :
    Guarded s r.method (assetsApp s r) := by
  rcases assetsApp_cases s r with h | ⟨_, _, _, hm, h⟩
  · exact .inl h
  · rw [h]
    exact guarded_of_success (by simp [hm]) (by simp [CommandResult.resultCode])

theorem appOf_guarded {now : Int} {name : String}
    {app : DeviceState → AppRequest → CommandResult × DeviceState} (h : appOf? now name = some app)
    (s : DeviceState) (r : AppRequest) : Guarded s r.method (app s r) := by
  unfold appOf? at h
  split at h <;> cases h
  · exact bundlesApp_guarded s r
  · exact keysApp_guarded s r
  · exact assetsApp_guarded s r
  · exact .inl (statusApp_state now s r)

theorem run_guarded (d : Device) (now : Int) (c : Channel) (p : Option Payload) :
    (d.run now c p).2 = d.state ∨
      ∃ m, Method.normalize c.method = .ok m ∧ m ≠ .read ∧ m ≠ .options ∧
        (d.run now c p).1.resultCode < 400 := by
  unfold Device.run
  split
  · exact .inl rfl
  · split
    · exact .inl rfl
    · next m hm =>
      split
      · exact .inl rfl
      · next app happ =>
        rcases appOf_guarded happ d.state ⟨m, c.resource, (p.map Payload.body).getD []⟩ with
          h | ⟨h1, h2, h3⟩
        · exact .inl h
        · exact .inr ⟨m, hm, h1, h2, h3⟩

/-- A request that only reads, or that fails, leaves a device's state as it was: on each of
the device's applications, whatever the request and the state; and through the executor,
whose state changes only when the envelope is a request whose method reads as one other than
`READ` and `OPTIONS` and whose reply carries a result code below 400. -/
theorem reads_and_failures_keep_state (now : Int) (s : DeviceState) (r : AppRequest)
    (d : Device) (e : Envelope) :
    Guarded s r.method (bundlesApp s r) ∧ Guarded s r.method (keysApp s r) ∧
    Guarded s r.method (assetsApp s r) ∧ Guarded s r.method (statusApp now s r) ∧
    ((d.execute now e).2 = d ∨
      ∃ c m res, e.channel = some c ∧ Method.normalize c.method = .ok m ∧ m ≠ .read ∧
        m ≠ .options ∧ res.resultCode < 400 ∧ (d.execute now e).1 = some (replyOf c res now)) := by
  refine ⟨bundlesApp_guarded s r, keysApp_guarded s r, assetsApp_guarded s r,
    .inl (statusApp_state now s r), ?_⟩
  unfold Device.execute
  split
  · exact .inl rfl
  · next c hc =>
    split
    · exact .inl rfl
    · rcases run_guarded d now c e.payload with h | ⟨m, hm, h1, h2, h3⟩
      · exact .inl (by simp [h])
      · exact .inr ⟨c, m, _, hc, hm, h1, h2, h3, rfl⟩

/-! ## Values stay set -/

def Valued (m : SortedMap String) : Prop :=
  ∀ kv ∈ m, kv.2 ≠ ""

instance : DecidablePred Valued :=
  fun m => inferInstanceAs (Decidable (∀ kv ∈ m, kv.2 ≠ ""))

theorem Valued.insert {m : SortedMap String} (hm : Valued m) {k v : String} (hv : v ≠ "") :
    Valued (m.insert k v) := by
  intro kv hkv
  rcases SortedMap.mem_insert hkv with rfl | h
  · exact hv
  · exact hm kv h

theorem Valued.erase {m : SortedMap String} (hm : Valued m) (k : String) : Valued (m.erase k) :=
  fun kv h => hm kv (SortedMap.mem_of_mem_erase h)

theorem rotatedKeys_valued (keys : SortedMap String) (gen : Nat) :
    Valued (rotatedKeys keys gen) := by
  intro kv hkv
  obtain ⟨⟨name, _⟩, -, rfl⟩ := List.mem_map.mp hkv
  intro h
  have := congrArg String.length h
  simp at this

theorem bundlesApp_keys (s : DeviceState) (r : AppRequest) :
    (bundlesApp s r).2.keys = s.keys := by
  rcases bundlesApp_cases s r with h | ⟨_, -, -, h⟩ | ⟨_, -, h⟩ | ⟨_, -, h⟩ <;> rw [h]

theorem bundlesApp_valued {s : DeviceState} (hs : Valued s.bundles) {r : AppRequest}
    (hw : r.method = .write → r.bodyText ≠ "") : Valued (bundlesApp s r).2.bundles := by
  rcases bundlesApp_cases s r with h | ⟨_, -, hv, h⟩ | ⟨_, hm, h⟩ | ⟨_, -, h⟩
  · rwa [h]
  · rw [h]
    exact hs.insert hv
  · rw [h]
    exact hs.insert (hw hm)
  · rw [h]
    exact hs.erase _

theorem keysApp_bundles (s : DeviceState) (r : AppRequest) :
    (keysApp s r).2.bundles = s.bundles := by
  rcases keysApp_cases s r with h | ⟨-, _, h⟩ | ⟨_, -, -, h⟩ | ⟨_, -, h⟩ <;> rw [h]

theorem keysApp_valued {s : DeviceState} (hs : Valued s.keys) (r : AppRequest) :
    Valued (keysApp s r).2.keys := by
  rcases keysApp_cases s r with h | ⟨-, _, h⟩ | ⟨_, -, hv, h⟩ | ⟨_, -, h⟩
  · rwa [h]
  · rw [h]
    exact rotatedKeys_valued _ _
  · rw [h]
    exact hs.insert hv
  · rw [h]
    exact hs.erase _

theorem assetsApp_bundles_keys (s : DeviceState) (r : AppRequest) :
    (assetsApp s r).2.bundles = s.bundles ∧ (assetsApp s r).2.keys = s.keys := by
  rcases assetsApp_cases s r with h | ⟨_, _, _, -, h⟩ <;> rw [h] <;> exact ⟨rfl, rfl⟩

theorem appOf_valued {now : Int} {name : String}
    {app : DeviceState → AppRequest → CommandResult × DeviceState} (h : appOf? now name = some app)
    (s : DeviceState) (r : AppRequest) :
    (Valued s.keys → Valued (app s r).2.keys) ∧
    (Valued s.bundles → (name = "BUN-V1" → r.method = .write → r.bodyText ≠ "") →
      Valued (app s r).2.bundles) := by
  unfold appOf? at h
  split at h <;> cases h
  · rw [bundlesApp_keys]
    exact ⟨id, fun hb hw => bundlesApp_valued hb (hw rfl)⟩
  · rw [keysApp_bundles]
    exact ⟨fun hk => keysApp_valued hk r, fun hb _ => hb⟩
  · rw [(assetsApp_bundles_keys s r).1, (assetsApp_bundles_keys s r).2]
    exact ⟨id, fun hb _ => hb⟩
  · rw [statusApp_state]
    exact ⟨id, fun hb _ => hb⟩

/-- Requests handed to a device's applications by name, at instant `now`, in order: the
device's state after them. A request for an application the device does not have changes
nothing. -/
def serveRequests (now : Int) (s : DeviceState) : List (String × AppRequest) → DeviceState
  | [] => s
  | (name, r) :: rest =>
    match appOf? now name with
    | some app => serveRequests now (app s r).2 rest
    | none => serveRequests now s rest

def NoBlankBundleWrite (reqs : List (String × AppRequest)) : Prop :=
  ∀ r, ("BUN-V1", r) ∈ reqs → r.method = .write → r.bodyText ≠ ""

theorem serveRequests_valued (now : Int) (reqs : List (String × AppRequest)) (s : DeviceState) :
    (Valued s.keys → Valued (serveRequests now s reqs).keys) ∧
    (Valued s.bundles → NoBlankBundleWrite reqs → Valued (serveRequests now s reqs).bundles) := by
  induction reqs generalizing s with
  | nil => exact ⟨id, fun hb _ => hb⟩
  | cons req rest ih =>
    obtain ⟨name, r⟩ := req
    have hrest : NoBlankBundleWrite ((name, r) :: rest) → NoBlankBundleWrite rest :=
      fun hw r' hr' => hw r' (List.mem_cons_of_mem _ hr')
    simp only [serveRequests]
    split
    · next app happ =>
      have hstep := appOf_valued happ s r
      refine ⟨fun hk => (ih _).1 (hstep.1 hk), fun hb hw => (ih _).2 ?_ (hrest hw)⟩
      refine hstep.2 hb fun hn => hw r ?_
      subst hn
      exact List.mem_cons_self ..
    · exact ⟨(ih s).1, fun hb hw => (ih s).2 hb (hrest hw)⟩

theorem seeded_valued (t : Int) :
    Valued (DeviceState.seeded t).keys ∧ Valued (DeviceState.seeded t).bundles := by
  refine ⟨?_, ?_⟩ <;> intro kv hkv <;>
    simp only [DeviceState.seeded, List.mem_singleton] at hkv <;> subst hkv <;> decide

/-- Starting from a seeded device, after any requests to its applications, every alias has
key material; every installed bundle has a version too, as long as no request writes a bundle
with a blank body. -/
theorem values_kept_unless_blank_write (now t : Int) (reqs : List (String × AppRequest)) :
    Valued (serveRequests now (DeviceState.seeded t) reqs).keys ∧
    (NoBlankBundleWrite reqs → Valued (serveRequests now (DeviceState.seeded t) reqs).bundles) := by
  obtain ⟨hk, hb⟩ := seeded_valued t
  have h := serveRequests_valued now reqs (DeviceState.seeded t)
  exact ⟨h.1 hk, h.2 hb⟩

/-- Installing a bundle keeps every version set. -/
theorem versions_kept_after_install :
    NoBlankBundleWrite [("BUN-V1", ⟨.create, ["maps"], [51, 46, 50]⟩)] ∧
      Valued (serveRequests 0 (DeviceState.seeded 0)
        [("BUN-V1", ⟨.create, ["maps"], [51, 46, 50]⟩)]).bundles := by
  have hw : NoBlankBundleWrite [("BUN-V1", ⟨.create, ["maps"], [51, 46, 50]⟩)] := by
    intro r hr hm
    simp only [List.mem_singleton, Prod.mk.injEq, true_and] at hr
    subst hr
    cases hm
  exact ⟨hw, (values_kept_unless_blank_write 0 0 _).2 hw⟩

/-- Writing the installed bundle `core` with an empty body leaves it without a version. -/
theorem blank_write_empties_version :
    ¬ Valued (serveRequests 0 (DeviceState.seeded 0) [("BUN-V1", ⟨.write, ["core"], []⟩)]).bundles := by
  decide

end Agent

end DeviceFleet
