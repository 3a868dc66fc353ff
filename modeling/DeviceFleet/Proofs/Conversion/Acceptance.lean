import Mathlib.Data.String.Basic
import DeviceFleet.Proofs.Agent.Replies

/-!
# Which replies the server accepts

A device's envelope converts to a response exactly when it is a well-formed reply
(`reply_accepted_iff_well_formed`): a routable response channel, a method name or none, and a
readable payload.
-/

namespace DeviceFleet

/-- A channel fit to carry a reply: of the response class, naming a tenant, a client and an
application. -/
structure Channel.Routable (c : Channel) : Prop where
  response : c.messageClass = MessageClass.response.code
  tenant : c.tenantId ≠ ""
  client : c.clientId ≠ ""
  app : c.appName ≠ ""

def Channel.MethodReadable (c : Channel) : Prop :=
  c.method = "" ∨ ∃ m, Method.normalize c.method = .ok m

def Metric.Readable (m : Metric) : Prop :=
  1 ≤ m.kind ∧ m.kind ≤ 6 ∧
    (m.kind = MetricKind.int32.code → -2147483648 ≤ m.intValue ∧ m.intValue < 2147483648)

def Payload.Readable (p : Payload) : Prop :=
  (p.timestampMs = 0 ∨ instantInRange p.timestampMs = true) ∧ (∀ m ∈ p.metrics, m.Readable) ∧
    (p.metrics.map (·.name)).Nodup

def Envelope.ReplyChannel (e : Envelope) : Prop :=
  ∃ c, e.channel = some c ∧ c.Routable ∧ c.MethodReadable

def Envelope.ReplyPayload (e : Envelope) : Prop :=
  ∀ p, e.payload = some p → p.Readable

def Envelope.Correlatable (e : Envelope) : Prop :=
  ∃ c, e.channel = some c ∧ c.Routable ∧ c.requestId ≠ "" ∧ ∃ u, Uuid.parse c.requestId = .ok u

/-! ### Metrics kept sorted by name -/

namespace Metrics

theorem mem_keys_insert (name : String) (v : MetricValue) (acc : Metrics) (k : String) :
    k ∈ (insert name v acc).1.map Prod.fst ↔ k = name ∨ k ∈ acc.map Prod.fst := by
  induction acc with
  | nil => simp [insert]
  | cons kw rest ih =>
    obtain ⟨k', w⟩ := kw
    by_cases he : name = k'
    · subst he
      simp [insert]
    · by_cases hlt : name < k'
      · simp [insert, he, hlt]
      · simp only [insert, if_neg he, if_neg hlt, List.map_cons, List.mem_cons, ih]
        tauto

theorem pairwise_insert (name : String) (v : MetricValue) {acc : Metrics}
    (hs : (acc.map Prod.fst).Pairwise (· < ·)) :
    ((insert name v acc).1.map Prod.fst).Pairwise (· < ·) := by
  induction acc with
  | nil => simp [insert]
  | cons kw rest ih =>
    obtain ⟨k', w⟩ := kw
    rw [List.map_cons, List.pairwise_cons] at hs
    by_cases he : name = k'
    · subst he
      simpa [insert] using hs
    · by_cases hlt : name < k'
      · simp only [insert, if_neg he, if_pos hlt, List.map_cons, List.pairwise_cons, List.mem_cons]
        refine ⟨fun x hx => ?_, hs.1, hs.2⟩
        rcases hx with rfl | hx
        · exact hlt
        · exact lt_trans hlt (hs.1 x hx)
      · have hgt : k' < name := lt_of_le_of_ne (not_lt.mp hlt) (Ne.symm he)
        simp only [insert, if_neg he, if_neg hlt, List.map_cons, List.pairwise_cons]
        refine ⟨fun x hx => ?_, ih hs.2⟩
        rcases (mem_keys_insert name v rest x).mp hx with rfl | hx
        · exact hgt
        · exact hs.1 x hx

theorem insert_snd_of_mem {name : String} (v : MetricValue) {acc : Metrics}
    (hs : (acc.map Prod.fst).Pairwise (· < ·)) (h : name ∈ acc.map Prod.fst) :
    (insert name v acc).2 = true := by
  induction acc with
  | nil => cases h
  | cons kw rest ih =>
    obtain ⟨k', w⟩ := kw
    rw [List.map_cons, List.pairwise_cons] at hs
    by_cases he : name = k'
    · simp [insert, he]
    · have hrest : name ∈ rest.map Prod.fst := by simpa [he] using h
      have hnlt : ¬ name < k' := fun hlt => lt_asymm hlt (hs.1 name hrest)
      simp only [insert, if_neg he, if_neg hnlt]
      exact ih hs.2 hrest

end Metrics

namespace Conversion

/-! ### One metric -/

theorem MetricKind.ofCode?_code (k : MetricKind) : MetricKind.ofCode? k.code = some k := by
  cases k <;> rfl

theorem MetricKind.code_of_ofCode? {n : Int} {k : MetricKind} (h : MetricKind.ofCode? n = some k) :
    k.code = n := by
  unfold MetricKind.ofCode? at h
  split at h <;> cases h <;> rfl

theorem metricValue_ok_iff (m : Metric) : (∃ v, metricValue m = .ok v) ↔ m.Readable := by
  constructor
  · rintro ⟨v, hv⟩
    cases hk : MetricKind.ofCode? m.kind with
    | none => simp [metricValue, hk] at hv
    | some k =>
      have hcode := MetricKind.code_of_ofCode? hk
      cases k with
      | unspecified => simp [metricValue, hk] at hv
      | int32 =>
        simp only [metricValue, hk] at hv
        split at hv
        · exact ⟨by rw [← hcode]; decide, by rw [← hcode]; decide, fun _ => ‹_›⟩
        · cases hv
      | text | int64 | double | boolean | blob =>
        refine ⟨by rw [← hcode]; decide, by rw [← hcode]; decide, fun h => ?_⟩
        rw [← hcode] at h
        exact absurd h (by decide)
  · rintro ⟨h1, h6, h32⟩
    obtain ⟨k, hk, hne⟩ : ∃ k : MetricKind, m.kind = k.code ∧ k ≠ .unspecified := by
      have : m.kind = 1 ∨ m.kind = 2 ∨ m.kind = 3 ∨ m.kind = 4 ∨ m.kind = 5 ∨ m.kind = 6 := by omega
      rcases this with h | h | h | h | h | h
      exacts [⟨.text, h, by decide⟩, ⟨.int32, h, by decide⟩, ⟨.int64, h, by decide⟩,
        ⟨.double, h, by decide⟩, ⟨.boolean, h, by decide⟩, ⟨.blob, h, by decide⟩]
    unfold metricValue
    rw [hk, MetricKind.ofCode?_code]
    cases k with
    | unspecified => exact absurd rfl hne
    | int32 => exact ⟨_, if_pos (h32 hk)⟩
    | text | int64 | double | boolean | blob => exact ⟨_, rfl⟩

theorem metricValue_error {m : Metric} {err : ConversionError} (h : metricValue m = .error err) :
    ∃ reason, err = .invalidPayload reason := by
  cases hk : MetricKind.ofCode? m.kind with
  | none =>
    simp only [metricValue, hk, Except.error.injEq] at h
    exact ⟨_, h.symm⟩
  | some k =>
    cases k with
    | unspecified =>
      simp only [metricValue, hk, Except.error.injEq] at h
      exact ⟨_, h.symm⟩
    | int32 =>
      simp only [metricValue, hk] at h
      split at h
      · cases h
      · simp only [Except.error.injEq] at h
        exact ⟨_, h.symm⟩
    | text | int64 | double | boolean | blob => simp [metricValue, hk] at h

/-! ### A list of metrics -/

def metricStep (acc : Metrics) (m : Metric) : Except ConversionError Metrics := do
  let v ← metricValue m
  let (acc', had) := Metrics.insert m.name v acc
  if had then throw (.invalidPayload ("duplicate metric '" ++ m.name ++ "'")) else pure acc'

theorem decodeMetrics_eq_foldlM (ms : List Metric) : decodeMetrics ms = ms.foldlM metricStep [] :=
  rfl

theorem metricStep_eq_ok {acc acc' : Metrics} {m : Metric} (h : metricStep acc m = .ok acc') :
    ∃ v, metricValue m = .ok v ∧ Metrics.insert m.name v acc = (acc', false) := by
  unfold metricStep at h
  cases hv : metricValue m with
  | error err => simp [hv, bind, Except.bind] at h
  | ok v =>
    cases hi : Metrics.insert m.name v acc with
    | mk acc'' had =>
      cases had <;> simp_all [bind, Except.bind, pure, Except.pure, throw, throwThe,
        MonadExceptOf.throw]

theorem metricStep_error {acc : Metrics} {m : Metric} {err : ConversionError}
    (h : metricStep acc m = .error err) : ∃ reason, err = .invalidPayload reason := by
  unfold metricStep at h
  cases hv : metricValue m with
  | error e => simp only [hv, bind, Except.bind, Except.error.injEq] at h; exact metricValue_error (h ▸ hv)
  | ok v =>
    cases hi : Metrics.insert m.name v acc with
    | mk acc'' had =>
      cases had with
      | false => simp_all [bind, Except.bind, pure, Except.pure]
      | true =>
        simp only [hv, hi, bind, Except.bind, if_true, throw, throwThe, MonadExceptOf.throw,
          Except.error.injEq] at h
        exact ⟨_, h.symm⟩

theorem foldlM_error {f : Metrics → Metric → Except ConversionError Metrics}
    {P : ConversionError → Prop} (hf : ∀ acc m err, f acc m = .error err → P err)
    {ms : List Metric} {acc : Metrics} {err : ConversionError} (h : ms.foldlM f acc = .error err) :
    P err := by
  induction ms generalizing acc with
  | nil => cases h
  | cons m ms ih =>
    rw [List.foldlM_cons] at h
    cases hm : f acc m with
    | error e => simp only [hm, bind, Except.bind, Except.error.injEq] at h; exact h ▸ hf _ _ _ hm
    | ok acc' => simp only [hm, bind, Except.bind] at h; exact ih h

/-- Reading metrics into names kept in increasing order succeeds only on readable metrics whose
names are new and all different. -/
theorem foldlM_metricStep_ok {ms : List Metric} {acc out : Metrics}
    (hs : (acc.map Prod.fst).Pairwise (· < ·)) (h : ms.foldlM metricStep acc = .ok out) :
    (∀ m ∈ ms, m.Readable) ∧ (acc.map Prod.fst ++ ms.map Metric.name).Nodup := by
  induction ms generalizing acc with
  | nil =>
    refine ⟨(fun _ hm => by cases hm), ?_⟩
    rw [List.map_nil, List.append_nil]
    exact hs.imp ne_of_lt
  | cons m ms ih =>
    rw [List.foldlM_cons] at h
    cases hm : metricStep acc m with
    | error e => simp [hm, bind, Except.bind] at h
    | ok acc' =>
      simp only [hm, bind, Except.bind] at h
      obtain ⟨v, hv, hins⟩ := metricStep_eq_ok hm
      -- the step refused no name, so the name was not held: names are kept sorted
      have hfresh : m.name ∉ acc.map Prod.fst := fun hmem => by
        simpa [hins] using Metrics.insert_snd_of_mem v hs hmem
      have hs' : (acc'.map Prod.fst).Pairwise (· < ·) := by
        simpa [hins] using Metrics.pairwise_insert m.name v hs
      have hperm : (acc'.map Prod.fst).Perm (m.name :: acc.map Prod.fst) := by
        simpa [hins] using (Metrics.insert_fresh (v := v) hfresh).2.1
      obtain ⟨hread, hn⟩ := ih hs' h
      refine ⟨?_, ?_⟩
      · intro x hx
        rcases List.mem_cons.mp hx with rfl | hx
        · exact (metricValue_ok_iff x).mp ⟨v, hv⟩
        · exact hread x hx
      · rw [List.map_cons]
        exact (List.perm_middle.trans ((hperm.append_right _).symm)).nodup_iff.mpr hn

theorem decodeMetrics_ok_iff (ms : List Metric) :
    (∃ out, decodeMetrics ms = .ok out) ↔ (∀ m ∈ ms, m.Readable) ∧ (ms.map Metric.name).Nodup := by
  constructor
  · rintro ⟨out, h⟩
    rw [decodeMetrics_eq_foldlM] at h
    simpa using foldlM_metricStep_ok List.Pairwise.nil h
  · rintro ⟨hread, hn⟩
    obtain ⟨out, hout, -⟩ := decodeMetrics_fresh hn fun m hm => (metricValue_ok_iff m).mpr (hread m hm)
    exact ⟨out, hout⟩

theorem decodeMetrics_error {ms : List Metric} {err : ConversionError}
    (h : decodeMetrics ms = .error err) : ∃ reason, err = .invalidPayload reason := by
  rw [decodeMetrics_eq_foldlM] at h
  exact foldlM_error (fun _ _ _ => metricStep_error) h

/-! ### The channel, the method and the payload of a reply -/

theorem responseChannel_eq_ok_iff {e : Envelope} {c : Channel} :
    responseChannel e = .ok c ↔ e.channel = some c ∧ c.Routable := by
  unfold responseChannel
  cases e.channel with
  | none => simp
  | some c' =>
    simp only [Option.some.injEq]
    split_ifs with hclass hids happ
    · refine ⟨(fun h => by cases h), ?_⟩
      rintro ⟨rfl, hr⟩
      exact hclass hr.response
    · refine ⟨(fun h => by cases h), ?_⟩
      rintro ⟨rfl, hr⟩
      simp [String.isEmpty_iff, hr.tenant, hr.client] at hids
    · refine ⟨(fun h => by cases h), ?_⟩
      rintro ⟨rfl, hr⟩
      exact hr.app (String.isEmpty_iff.mp happ)
    · simp only [Bool.or_eq_true, not_or, String.isEmpty_iff] at hids happ
      constructor
      · rintro ⟨⟩
        exact ⟨rfl, not_not.mp hclass, hids.1, hids.2, happ⟩
      · rintro ⟨rfl, -⟩
        rfl

theorem responseChannel_error {e : Envelope} {err : ConversionError}
    (h : responseChannel e = .error err) : ∃ reason, err = .invalidChannel reason := by
  unfold responseChannel at h
  cases hch : e.channel with
  | none =>
    rw [hch] at h
    cases h
    exact ⟨_, rfl⟩
  | some c =>
    simp only [hch] at h
    split_ifs at h <;> cases h <;> exact ⟨_, rfl⟩

def replyMethod (c : Channel) : Except ConversionError (Option Method) :=
  if c.method.isEmpty then pure none
  else match Method.normalize c.method with
    | .ok m => pure (some m)
    | .error err => throw (.invalidChannel err.message)

theorem replyMethod_ok_iff (c : Channel) : (∃ m, replyMethod c = .ok m) ↔ c.MethodReadable := by
  unfold replyMethod Channel.MethodReadable
  by_cases he : c.method = ""
  · simp [he, pure, Except.pure]
  · have hne : c.method.isEmpty = false := String.isEmpty_eq_false_iff.mpr he
    cases hn : Method.normalize c.method with
    | ok m => simp [hne, he, pure, Except.pure]
    | error u => simp [hne, he, throw, throwThe, MonadExceptOf.throw]

theorem replyMethod_error {c : Channel} {err : ConversionError} (h : replyMethod c = .error err) :
    ∃ reason, err = .invalidChannel reason := by
  unfold replyMethod at h
  split at h
  · cases h
  · split at h
    · cases h
    · cases h
      exact ⟨_, rfl⟩

def replyStamp (now : Int) (p : Payload) : Except ConversionError Int :=
  if p.timestampMs = 0 then pure now
  else if instantInRange p.timestampMs then pure p.timestampMs
  else throw (.invalidPayload ("timestamp " ++ Text.intText p.timestampMs ++ " out of range"))

theorem replyStamp_ok_iff (now : Int) (p : Payload) :
    (∃ t, replyStamp now p = .ok t) ↔ p.timestampMs = 0 ∨ instantInRange p.timestampMs = true := by
  unfold replyStamp
  by_cases h0 : p.timestampMs = 0
  · simp [h0, pure, Except.pure]
  · cases hr : instantInRange p.timestampMs <;>
      simp [h0, pure, Except.pure, throw, throwThe, MonadExceptOf.throw]

theorem replyStamp_error {now : Int} {p : Payload} {err : ConversionError}
    (h : replyStamp now p = .error err) : ∃ reason, err = .invalidPayload reason := by
  unfold replyStamp at h
  split_ifs at h <;> cases h
  exact ⟨_, rfl⟩

def replyParts (now : Int) : Option Payload → Except ConversionError (Int × Metrics × Bytes)
  | none => pure (now, [], [])
  | some p => do
    let stamp ← replyStamp now p
    let ms ← decodeMetrics p.metrics
    pure (stamp, ms, p.body)

theorem replyParts_ok_iff (now : Int) (po : Option Payload) :
    (∃ r, replyParts now po = .ok r) ↔ ∀ p, po = some p → p.Readable := by
  cases po with
  | none => simp [replyParts, pure, Except.pure]
  | some p =>
    simp only [Option.some.injEq, forall_eq', Payload.Readable, ← replyStamp_ok_iff now p,
      ← decodeMetrics_ok_iff]
    cases hst : replyStamp now p <;> cases hdm : decodeMetrics p.metrics <;>
      simp [replyParts, hst, hdm, bind, Except.bind, pure, Except.pure]

theorem replyParts_error {now : Int} {po : Option Payload} {err : ConversionError}
    (h : replyParts now po = .error err) : ∃ reason, err = .invalidPayload reason := by
  cases po with
  | none => cases h
  | some p =>
    cases hst : replyStamp now p with
    | error e =>
      simp only [replyParts, hst, bind, Except.bind, Except.error.injEq] at h
      exact h ▸ replyStamp_error hst
    | ok t =>
      cases hdm : decodeMetrics p.metrics with
      | error e =>
        simp only [replyParts, hst, hdm, bind, Except.bind, Except.error.injEq] at h
        exact h ▸ decodeMetrics_error hdm
      | ok ms => simp [replyParts, hst, hdm, bind, Except.bind, pure, Except.pure] at h

/-! ### Whole replies -/

theorem map_unit_eq_ok {α : Type} {x : Except ConversionError α} :
    x.map (fun _ => ()) = .ok () ↔ ∃ r, x = .ok r := by
  cases x <;> simp [Except.map]

theorem map_unit_eq_error {α : Type} {x : Except ConversionError α} {err : ConversionError} :
    x.map (fun _ => ()) = .error err ↔ x = .error err := by
  cases x <;> simp [Except.map]

/-- Whether a reply converts, and with which error, is told by its channel, then its method,
then its payload, in that order. -/
theorem convertResponse_outcome (now : Int) (e : Envelope) :
    (convertResponse now e).map (fun _ => ()) =
      (do
        let c ← responseChannel e
        let _ ← replyMethod c
        let _ ← replyParts now e.payload
        pure ()) := by
  cases hc : responseChannel e with
  | error err => simp [convertResponse, hc, bind, Except.bind, Except.map]
  | ok c =>
    have hmeth : c.method.isEmpty = true ∨
        (c.method.isEmpty = false ∧ ∃ m, Method.normalize c.method = .ok m) ∨
        (c.method.isEmpty = false ∧ ∃ u, Method.normalize c.method = .error u) := by
      cases c.method.isEmpty
      · cases Method.normalize c.method <;> simp
      · simp
    cases hpay : e.payload with
    | none =>
      rcases hmeth with hm | ⟨hm, m, hn⟩ | ⟨hm, u, hn⟩ <;>
        simp_all [convertResponse, replyMethod, replyParts, bind, Except.bind, Except.map, pure,
          Except.pure, throw, throwThe, MonadExceptOf.throw]
    | some p =>
      have hstamp : p.timestampMs = 0 ∨ (p.timestampMs ≠ 0 ∧ instantInRange p.timestampMs = true) ∨
          (p.timestampMs ≠ 0 ∧ instantInRange p.timestampMs = false) := by
        by_cases h0 : p.timestampMs = 0 <;> cases instantInRange p.timestampMs <;> simp [h0]
      cases hd : decodeMetrics p.metrics <;>
        rcases hmeth with hm | ⟨hm, m, hn⟩ | ⟨hm, u, hn⟩ <;>
        rcases hstamp with h0 | ⟨h0, hr⟩ | ⟨h0, hr⟩ <;>
        simp_all [convertResponse, replyMethod, replyParts, replyStamp, bind, Except.bind,
          Except.map, pure, Except.pure, throw, throwThe, MonadExceptOf.throw]

theorem replyChannel_iff (e : Envelope) :
    e.ReplyChannel ↔ ∃ c, responseChannel e = .ok c ∧ ∃ m, replyMethod c = .ok m := by
  simp only [Envelope.ReplyChannel, responseChannel_eq_ok_iff, replyMethod_ok_iff, and_assoc]

theorem convertCorrelation_ok_iff (e : Envelope) :
    (∃ id, convertCorrelation e = .ok id) ↔ e.Correlatable := by
  have hrc : e.Correlatable ↔
      ∃ c, responseChannel e = .ok c ∧ c.requestId ≠ "" ∧ ∃ u, Uuid.parse c.requestId = .ok u := by
    simp only [Envelope.Correlatable, responseChannel_eq_ok_iff, and_assoc]
  rw [hrc]
  cases hc : responseChannel e with
  | error err => simp [convertCorrelation, hc, bind, Except.bind]
  | ok c =>
    by_cases hid : c.requestId = ""
    · simp [convertCorrelation, hc, hid, bind, Except.bind, throw, throwThe, MonadExceptOf.throw]
    · have hne : c.requestId.isEmpty = false := String.isEmpty_eq_false_iff.mpr hid
      cases hu : Uuid.parse c.requestId <;>
        simp [convertCorrelation, hc, hid, hne, hu, bind, Except.bind, pure, Except.pure, throw,
          throwThe, MonadExceptOf.throw]

/-- A reply converts exactly when its channel and its payload read; a channel that does not read
is reported as such whatever the payload, and a payload that does not read under a channel
that does is reported as such. Its correlation reads exactly when the channel is routable and
names its request by an identifier, whatever its method. -/
theorem reply_accepted_iff_well_formed (now : Int) (e : Envelope) :
    ((∃ r, convertResponse now e = .ok r) ↔ e.ReplyChannel ∧ e.ReplyPayload) ∧
      (¬ e.ReplyChannel → ∃ reason, convertResponse now e = .error (.invalidChannel reason)) ∧
      (e.ReplyChannel → ¬ e.ReplyPayload →
        ∃ reason, convertResponse now e = .error (.invalidPayload reason)) ∧
      ((∃ id, convertCorrelation e = .ok id) ↔ e.Correlatable) := by
  have hout := convertResponse_outcome now e
  have hpay : e.ReplyPayload ↔ ∃ r, replyParts now e.payload = .ok r :=
    (replyParts_ok_iff now e.payload).symm
  rw [replyChannel_iff, hpay, convertCorrelation_ok_iff]
  cases hc : responseChannel e with
  | error err =>
    obtain ⟨reason, rfl⟩ := responseChannel_error hc
    have hconv : convertResponse now e = .error (.invalidChannel reason) := by
      rw [← map_unit_eq_error, hout, hc]
      rfl
    simp [hconv]
  | ok c =>
    cases hm : replyMethod c with
    | error err =>
      obtain ⟨reason, rfl⟩ := replyMethod_error hm
      have hconv : convertResponse now e = .error (.invalidChannel reason) := by
        rw [← map_unit_eq_error, hout]
        simp [hc, hm, bind, Except.bind]
      simp [hconv, hm]
    | ok m =>
      cases hp : replyParts now e.payload with
      | error err =>
        obtain ⟨reason, rfl⟩ := replyParts_error hp
        have hconv : convertResponse now e = .error (.invalidPayload reason) := by
          rw [← map_unit_eq_error, hout]
          simp [hc, hm, hp, bind, Except.bind]
        simp [hconv, hm]
      | ok parts =>
        obtain ⟨r, hconv⟩ : ∃ r, convertResponse now e = .ok r := by
          rw [← map_unit_eq_ok, hout]
          simp [hc, hm, hp, bind, Except.bind, pure, Except.pure]
        simp [hconv, hm]

def twiceNamedReply : Envelope :=
  { channel := some { messageClass := MessageClass.response.code, tenantId := "acme",
                      clientId := "pump-7", appName := "status" }
    payload := some { metrics := [{ name := "load", kind := MetricKind.int64.code },
                                  { name := "load", kind := MetricKind.int64.code }] } }

theorem twice_named_reply_refused :
    twiceNamedReply.ReplyChannel ∧ ¬ twiceNamedReply.ReplyPayload ∧
      ∃ reason, convertResponse 0 twiceNamedReply = .error (.invalidPayload reason) := by
  have hch : twiceNamedReply.ReplyChannel :=
    ⟨_, rfl, ⟨rfl, by decide, by decide, by decide⟩, Or.inl rfl⟩
  have hpay : ¬ twiceNamedReply.ReplyPayload := fun h => by
    simpa using (h _ rfl).2.2
  exact ⟨hch, hpay, (reply_accepted_iff_well_formed 0 twiceNamedReply).2.2.1 hch hpay⟩

end Conversion

end DeviceFleet
