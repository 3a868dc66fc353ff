import DeviceFleet.Proofs.Protocol.UuidText
import DeviceFleet.Conversion.Request
import DeviceFleet.Conversion.Response

/-!
# A request and its reply, converted there and back

A device's echo of a request converts back to the request's correlation identifier and a
response holding every field of the request (`request_reply_round_trip`).
-/

namespace DeviceFleet

/-! ### Methods by their device spelling -/

theorem normalize_deviceAlias (m : Method) : Method.normalize m.deviceAlias = .ok m := by
  cases m <;> rfl

theorem isEmpty_deviceAlias (m : Method) : m.deviceAlias.isEmpty = false := by
  cases m <;> rfl

/-! ### Metrics in name order -/

namespace Metrics

theorem insert_of_lt {name : String} {v : MetricValue} {acc : Metrics}
    (h : ∀ k ∈ acc.map Prod.fst, k < name) : insert name v acc = (acc ++ [(name, v)], false) := by
  induction acc with
  | nil => rfl
  | cons kw rest ih =>
    obtain ⟨k, w⟩ := kw
    have hk : k < name := h k (by simp)
    have hne : name ≠ k := fun he => String.lt_irrefl k (he ▸ hk)
    simp only [insert, if_neg hne, if_neg (String.lt_asymm hk)]
    rw [ih fun x hx => h x (List.mem_cons_of_mem k hx)]
    rfl

end Metrics

namespace Conversion

def Fits32 : MetricValue → Prop
  | .int v => -2147483648 ≤ v ∧ v < 2147483648
  | _ => True

theorem encodeMetrics_cons (n : String) (v : MetricValue) (ms : Metrics) (hv : Fits32 v) :
    ∃ m, encodeMetrics ((n, v) :: ms) = m :: encodeMetrics ms ∧ m.name = n ∧
      metricValue m = .ok v := by
  cases v with
  | int i =>
    obtain ⟨h1, h2⟩ := hv
    exact ⟨_, rfl, rfl, by simp [metricValue, MetricKind.code, MetricKind.ofCode?, h1, h2]⟩
  | text _ | long _ | double _ | bool _ | bytes _ => exact ⟨_, rfl, rfl, rfl⟩

/-- Reading, with a step that appends each metric read, the device metrics of metrics in name
order after metrics whose names all come first: they are added at the end. The induction is on
the metrics still to read. -/
theorem foldlM_encodeMetrics {f : Metrics → Metric → Except ConversionError Metrics}
    (hstep : ∀ acc m v, metricValue m = .ok v → (∀ k ∈ acc.map Prod.fst, k < m.name) →
      f acc m = .ok (acc ++ [(m.name, v)]))
    {acc ms : Metrics} (hs : ((acc ++ ms).map Prod.fst).Pairwise (· < ·))
    (hf : ∀ p ∈ ms, Fits32 p.2) : (encodeMetrics ms).foldlM f acc = .ok (acc ++ ms) := by
  induction ms generalizing acc with
  | nil => simp only [List.append_nil]; rfl
  | cons p ms ih =>
    obtain ⟨n, v⟩ := p
    obtain ⟨m, henc, hname, hval⟩ := encodeMetrics_cons n v ms (hf (n, v) (by simp))
    have hlt : ∀ k ∈ acc.map Prod.fst, k < m.name := by
      intro k hk
      rw [List.map_append, List.pairwise_append] at hs
      exact hname ▸ hs.2.2 k hk n (by simp)
    rw [henc, List.foldlM_cons, hstep acc m v hval hlt, hname]
    have hnext := ih
      (show (((acc ++ [(n, v)]) ++ ms).map Prod.fst).Pairwise (· < ·) by simpa using hs)
      (fun q hq => hf q (List.mem_cons_of_mem _ hq))
    rw [List.append_assoc, List.singleton_append] at hnext
    exact hnext

theorem decodeMetrics_encodeMetrics {ms : Metrics} (hs : (ms.map Prod.fst).Pairwise (· < ·))
    (hf : ∀ p ∈ ms, Fits32 p.2) : decodeMetrics (encodeMetrics ms) = .ok ms := by
  unfold decodeMetrics
  refine foldlM_encodeMetrics ?_ (show (([] ++ ms).map Prod.fst).Pairwise (· < ·) from hs) hf
  intro acc m v hv hlt
  simp [hv, Metrics.insert_of_lt hlt]

end Conversion

/-! ### A request and its reply -/

/-- What a canonical request's types guarantee: metric names in increasing order, each once,
32-bit metrics within 32 bits, and an instant the calendar can hold. -/
structure CanonicalRequest.Representable (r : CanonicalRequest) : Prop where
  names_sorted : (r.metrics.map Prod.fst).Pairwise (· < ·)
  ints_fit : ∀ p ∈ r.metrics, Conversion.Fits32 p.2
  instant : instantInRange r.capturedOn = true

namespace Conversion

def replyEnvelope (e : Envelope) (k : Nat) : Envelope :=
  { channel := e.channel.map (·.replyTo k), payload := e.payload }

def echoed (c : CorrelationId) (r : CanonicalRequest) (k : Nat) (now : Int) : CanonicalResponse :=
  { tenantId := r.tenantId, deviceId := r.deviceId, appName := r.appName,
    appVersion := r.appVersion, method := some r.method, resourcePath := r.resourcePath,
    body := r.body, metrics := r.metrics, capturedOn := if r.capturedOn = 0 then now else r.capturedOn,
    headers := { requester := r.requester, requestId := c.requestId.text, username := r.username,
                 clientId := r.deviceId, resultCode := some k },
    code := ResponseCode.ofResultCode k,
    exceptionMessage := (r.metrics.lookup exceptionMessageMetric).bind MetricValue.asText? }

def requestChannel (c : CorrelationId) (r : CanonicalRequest) : Channel :=
  { messageClass := MessageClass.request.code, tenantId := r.tenantId, clientId := r.deviceId,
    appName := r.appName, appVersion := r.appVersion, method := r.method.deviceAlias,
    resource := r.resourcePath, requester := r.requester, requestId := c.requestId.text,
    username := r.username }

def requestPayload (r : CanonicalRequest) : Payload :=
  { timestampMs := r.capturedOn, metrics := encodeMetrics r.metrics, body := r.body }

variable {c : CorrelationId} {r : CanonicalRequest}

theorem convertRequest_ok (ht : r.tenantId ≠ "") (hd : r.deviceId ≠ "") (ha : r.appName ≠ "")
    (hm : ∀ p ∈ r.metrics, p.1 ≠ "") (hct : c.tenantId = r.tenantId)
    (hcd : c.deviceId = r.deviceId) :
    convertRequest ⟨c, r⟩ =
      .ok { channel := some (requestChannel c r), payload := some (requestPayload r) } := by
  have hmetrics : r.metrics.any (fun kv => kv.1.isEmpty) = false := by
    rw [List.any_eq_false]
    intro p hp
    simpa using hm p hp
  simp [convertRequest, String.isEmpty_iff, ht, hd, ha, hct, hcd, hmetrics, requestChannel,
    requestPayload]

theorem responseChannel_reply (ht : r.tenantId ≠ "") (hd : r.deviceId ≠ "") (ha : r.appName ≠ "")
    (k : Nat) (p : Option Payload) :
    responseChannel { channel := some ((requestChannel c r).replyTo k), payload := p } =
      .ok ((requestChannel c r).replyTo k) := by
  simp [responseChannel, Channel.replyTo, requestChannel, MessageClass.code, String.isEmpty_iff,
    ht, hd, ha]

/-- A request accepted for sending, answered by its device with any result code, converts back
to its correlation identifier and to a response holding every field of the request. -/
theorem request_reply_round_trip (c : CorrelationId) (r : CanonicalRequest)
    (hr : r.Representable) (ht : r.tenantId ≠ "") (hd : r.deviceId ≠ "") (ha : r.appName ≠ "")
    (hm : ∀ p ∈ r.metrics, p.1 ≠ "") (hct : c.tenantId = r.tenantId)
    (hcd : c.deviceId = r.deviceId) :
    ∃ e, convertRequest ⟨c, r⟩ = .ok e ∧ ∀ (k : Nat) (now : Int),
      convertCorrelation (replyEnvelope e k) = .ok c ∧
        convertResponse now (replyEnvelope e k) = .ok (echoed c r k now) := by
  refine ⟨_, convertRequest_ok ht hd ha hm hct hcd, fun k now => ⟨?_, ?_⟩⟩
  · simp only [replyEnvelope, Option.map_some, convertCorrelation]
    rw [responseChannel_reply ht hd ha]
    obtain ⟨ct, cd, u⟩ := c
    simp only at hct hcd
    subst hct hcd
    simp only [bind, Except.bind, Channel.replyTo, requestChannel, Uuid.isEmpty_text,
      Uuid.parse_text, Bool.false_eq_true, if_false]
    rfl
  · simp only [replyEnvelope, Option.map_some, convertResponse]
    rw [responseChannel_reply ht hd ha]
    have hms := decodeMetrics_encodeMetrics hr.names_sorted hr.ints_fit
    simp only [bind, Except.bind, Channel.replyTo, requestChannel, requestPayload, isEmpty_deviceAlias,
      normalize_deviceAlias, Bool.false_eq_true, if_false, hms]
    by_cases h0 : r.capturedOn = 0
    · simp [h0, echoed, pure, Except.pure]
    · simp [h0, hr.instant, echoed, pure, Except.pure]

def readTemperature : CanonicalRequest :=
  { tenantId := "1", deviceId := "dev-1", appName := "sensors", method := .read,
    metrics := [("celsius", .int 21), ("unit", .text "C")], capturedOn := 1700000000000 }

def readTemperatureId : CorrelationId :=
  { tenantId := "1", deviceId := "dev-1", requestId := ⟨1, 2⟩ }

theorem read_temperature_round_trip :
    readTemperature.Representable ∧
      ∃ e, convertRequest ⟨readTemperatureId, readTemperature⟩ = .ok e ∧ ∀ (k : Nat) (now : Int),
        convertCorrelation (replyEnvelope e k) = .ok readTemperatureId ∧
          convertResponse now (replyEnvelope e k) =
            .ok (echoed readTemperatureId readTemperature k now) := by
  have hr : readTemperature.Representable :=
    ⟨by decide, by simp [readTemperature, Fits32], by decide⟩
  refine ⟨hr, request_reply_round_trip _ _ hr (by decide) (by decide) (by decide) ?_ rfl rfl⟩
  simp [readTemperature]

end Conversion

end DeviceFleet
