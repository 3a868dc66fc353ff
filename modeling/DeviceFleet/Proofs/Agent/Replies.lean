import DeviceFleet.Proofs.Conversion.RoundTrip
import DeviceFleet.Agent.Executor
import DeviceFleet.Command.Dispatch

/-!
# A device's reply, as the server reads it

For every request the server sends, the agent answers and the server reads the answer back
without fail, with the agent's result code, message, body and metrics (`device_reply_agrees`).
-/

namespace DeviceFleet

/-! ### Reading metrics in any order -/

namespace Metrics

/-- Inserting a name not held yet replaces nothing, adds the name, and reads as the value
inserted; every other name reads as before. -/
theorem insert_fresh {name : String} {v : MetricValue} {acc : Metrics}
    (h : name ∉ acc.map Prod.fst) :
    (insert name v acc).2 = false ∧
      ((insert name v acc).1.map Prod.fst).Perm (name :: acc.map Prod.fst) ∧
      ∀ k, (insert name v acc).1.lookup k = if k = name then some v else acc.lookup k := by
  induction acc with
  | nil =>
    refine ⟨rfl, .refl _, fun k => ?_⟩
    by_cases hk : k = name
    · subst hk
      simp [insert]
    · have hb : (k == name) = false := by simpa using hk
      simp [insert, List.lookup_cons, hb, hk]
  | cons kw rest ih =>
    obtain ⟨k', w⟩ := kw
    have hne : name ≠ k' := fun he => h (by simp [he])
    have hrest : name ∉ rest.map Prod.fst := fun hm => h (List.mem_cons_of_mem _ hm)
    by_cases hlt : name < k'
    · have hins : insert name v ((k', w) :: rest) = ((name, v) :: (k', w) :: rest, false) := by
        simp [insert, hne, hlt]
      rw [hins]
      refine ⟨rfl, .refl _, fun k => ?_⟩
      by_cases hk : k = name
      · subst hk
        simp
      · have hb : (k == name) = false := by simpa using hk
        simp [List.lookup_cons, hb, hk]
    · obtain ⟨hhad, hperm, hlook⟩ := ih hrest
      have hins : insert name v ((k', w) :: rest) =
          ((k', w) :: (insert name v rest).1, (insert name v rest).2) := by
        simp [insert, hne, hlt]
      rw [hins]
      refine ⟨hhad, (hperm.cons k').trans (.swap name k' _), fun k => ?_⟩
      by_cases hk : k = name
      · subst hk
        have hb : (k == k') = false := by simpa using hne
        simp [List.lookup_cons, hb, hlook]
      · simp [List.lookup_cons, hlook, hk]

end Metrics

namespace Conversion

/-- Reading device metrics whose names are all new, each of a kind that reads: the names read
are the ones held and the ones read, each metric read reads as its value, and every other name
as before. The induction is on the metrics still to read. -/
theorem foldlM_fresh {f : Metrics → Metric → Except ConversionError Metrics}
    (hstep : ∀ acc m v, metricValue m = .ok v → m.name ∉ acc.map Prod.fst →
      f acc m = .ok (Metrics.insert m.name v acc).1)
    {ms : List Metric} {acc : Metrics} (hn : (acc.map Prod.fst ++ ms.map Metric.name).Nodup)
    (hv : ∀ m ∈ ms, ∃ v, metricValue m = .ok v) :
    ∃ out, ms.foldlM f acc = .ok out ∧
      (out.map Prod.fst).Perm (acc.map Prod.fst ++ ms.map Metric.name) ∧
      (∀ k, k ∉ ms.map Metric.name → out.lookup k = acc.lookup k) ∧
      ∀ m ∈ ms, ∀ v, metricValue m = .ok v → out.lookup m.name = some v := by
  induction ms generalizing acc with
  | nil => exact ⟨acc, rfl, by simp, fun _ _ => rfl, fun _ hm => by cases hm⟩
  | cons m ms ih =>
    obtain ⟨v, hval⟩ := hv m (List.mem_cons_self ..)
    have hfresh : m.name ∉ acc.map Prod.fst := by
      intro hm
      rw [List.map_cons, List.nodup_append] at hn
      exact hn.2.2 _ hm _ (List.mem_cons_self ..) rfl
    obtain ⟨-, hperm, hlook⟩ := Metrics.insert_fresh (v := v) hfresh
    have hn' : ((Metrics.insert m.name v acc).1.map Prod.fst ++ ms.map Metric.name).Nodup := by
      exact ((hperm.append_right _).trans List.perm_middle.symm).nodup_iff.mpr hn
    obtain ⟨out, hfold, hperm', hother, hread⟩ :=
      ih hn' (fun x hx => hv x (List.mem_cons_of_mem _ hx))
    have hnotin : m.name ∉ ms.map Metric.name := by
      rw [List.map_cons, List.nodup_append, List.nodup_cons] at hn
      exact hn.2.1.1
    refine ⟨out, ?_, ?_, fun k hk => ?_, fun x hx w hw => ?_⟩
    · rw [List.foldlM_cons, hstep acc m v hval hfresh]
      exact hfold
    · exact hperm'.trans ((hperm.append_right _).trans List.perm_middle.symm)
    · have hk' : k ∉ ms.map Metric.name := fun h => hk (List.mem_cons_of_mem _ h)
      have hne : k ≠ m.name := by
        rintro rfl
        exact hk (List.mem_cons_self ..)
      rw [hother k hk', hlook k, if_neg hne]
    · rcases List.mem_cons.mp hx with rfl | hx
      · rw [hval] at hw
        cases hw
        rw [hother _ hnotin, hlook, if_pos rfl]
      · exact hread x hx w hw

theorem decodeMetrics_fresh {ms : List Metric} (hn : (ms.map Metric.name).Nodup)
    (hv : ∀ m ∈ ms, ∃ v, metricValue m = .ok v) :
    ∃ out, decodeMetrics ms = .ok out ∧ (out.map Prod.fst).Perm (ms.map Metric.name) ∧
      (∀ k, k ∉ ms.map Metric.name → out.lookup k = none) ∧
      ∀ m ∈ ms, ∀ v, metricValue m = .ok v → out.lookup m.name = some v := by
  unfold decodeMetrics
  refine (@foldlM_fresh _ ?_ ms [] (by simpa using hn) hv).imp
    fun out ⟨hfold, hperm, hother, hread⟩ => ⟨hfold, by simpa using hperm, hother, hread⟩
  intro acc m v hval hfresh
  simp [hval, (Metrics.insert_fresh hfresh).1]

theorem convertRequest_eq_ok {c : CorrelationId} {r : CanonicalRequest} {e : Envelope}
    (h : convertRequest ⟨c, r⟩ = .ok e) :
    r.tenantId ≠ "" ∧ r.deviceId ≠ "" ∧ r.appName ≠ "" ∧ c.tenantId = r.tenantId ∧
      c.deviceId = r.deviceId ∧
      e = { channel := some (requestChannel c r), payload := some (requestPayload r) } := by
  unfold convertRequest at h
  dsimp only at h
  split at h
  · cases h
  · rename_i h₁
    split at h
    · cases h
    · rename_i h₂
      split at h
      · cases h
      · rename_i h₃
        split at h
        · cases h
        · cases h
          simp only [Bool.or_eq_true, String.isEmpty_iff, not_or] at h₁
          simp only [String.isEmpty_iff] at h₂
          simp only [Bool.or_eq_true, decide_eq_true_eq, not_or, not_not] at h₃
          exact ⟨h₁.1, h₁.2, h₂, h₃.1, h₃.2, rfl⟩

end Conversion

/-! ### What the agent reports -/

namespace Agent

open Conversion

/-- Device metrics the server can read: each of a kind it reads, each name once. -/
structure Readable (ms : List Metric) : Prop where
  nodup : (ms.map Metric.name).Nodup
  values : ∀ m ∈ ms, ∃ v, metricValue m = .ok v

namespace CommandResult

def failure? : CommandResult → Option String
  | .notFound m | .notAllowed m | .rejected m | .failed m => some m
  | _ => none

def Reportable : CommandResult → Prop
  | .completed _ ms => Readable ms ∧ exceptionMessageMetric ∉ ms.map Metric.name
  | _ => True

theorem reportable_of_nil (b : Bytes) : (CommandResult.completed b []).Reportable :=
  ⟨⟨List.nodup_nil, fun _ hm => by cases hm⟩, by simp⟩

theorem reportable_single (b : Bytes) {m : Metric} (hv : ∃ v, metricValue m = .ok v)
    (hn : m.name ≠ exceptionMessageMetric) : (CommandResult.completed b [m]).Reportable :=
  ⟨⟨by simp, fun x hx => by rw [List.mem_singleton.mp hx]; exact hv⟩,
    by simpa using hn.symm⟩

theorem text_reportable (s : String) : (CommandResult.text s).Reportable :=
  reportable_of_nil _

theorem empty_reportable : CommandResult.empty.Reportable :=
  reportable_of_nil _

end CommandResult

open CommandResult

theorem reportable_ite {c : Prop} [Decidable c] {a b : CommandResult × DeviceState}
    (ha : a.1.Reportable) (hb : b.1.Reportable) : (if c then a else b).1.Reportable := by
  split
  · exact ha
  · exact hb

theorem listing_reportable (m : SortedMap String) : (listing m).Reportable :=
  text_reportable _

theorem item_error_reportable {r : AppRequest} {res : CommandResult} (h : r.item = .error res) :
    res.Reportable := by
  unfold AppRequest.item at h
  split at h
  · split at h
    · cases h
      exact trivial
    · cases h
  · cases h
    exact trivial

theorem bundlesApp_reportable (s : DeviceState) (r : AppRequest) :
    (bundlesApp s r).1.Reportable := by
  unfold bundlesApp
  dsimp only
  -- the body's text is any text: nothing below reads it
  generalize r.bodyText = text
  split
  · exact listing_reportable _
  · split
    · next hres => exact item_error_reportable hres
    · split
      · split
        · exact text_reportable _
        · exact trivial
      · split
        · exact trivial
        · split
          · exact trivial
          · exact trivial
      · split
        · exact empty_reportable
        · exact trivial
      · split
        · exact empty_reportable
        · exact trivial
      · exact trivial

theorem keysApp_reportable (s : DeviceState) (r : AppRequest) : (keysApp s r).1.Reportable := by
  unfold keysApp
  dsimp only
  generalize r.bodyText = text
  split
  · exact text_reportable _
  · split
    · exact reportable_single _ ⟨_, rfl⟩ (show "keys.rotated" ≠ exceptionMessageMetric by decide)
    · exact trivial
  case h_3 hm _ =>
    split
    · next hres => exact item_error_reportable hres
    · rw [hm]
      dsimp only
      split
      · next material _ => exact text_reportable (fingerprint material)
      · exact trivial
  case h_4 hm =>
    split
    · next hres => exact item_error_reportable hres
    · rw [hm]
      dsimp only
      exact reportable_ite trivial empty_reportable
  case h_5 hm =>
    split
    · next hres => exact item_error_reportable hres
    · rw [hm]
      dsimp only
      exact reportable_ite empty_reportable trivial
  case h_6 => exact trivial

theorem asset_ne_exception (name : String) : "asset." ++ name ≠ exceptionMessageMetric := by
  intro h
  have := congrArg (fun t => t.toList.head?) h
  simp [exceptionMessageMetric, String.toList_append] at this

theorem assetsApp_reportable (s : DeviceState) (r : AppRequest) :
    (assetsApp s r).1.Reportable := by
  unfold assetsApp
  dsimp only
  generalize r.bodyText = text
  split
  case h_1 | h_2 =>
    split
    · exact listing_reportable _
    · split
      · next hres => exact item_error_reportable hres
      · split
        · exact trivial
        · exact reportable_single _ ⟨_, rfl⟩ (asset_ne_exception _)
  case h_3 => exact trivial

theorem statusApp_reportable (now : Int) (s : DeviceState) (r : AppRequest) :
    (statusApp now s r).1.Reportable := by
  unfold statusApp
  split
  case h_1 | h_2 =>
    refine ⟨⟨?_, ?_⟩, ?_⟩
    · show ["uptime.ms", "bundles.count", "keys.count", "assets.count", "healthy"].Nodup
      decide
    · intro m hm
      simp only [List.mem_cons, List.not_mem_nil, or_false] at hm
      rcases hm with rfl | rfl | rfl | rfl | rfl <;> exact ⟨_, rfl⟩
    · show exceptionMessageMetric ∉ ["uptime.ms", "bundles.count", "keys.count", "assets.count",
        "healthy"]
      decide
  case h_3 => exact trivial

theorem appOf_reportable {now : Int} {name : String}
    {app : DeviceState → AppRequest → CommandResult × DeviceState} (h : appOf? now name = some app)
    (s : DeviceState) (r : AppRequest) : (app s r).1.Reportable := by
  unfold appOf? at h
  split at h
  · cases h
    exact bundlesApp_reportable s r
  · cases h
    exact keysApp_reportable s r
  · cases h
    exact assetsApp_reportable s r
  · cases h
    exact statusApp_reportable now s r
  · cases h

theorem run_reportable (d : Device) (now : Int) (c : Channel) (p : Option Payload) :
    (d.run now c p).1.Reportable := by
  unfold Device.run
  split
  · exact trivial
  · split
    · exact trivial
    · split
      · exact trivial
      · next app happ => exact appOf_reportable happ _ _

end Agent

/-! ### Reading the reply -/

namespace Conversion

variable {c : CorrelationId} {r : CanonicalRequest}

theorem convertCorrelation_reply (ht : r.tenantId ≠ "") (hd : r.deviceId ≠ "")
    (ha : r.appName ≠ "") (hct : c.tenantId = r.tenantId) (hcd : c.deviceId = r.deviceId)
    (k : Nat) (p : Option Payload) :
    convertCorrelation { channel := some ((requestChannel c r).replyTo k), payload := p } =
      .ok c := by
  simp only [convertCorrelation]
  rw [responseChannel_reply ht hd ha]
  obtain ⟨ct, cd, u⟩ := c
  simp only at hct hcd
  subst hct hcd
  simp only [bind, Except.bind, Channel.replyTo, requestChannel, Uuid.isEmpty_text,
    Uuid.parse_text, Bool.false_eq_true, if_false]
  rfl

/-- A reply on the channel of a request, stamped within the calendar's range and with metrics
that read, reads as a response with the code of its result code, its body and metrics, and the
exception message its metrics hold. -/
theorem convertResponse_reply (ht : r.tenantId ≠ "") (hd : r.deviceId ≠ "")
    (ha : r.appName ≠ "") (k : Nat) {p : Payload} (hstamp : instantInRange p.timestampMs = true)
    {out : Metrics} (hdec : decodeMetrics p.metrics = .ok out) (t : Int) :
    ∃ resp, convertResponse t
        { channel := some ((requestChannel c r).replyTo k), payload := some p } = .ok resp ∧
      resp.code = ResponseCode.ofResultCode k ∧ resp.body = p.body ∧ resp.metrics = out ∧
      resp.exceptionMessage = (out.lookup exceptionMessageMetric).bind MetricValue.asText? := by
  simp only [convertResponse]
  rw [responseChannel_reply ht hd ha]
  simp only [bind, Except.bind, Channel.replyTo, requestChannel, isEmpty_deviceAlias,
    normalize_deviceAlias, Bool.false_eq_true, if_false, hdec]
  by_cases h0 : p.timestampMs = 0
  · simp [h0, pure, Except.pure]
  · simp [h0, hstamp, pure, Except.pure]

end Conversion

namespace Agent

open Conversion

variable {c : CorrelationId} {r : CanonicalRequest}

theorem execute_request (d : Device) (now : Int) (p : Option Payload) :
    (d.execute now { channel := some (requestChannel c r), payload := p }).1 =
      some (replyOf (requestChannel c r) (d.run now (requestChannel c r) p).1 now) := by
  simp [Device.execute, Envelope.messageClass, requestChannel, MessageClass.code,
    MessageClass.ofCode?, Uuid.isEmpty_text]

/-- The server reads a device's reply to a request as the response of the device's result:
its code, its failure message as the exception message, and the body and metrics of a
completed result. -/
theorem convertResponse_replyOf (ht : r.tenantId ≠ "") (hd : r.deviceId ≠ "")
    (ha : r.appName ≠ "") {res : CommandResult} (hres : res.Reportable) {now : Int}
    (hnow : instantInRange now = true) (t : Int) :
    ∃ resp, convertResponse t (replyOf (requestChannel c r) res now) = .ok resp ∧
      resp.code = ResponseCode.ofResultCode res.resultCode ∧
      resp.exceptionMessage = res.failure? ∧
      ∀ body ms, res = .completed body ms →
        resp.body = body ∧ (resp.metrics.map Prod.fst).Perm (ms.map Metric.name) ∧
        ∀ m ∈ ms, ∃ v, metricValue m = .ok v ∧ resp.metrics.lookup m.name = some v := by
  have hfailure : ∀ msg, decodeMetrics [Metric.ofText exceptionMessageMetric msg] =
      .ok [(exceptionMessageMetric, .text msg)] := fun msg => rfl
  cases res with
  | completed body ms =>
    obtain ⟨⟨hn, hv⟩, hexc⟩ := hres
    obtain ⟨out, hdec, hperm, hnone, hread⟩ := decodeMetrics_fresh hn hv
    obtain ⟨resp, hconv, hcode, hbody, hms, hmsg⟩ :=
      convertResponse_reply (c := c) ht hd ha 200 (p := { timestampMs := now, body, metrics := ms })
        hnow hdec t
    refine ⟨resp, hconv, hcode, ?_, fun b ms' he => ?_⟩
    · rw [hmsg, hnone _ hexc]
      rfl
    · cases he
      refine ⟨hbody, hms ▸ hperm, fun m hm => ?_⟩
      obtain ⟨v, hval⟩ := hv m hm
      exact ⟨v, hval, hms ▸ hread m hm v hval⟩
  | created =>
    obtain ⟨resp, hconv, hcode, -, -, hmsg⟩ :=
      convertResponse_reply (c := c) ht hd ha 201 (p := { timestampMs := now }) hnow
        (show decodeMetrics [] = .ok [] from rfl) t
    exact ⟨resp, hconv, hcode, hmsg, fun _ _ he => by cases he⟩
  | notFound msg | notAllowed msg | rejected msg | failed msg =>
    obtain ⟨resp, hconv, hcode, -, -, hmsg⟩ :=
      convertResponse_reply (c := c) ht hd ha _
        (p := { timestampMs := now, metrics := [Metric.ofText exceptionMessageMetric msg] }) hnow
        (hfailure msg) t
    refine ⟨resp, hconv, hcode, ?_, fun _ _ he => by cases he⟩
    rw [hmsg]
    simp [MetricValue.asText?, CommandResult.failure?]

theorem settlement_completed_iff (res : CommandResult) {resp : CanonicalResponse}
    (hcode : resp.code = ResponseCode.ofResultCode res.resultCode) :
    (Command.settlementOf resp).1 = .completed ↔
      (∃ body ms, res = .completed body ms) ∨ res = .created := by
  unfold Command.settlementOf CanonicalResponse.isAccepted
  rw [hcode]
  cases res <;> simp [CommandResult.resultCode, ResponseCode.ofResultCode, ResponseCode.isAccepted]

end Agent

open Agent Conversion in
/-- The server and the device agent agree on every request. Let the server accept a request
`r` for sending under the identifier `c`, as the envelope `e`, and let a device, of any
identifier and in any state, take it at an instant its clock can read. The device answers;
the server, reading the answer at any instant `t`, finds `c` in it and reads it as a response
whose code is the one of the device's result code, whose exception message is there exactly
when the result is a failure and is its message, and which holds the body and every metric of
a completed result. So the server settles the request completed exactly when the device
completed or created something. -/
theorem device_reply_agrees (c : CorrelationId) (r : CanonicalRequest) (e : Envelope)
    (he : convertRequest ⟨c, r⟩ = .ok e) (d : Device) (now : Int)
    (hnow : instantInRange now = true) (t : Int) :
    ∃ ch reply resp, e.channel = some ch ∧ (d.execute now e).1 = some reply ∧
      convertCorrelation reply = .ok c ∧ convertResponse t reply = .ok resp ∧
      resp.code = ResponseCode.ofResultCode (d.run now ch e.payload).1.resultCode ∧
      resp.exceptionMessage = (d.run now ch e.payload).1.failure? ∧
      (∀ body ms, (d.run now ch e.payload).1 = .completed body ms →
        resp.body = body ∧ (resp.metrics.map Prod.fst).Perm (ms.map Metric.name) ∧
        ∀ m ∈ ms, ∃ v, metricValue m = .ok v ∧ resp.metrics.lookup m.name = some v) ∧
      ((Command.settlementOf resp).1 = .completed ↔
        (∃ body ms, (d.run now ch e.payload).1 = .completed body ms) ∨
          (d.run now ch e.payload).1 = .created) := by
  obtain ⟨ht, hd, ha, hct, hcd, rfl⟩ := convertRequest_eq_ok he
  let res := (d.run now (requestChannel c r) (some (requestPayload r))).1
  obtain ⟨resp, hconv, hcode, hmsg, hcompleted⟩ :=
    convertResponse_replyOf (c := c) ht hd ha (run_reportable d now _ _) hnow t
  refine ⟨requestChannel c r, replyOf (requestChannel c r) res now, resp, rfl,
    execute_request d now _, convertCorrelation_reply ht hd ha hct hcd _ _, hconv, hcode, hmsg,
    hcompleted, settlement_completed_iff res hcode⟩

def statusRead : CanonicalRequest :=
  { tenantId := "1", deviceId := "gw-1", appName := "STATUS-V1", method := .read, capturedOn := 0 }

def statusReadId : CorrelationId :=
  ⟨"1", "gw-1", ⟨0, 0⟩⟩

open Agent Conversion in
/-- A device `gw-1` started at instant 0 answers `statusRead` at a later instant, and the
server reads its answer. -/
theorem status_reply_agrees :
    let e : Envelope :=
      { channel := some (requestChannel statusReadId statusRead)
        payload := some (requestPayload statusRead) }
    let d : Device := ⟨"gw-1", DeviceState.seeded 0⟩
    let now : Int := 1700000000000
    convertRequest ⟨statusReadId, statusRead⟩ = .ok e ∧ instantInRange now = true ∧
      ∃ ch reply resp, e.channel = some ch ∧ (d.execute now e).1 = some reply ∧
        convertCorrelation reply = .ok statusReadId ∧ convertResponse now reply = .ok resp ∧
        resp.code = ResponseCode.ofResultCode (d.run now ch e.payload).1.resultCode ∧
        resp.exceptionMessage = (d.run now ch e.payload).1.failure? ∧
        (∀ body ms, (d.run now ch e.payload).1 = .completed body ms →
          resp.body = body ∧ (resp.metrics.map Prod.fst).Perm (ms.map Metric.name) ∧
          ∀ m ∈ ms, ∃ v, metricValue m = .ok v ∧ resp.metrics.lookup m.name = some v) ∧
        ((Command.settlementOf resp).1 = .completed ↔
          (∃ body ms, (d.run now ch e.payload).1 = .completed body ms) ∨
            (d.run now ch e.payload).1 = .created) :=
  have he : convertRequest ⟨statusReadId, statusRead⟩ =
      .ok { channel := some (requestChannel statusReadId statusRead)
            payload := some (requestPayload statusRead) } :=
    convertRequest_ok (by decide) (by decide) (by decide) (by simp [statusRead]) rfl rfl
  have hnow : instantInRange 1700000000000 = true := by decide
  ⟨he, hnow, device_reply_agrees _ _ _ he _ _ hnow _⟩

end DeviceFleet
