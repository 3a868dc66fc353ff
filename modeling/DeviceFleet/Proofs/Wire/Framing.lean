import DeviceFleet.Wire.Frame

/-!
# Frames read back from any cut of the stream

Framed envelopes fed to a reader in chunks cut anywhere, and drained after each chunk, give
back exactly the envelopes, in order, with nothing left buffered (`read_frames_in_any_chunks`).
-/

namespace DeviceFleet.Wire

/-! ### Lengths computed without writing -/

theorem varint_length (n : Nat) : (varint n).length = varintLen n := by
  fun_induction varint n with
  | case1 n h => rw [varintLen, if_pos h]; rfl
  | case2 n h ih => rw [varintLen, if_neg h, List.length_cons, ih]

theorem key_length (f : Nat) (w : WireType) : (key f w).length = varintLen (f * 8 + w.code) :=
  varint_length _

theorem delimited_length (f : Nat) (bs : Bytes) :
    (delimited f bs).length = delimitedLen f bs.length := by
  simp [delimited, delimitedLen, key_length, varint_length, WireType.code, Nat.add_assoc]

theorem bytesField_length (f : Nat) (bs : Bytes) :
    (bytesField f bs).length = bytesFieldLen f bs.length := by
  cases bs with
  | nil => rfl
  | cons b bs => simp [bytesField, bytesFieldLen, delimited_length]

theorem varintField_length (f n : Nat) : (varintField f n).length = varintFieldLen f n := by
  by_cases h : n = 0
  · simp [varintField, varintFieldLen, h]
  · simp [varintField, varintFieldLen, h, key_length, varint_length, WireType.code]

theorem payloadLen_eq (p : Payload) : payloadLen p = (payloadBytes p).length := by
  have hm : ∀ ms : List Metric, ms.foldr (fun m n => delimitedLen 2 (metricBytes m).length + n) 0 =
      (ms.flatMap fun m => delimited 2 (metricBytes m)).length := by
    intro ms
    induction ms with
    | nil => rfl
    | cons m ms ih => rw [List.foldr_cons, List.flatMap_cons, List.length_append, delimited_length, ih]
  unfold payloadLen payloadBytes
  rw [List.length_append, List.length_append, signedField, varintField_length, bytesField_length,
    ← hm]

theorem envelopeLen_eq (e : Envelope) : envelopeLen e = (envelopeBytes e).length := by
  unfold envelopeLen envelopeBytes
  cases e.channel <;> cases e.payload <;> simp [delimited_length, payloadLen_eq]

/-! ### One frame -/

def envelopeFrame (e : Envelope) : Bytes :=
  lengthPrefix (envelopeLen e) ++ envelopeBytes e

def Fits (e : Envelope) : Prop :=
  envelopeLen e ≤ maxFrameSize

theorem encodeFrame_of_fits {e : Envelope} (h : Fits e) : encodeFrame e = .ok (envelopeFrame e) := by
  simp [encodeFrame, envelopeFrame, Nat.not_lt.mpr h]

theorem mapM_encodeFrame {es : List Envelope} (h : ∀ e ∈ es, Fits e) :
    es.mapM encodeFrame = .ok (es.map envelopeFrame) := by
  induction es with
  | nil => rfl
  | cons e es ih =>
    rw [List.mapM_cons, encodeFrame_of_fits (h e (by simp)),
      ih fun x hx => h x (List.mem_cons_of_mem e hx)]
    rfl

theorem envelopeFrame_length (e : Envelope) :
    (envelopeFrame e).length = envelopeLen e + 4 := by
  simp [envelopeFrame, lengthPrefix_length, envelopeLen_eq, Nat.add_comm]

theorem prefixValue_lengthPrefix {n : Nat} (h : n < Nat.pow 2 32) :
    prefixValue (n / Nat.pow 2 24 % 256).toUInt8 (n / Nat.pow 2 16 % 256).toUInt8
      (n / Nat.pow 2 8 % 256).toUInt8 (n % 256).toUInt8 = n := by
  simp only [prefixValue, UInt8.toNat_ofNat', show Nat.pow 2 32 = 4294967296 from rfl,
    show Nat.pow 2 24 = 16777216 from rfl, show Nat.pow 2 16 = 65536 from rfl,
    show Nat.pow 2 8 = 256 from rfl, show (2 : Nat) ^ 8 = 256 from rfl] at h ⊢
  omega

theorem fits_lt {e : Envelope} (h : Fits e) : envelopeLen e < Nat.pow 2 32 :=
  Nat.lt_of_le_of_lt h (by decide)

theorem decodeFrame_frame {e : Envelope} (h : Fits e)
    (hd : decodeEnvelope (envelopeBytes e) = .ok e) (rest : Bytes) :
    decodeFrame (envelopeFrame e ++ rest) = (.ok (some e), rest) := by
  have hlen := envelopeLen_eq e
  have hnot : ¬ envelopeLen e > maxFrameSize := Nat.not_lt.mpr h
  have hshort : ¬ (envelopeBytes e ++ rest).length < envelopeLen e := by
    rw [List.length_append, hlen]
    omega
  simp only [envelopeFrame, lengthPrefix, List.cons_append, List.nil_append, decodeFrame,
    prefixValue_lengthPrefix (fits_lt h), if_neg hnot, if_neg hshort, List.take_left' hlen.symm,
    List.drop_left' hlen.symm, hd]

theorem decodeFrame_partial {e : Envelope} (h : Fits e) {part rest : Bytes}
    (hp : part <+: envelopeFrame e ++ rest) (hl : part.length < (envelopeFrame e).length) :
    decodeFrame part = (.ok none, part) := by
  match part, hp, hl with
  | [], _, _ => rfl
  | [_], _, _ => rfl
  | [_, _], _, _ => rfl
  | [_, _, _], _, _ => rfl
  | a :: b :: c :: d :: body, hp, hl =>
    obtain ⟨tail, ht⟩ := hp
    simp only [envelopeFrame, lengthPrefix, List.cons_append, List.nil_append,
      List.cons.injEq] at ht
    obtain ⟨rfl, rfl, rfl, rfl, -⟩ := ht
    have hshort : body.length < envelopeLen e := by
      rw [envelopeFrame_length] at hl
      simp only [List.length_cons] at hl
      omega
    simp [decodeFrame, prefixValue_lengthPrefix (fits_lt h), Nat.not_lt.mpr h, hshort]

/-! ### Whole frames and the rest of a stream -/

def Pending (buf : Bytes) : List Envelope → Prop
  | [] => buf = []
  | e :: _ => buf.length < (envelopeFrame e).length

/-- Every stretch at the front of a stream of frames is some whole frames followed by bytes
that wait for the next frame. -/
theorem cut_frames (es : List Envelope) {P Q : Bytes}
    (h : P ++ Q = (es.map envelopeFrame).flatten) :
    ∃ m part, P = ((es.take m).map envelopeFrame).flatten ++ part ∧
      part ++ Q = ((es.drop m).map envelopeFrame).flatten ∧ Pending part (es.drop m) := by
  induction es generalizing P with
  | nil =>
    simp only [List.map_nil, List.flatten_nil, List.append_eq_nil_iff] at h
    obtain ⟨rfl, rfl⟩ := h
    exact ⟨0, [], rfl, rfl, rfl⟩
  | cons e es ih =>
    by_cases hl : P.length < (envelopeFrame e).length
    · exact ⟨0, P, by simp, by simpa using h, hl⟩
    · have hsplit : P = envelopeFrame e ++ P.drop (envelopeFrame e).length := by
        have hpre : P.take (envelopeFrame e).length = envelopeFrame e := by
          have := congrArg (List.take (envelopeFrame e).length) h
          simp only [List.map_cons, List.flatten_cons, List.take_left'] at this
          rw [List.take_append_of_le_length (Nat.not_lt.mp hl)] at this
          exact this
        calc P = P.take (envelopeFrame e).length ++ P.drop (envelopeFrame e).length :=
              (List.take_append_drop _ P).symm
          _ = envelopeFrame e ++ P.drop (envelopeFrame e).length := by rw [hpre]
      have hrest : P.drop (envelopeFrame e).length ++ Q = (es.map envelopeFrame).flatten := by
        rw [hsplit] at h
        simpa using h
      obtain ⟨m, part, hP, hQ, hpart⟩ := ih hrest
      refine ⟨m + 1, part, ?_, by simpa using hQ, by simpa using hpart⟩
      rw [hsplit, hP]
      simp

theorem decodeFrame_pending {es : List Envelope} (hfit : ∀ e ∈ es, Fits e) {part Q : Bytes}
    (hq : part ++ Q = (es.map envelopeFrame).flatten) (hp : Pending part es) :
    decodeFrame part = (.ok none, part) := by
  cases es with
  | nil =>
    simp only [Pending] at hp
    subst hp
    rfl
  | cons e es =>
    exact decodeFrame_partial (hfit e (by simp)) ⟨Q, by simpa using hq⟩ hp

theorem next_eq (r : FrameReader) :
    r.next = ((decodeFrame r.buffer).1, ⟨(decodeFrame r.buffer).2⟩) := rfl

theorem drain_of_next_some {r r' : FrameReader} {e : Envelope} (h : r.next = (.ok (some e), r'))
    (fuel : Nat) : r.drain (fuel + 1) = (e :: (r'.drain fuel).1, (r'.drain fuel).2) := by
  rw [FrameReader.drain, h]

theorem drain_of_next_none {r r' : FrameReader} (h : r.next = (.ok none, r')) (fuel : Nat) :
    r.drain (fuel + 1) = ([], none, r') := by
  rw [FrameReader.drain, h]

section Drain

variable {es : List Envelope} (hfit : ∀ e ∈ es, Fits e)
  (hcodec : ∀ e ∈ es, decodeEnvelope (envelopeBytes e) = .ok e)
include hfit hcodec

theorem drain_frames {part : Bytes} (hpart : decodeFrame part = (.ok none, part)) {fuel : Nat}
    (hfuel : es.length < fuel) :
    FrameReader.drain ⟨(es.map envelopeFrame).flatten ++ part⟩ fuel = (es, none, ⟨part⟩) := by
  induction es generalizing fuel with
  | nil =>
    obtain ⟨f, rfl⟩ : ∃ f, fuel = f + 1 := ⟨fuel - 1, by simp at hfuel; omega⟩
    exact drain_of_next_none (by rw [next_eq]; simp only [List.map_nil, List.flatten_nil,
      List.nil_append, hpart]) f
  | cons e es ih =>
    obtain ⟨f, rfl⟩ : ∃ f, fuel = f + 1 := ⟨fuel - 1, by simp at hfuel; omega⟩
    have hrest := ih (fun x hx => hfit x (List.mem_cons_of_mem e hx))
      (fun x hx => hcodec x (List.mem_cons_of_mem e hx)) (show es.length < f by simpa using hfuel)
    have hfirst := decodeFrame_frame (hfit e (by simp)) (hcodec e (by simp))
      ((es.map envelopeFrame).flatten ++ part)
    have hnext : (⟨envelopeFrame e ++ ((es.map envelopeFrame).flatten ++ part)⟩ : FrameReader).next =
        (.ok (some e), ⟨(es.map envelopeFrame).flatten ++ part⟩) := by
      rw [next_eq]
      simp only [hfirst]
    rw [List.map_cons, List.flatten_cons, List.append_assoc, drain_of_next_some hnext, hrest]

end Drain

theorem length_flatten_frames (es : List Envelope) :
    4 * es.length ≤ ((es.map envelopeFrame).flatten).length := by
  induction es with
  | nil => simp
  | cons e es ih =>
    simp only [List.map_cons, List.flatten_cons, List.length_append, envelopeFrame_length,
      List.length_cons]
    omega

/-! ### Feeding a reader chunk by chunk -/

/-- Feed chunks of a stream to a reader, taking every whole envelope after each chunk: the
envelopes taken, in order, the failures met, and the reader after the last chunk. -/
def FrameReader.feed (r : FrameReader) : List Bytes → List Envelope × List FrameError × FrameReader
  | [] => ([], [], r)
  | chunk :: rest =>
    let (es, err, r') := (r.extend chunk).drainAll
    let (es', errs, r'') := r'.feed rest
    (es ++ es', err.toList ++ errs, r'')

/-- A reader whose buffer waits for the frames of `es`, fed the rest of their stream in any
chunks, takes exactly `es` and ends empty. The induction is on the chunks; after each one the
buffer is again some bytes that wait for the next frame (`cut_frames`). -/
theorem feed_frames (chunks : List Bytes) {es : List Envelope} (hfit : ∀ e ∈ es, Fits e)
    (hcodec : ∀ e ∈ es, decodeEnvelope (envelopeBytes e) = .ok e) {r : FrameReader}
    (hr : r.buffer ++ chunks.flatten = (es.map envelopeFrame).flatten)
    (hp : Pending r.buffer es) : r.feed chunks = (es, [], ⟨[]⟩) := by
  induction chunks generalizing r es with
  | nil =>
    cases es with
    | nil =>
      obtain ⟨buf⟩ := r
      simp only [Pending] at hp
      subst hp
      rfl
    | cons e es =>
      simp only [List.flatten_nil, List.append_nil, List.map_cons, List.flatten_cons] at hr
      simp only [Pending, hr, List.length_append] at hp
      omega
  | cons c cs ih =>
    have hbuf : (r.extend c).buffer ++ cs.flatten = (es.map envelopeFrame).flatten := by
      simpa [FrameReader.extend] using hr
    obtain ⟨m, part, hP, hQ, hpart⟩ := cut_frames es hbuf
    have hfit' : ∀ e ∈ es.take m, Fits e := fun e he => hfit e (List.mem_of_mem_take he)
    have hcodec' : ∀ e ∈ es.take m, decodeEnvelope (envelopeBytes e) = .ok e :=
      fun e he => hcodec e (List.mem_of_mem_take he)
    have hwait := decodeFrame_pending (fun e he => hfit e (List.mem_of_mem_drop he)) hQ hpart
    -- every whole frame is at least four bytes, so the fuel covers them
    have hfuel : (es.take m).length < (r.extend c).buffer.length / 4 + 1 := by
      have := length_flatten_frames (es.take m)
      rw [hP, List.length_append]
      omega
    have hdrain : (r.extend c).drainAll = (es.take m, none, ⟨part⟩) := by
      unfold FrameReader.drainAll
      rw [show r.extend c = ⟨(r.extend c).buffer⟩ from rfl, hP]
      rw [hP] at hfuel
      exact drain_frames hfit' hcodec' hwait hfuel
    have hnext := ih (fun e he => hfit e (List.mem_of_mem_drop he))
      (fun e he => hcodec e (List.mem_of_mem_drop he)) (r := ⟨part⟩) hQ hpart
    simp only [FrameReader.feed, hdrain, hnext, Option.toList_none, List.nil_append,
      List.take_append_drop]

/-- Envelopes that fit in a frame are framed without failure, and however the stream of
their frames is cut into chunks, a reader fed the chunks in order and drained after each
gives back exactly those envelopes, in order, with no failure and nothing left buffered. -/
theorem read_frames_in_any_chunks (es : List Envelope) (hfit : ∀ e ∈ es, envelopeLen e ≤ maxFrameSize)
    (hcodec : ∀ e ∈ es, decodeEnvelope (envelopeBytes e) = .ok e) :
    ∃ frames, es.mapM encodeFrame = .ok frames ∧
      ∀ chunks : List Bytes, chunks.flatten = frames.flatten →
        ({} : FrameReader).feed chunks = (es, [], {}) := by
  refine ⟨es.map envelopeFrame, mapM_encodeFrame hfit, fun chunks hc => ?_⟩
  apply feed_frames chunks hfit hcodec (by simpa using hc)
  cases es with
  | nil => rfl
  | cons e es => simp [Pending, envelopeFrame_length]

def replyAndBirth : List Envelope :=
  [{ channel := some { messageClass := 3, tenantId := "1", clientId := "gw-1", resultCode := 200 },
     payload := some { timestampMs := 5 } },
   Envelope.birth "1" "gw-2" 7]

theorem reply_and_birth_read_back :
    (∀ e ∈ replyAndBirth, envelopeLen e ≤ maxFrameSize) ∧
      (∀ e ∈ replyAndBirth, decodeEnvelope (envelopeBytes e) = .ok e) ∧
      ∃ frames, replyAndBirth.mapM encodeFrame = .ok frames ∧
        ∀ chunks : List Bytes, chunks.flatten = frames.flatten →
          ({} : FrameReader).feed chunks = (replyAndBirth, [], {}) := by
  have hfit : ∀ e ∈ replyAndBirth, envelopeLen e ≤ maxFrameSize := by decide +kernel
  have hcodec : ∀ e ∈ replyAndBirth, decodeEnvelope (envelopeBytes e) = .ok e := by
    intro e he
    simp only [replyAndBirth, List.mem_cons, List.not_mem_nil, or_false] at he
    rcases he with rfl | rfl <;> with_unfolding_all rfl
  exact ⟨hfit, hcodec, read_frames_in_any_chunks replyAndBirth hfit hcodec⟩

end DeviceFleet.Wire
