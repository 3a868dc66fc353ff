import DeviceFleet.Proofs.Wire.Framing

/-!
# How much of a buffer reading a frame takes

Reading takes one whole frame off the front of a buffer, or nothing
(`decodeFrame_takes_frame_or_nothing`); a refused length prefix stays at the front.
-/

namespace DeviceFleet.Wire

def announcedLen (buf : Bytes) : Nat :=
  prefixValue (buf.getD 0 0) (buf.getD 1 0) (buf.getD 2 0) (buf.getD 3 0)

def frameBody (buf : Bytes) : Bytes :=
  (buf.drop 4).take (announcedLen buf)

def bodyResult (body : Bytes) : Except FrameError (Option Envelope) :=
  ((decodeEnvelope body).mapError .decode).map some

theorem bodyResult_ne_invalidLength (body : Bytes) (n : Nat) :
    bodyResult body ≠ .error (.invalidLength n) := by
  unfold bodyResult
  intro h
  cases hd : decodeEnvelope body <;> rw [hd] at h <;> cases h

@[simp] theorem announcedLen_cons (a b c d : UInt8) (rest : Bytes) :
    announcedLen (a :: b :: c :: d :: rest) = prefixValue a b c d := rfl

theorem decodeFrame_of_length_lt {buf : Bytes} (h : buf.length < 4) :
    decodeFrame buf = (.ok none, buf) := by
  match buf, h with
  | [], _ | [_], _ | [_, _], _ | [_, _, _], _ => rfl

theorem exists_cons_of_le_length {buf : Bytes} (h : 4 ≤ buf.length) :
    ∃ a b c d rest, buf = a :: b :: c :: d :: rest := by
  match buf, h with
  | a :: b :: c :: d :: rest, _ => exact ⟨a, b, c, d, rest, rfl⟩

/-- The three ways a buffer is read: it waits for more bytes, its length prefix is refused,
or a whole frame is taken. -/
theorem decodeFrame_cases (buf : Bytes) :
    ((buf.length < 4 ∨ announcedLen buf ≤ maxFrameSize ∧ buf.length < 4 + announcedLen buf) ∧
        decodeFrame buf = (.ok none, buf)) ∨
      ((4 ≤ buf.length ∧ maxFrameSize < announcedLen buf) ∧
        decodeFrame buf = (.error (.invalidLength (announcedLen buf)), buf)) ∨
      ((4 ≤ buf.length ∧ announcedLen buf ≤ maxFrameSize ∧ 4 + announcedLen buf ≤ buf.length) ∧
        decodeFrame buf = (bodyResult (frameBody buf), buf.drop (4 + announcedLen buf))) := by
  by_cases h4 : buf.length < 4
  · exact .inl ⟨.inl h4, decodeFrame_of_length_lt h4⟩
  obtain ⟨a, b, c, d, rest, rfl⟩ := exists_cons_of_le_length (Nat.le_of_not_lt h4)
  have hlen : (a :: b :: c :: d :: rest).length = rest.length + 4 := rfl
  simp only [announcedLen_cons, hlen]
  by_cases hmax : maxFrameSize < prefixValue a b c d
  · exact .inr (.inl ⟨⟨by omega, hmax⟩, by simp [decodeFrame, hmax]⟩)
  by_cases hshort : rest.length < prefixValue a b c d
  · exact .inl ⟨.inr ⟨Nat.le_of_not_lt hmax, by omega⟩, by simp [decodeFrame, hmax, hshort]⟩
  refine .inr (.inr ⟨⟨by omega, Nat.le_of_not_lt hmax, by omega⟩, ?_⟩)
  have hdrop : (a :: b :: c :: d :: rest).drop (4 + prefixValue a b c d) =
      rest.drop (prefixValue a b c d) := by
    rw [← List.drop_drop]
    rfl
  have hbody : frameBody (a :: b :: c :: d :: rest) = rest.take (prefixValue a b c d) := rfl
  rw [hdrop, hbody]
  simp only [decodeFrame, hmax, hshort, if_false, bodyResult]
  cases decodeEnvelope (rest.take (prefixValue a b c d)) <;> rfl

theorem decodeFrame_lengthPrefix {body : Bytes} (h : body.length ≤ maxFrameSize) (rest : Bytes) :
    decodeFrame (lengthPrefix body.length ++ body ++ rest) = (bodyResult body, rest) := by
  have hpre := prefixValue_lengthPrefix (Nat.lt_of_le_of_lt h (by decide))
  have hlen : (lengthPrefix body.length ++ body ++ rest).length = 4 + body.length + rest.length := by
    simp only [List.length_append, lengthPrefix_length]
  have hann : announcedLen (lengthPrefix body.length ++ body ++ rest) = body.length := by
    simpa [lengthPrefix] using hpre
  rcases decodeFrame_cases (lengthPrefix body.length ++ body ++ rest) with
    ⟨hw, -⟩ | ⟨⟨-, hmax⟩, -⟩ | ⟨-, he⟩
  · rw [hann, hlen] at hw
    omega
  · rw [hann] at hmax
    omega
  · have hrest : (lengthPrefix body.length ++ body ++ rest).drop 4 = body ++ rest := by
      simp [lengthPrefix]
    have hdrop : (lengthPrefix body.length ++ body ++ rest).drop (4 + body.length) = rest :=
      List.drop_left' (by rw [List.length_append, lengthPrefix_length])
    rw [he, frameBody, hann, hrest, List.take_left, hdrop]

theorem decodeFrame_ne_of_taken {buf : Bytes} (h4 : 4 ≤ buf.length)
    (he : decodeFrame buf = (bodyResult (frameBody buf), buf.drop (4 + announcedLen buf)))
    (x : Except FrameError (Option Envelope)) : decodeFrame buf ≠ (x, buf) := by
  intro h
  have hl := congrArg (fun p => p.2.length) (he.symm.trans h)
  simp only [List.length_drop] at hl
  omega

theorem decodeFrame_eq_waiting_iff (buf : Bytes) :
    decodeFrame buf = (.ok none, buf) ↔
      buf.length < 4 ∨ announcedLen buf ≤ maxFrameSize ∧ buf.length < 4 + announcedLen buf := by
  rcases decodeFrame_cases buf with ⟨hw, he⟩ | ⟨hr, he⟩ | ⟨ht, he⟩
  · exact iff_of_true he hw
  · exact iff_of_false (by rw [he]; simp) (by omega)
  · exact iff_of_false (decodeFrame_ne_of_taken ht.1 he _) (by omega)

theorem decodeFrame_eq_invalidLength_iff (buf : Bytes) :
    decodeFrame buf = (.error (.invalidLength (announcedLen buf)), buf) ↔
      4 ≤ buf.length ∧ maxFrameSize < announcedLen buf := by
  rcases decodeFrame_cases buf with ⟨hw, he⟩ | ⟨hr, he⟩ | ⟨ht, he⟩
  · exact iff_of_false (by rw [he]; simp) (by omega)
  · exact iff_of_true he hr
  · exact iff_of_false (decodeFrame_ne_of_taken ht.1 he _) (by omega)

theorem decodeFrame_of_whole {buf : Bytes} (h4 : 4 ≤ buf.length)
    (hmax : announcedLen buf ≤ maxFrameSize) (hle : 4 + announcedLen buf ≤ buf.length) :
    decodeFrame buf = (bodyResult (frameBody buf), buf.drop (4 + announcedLen buf)) := by
  rcases decodeFrame_cases buf with ⟨hw, -⟩ | ⟨hr, -⟩ | ⟨-, he⟩
  · omega
  · omega
  · exact he

/-! ### Readers -/

theorem drain_of_next_error {r r' : FrameReader} {err : FrameError}
    (h : r.next = (.error err, r')) (fuel : Nat) : r.drain (fuel + 1) = ([], some err, r') := by
  rw [FrameReader.drain, h]

theorem announcedLen_append {buf : Bytes} (h4 : 4 ≤ buf.length) (data : Bytes) :
    announcedLen (buf ++ data) = announcedLen buf := by
  obtain ⟨a, b, c, d, rest, rfl⟩ := exists_cons_of_le_length h4
  simp only [List.cons_append, announcedLen_cons]

theorem next_invalidLength_again {r r' : FrameReader} {n : Nat}
    (h : r.next = (.error (.invalidLength n), r')) :
    r' = r ∧ ∀ data, (r.extend data).next = (.error (.invalidLength n), r.extend data) := by
  obtain ⟨buf⟩ := r
  rw [next_eq] at h
  rcases decodeFrame_cases buf with ⟨-, he⟩ | ⟨hr, he⟩ | ⟨-, he⟩
  · rw [he] at h
    cases h
  · rw [he] at h
    simp only [Prod.mk.injEq, Except.error.injEq, FrameError.invalidLength.injEq] at h
    obtain ⟨rfl, rfl⟩ := h
    refine ⟨rfl, fun data => ?_⟩
    -- the prefix is still the first four bytes, and the buffer only longer
    have hr' : 4 ≤ (buf ++ data).length ∧ maxFrameSize < announcedLen (buf ++ data) := by
      rw [announcedLen_append hr.1, List.length_append]
      exact ⟨by omega, hr.2⟩
    have he' := (decodeFrame_eq_invalidLength_iff (buf ++ data)).mpr hr'
    rw [announcedLen_append hr.1] at he'
    rw [next_eq]
    simp only [FrameReader.extend, he']
  · rw [he] at h
    simp only [Prod.mk.injEq] at h
    exact absurd h.1 (bodyResult_ne_invalidLength _ _)

theorem feed_after_invalidLength {r r' : FrameReader} {n : Nat}
    (h : r.next = (.error (.invalidLength n), r')) (chunks : List Bytes) :
    r.feed chunks = ([], chunks.map fun _ => .invalidLength n, r.extend chunks.flatten) := by
  induction chunks generalizing r r' with
  | nil => simp [FrameReader.feed, FrameReader.extend]
  | cons c cs ih =>
    have hnext := (next_invalidLength_again h).2 c
    have hdrain : (r.extend c).drainAll = ([], some (.invalidLength n), r.extend c) :=
      drain_of_next_error hnext _
    have hrest := ih hnext
    simp only [FrameReader.feed, hdrain, hrest]
    simp [FrameReader.extend]

theorem drainAll_after_undecodable {body : Bytes} {err : DecodeError}
    (hlen : body.length ≤ maxFrameSize) (hbad : decodeEnvelope body = .error err)
    {es : List Envelope} (hes : ∀ e ∈ es, Fits e ∧ decodeEnvelope (envelopeBytes e) = .ok e)
    {part : Bytes} (hpart : decodeFrame part = (.ok none, part)) :
    FrameReader.drainAll ⟨lengthPrefix body.length ++ body ++ (es.map envelopeFrame).flatten ++ part⟩ =
        ([], some (.decode err), ⟨(es.map envelopeFrame).flatten ++ part⟩) ∧
      FrameReader.drainAll ⟨(es.map envelopeFrame).flatten ++ part⟩ = (es, none, ⟨part⟩) := by
  constructor
  · have hnext : FrameReader.next ⟨lengthPrefix body.length ++ body ++
        ((es.map envelopeFrame).flatten ++ part)⟩ =
        (.error (.decode err), ⟨(es.map envelopeFrame).flatten ++ part⟩) := by
      rw [next_eq, decodeFrame_lengthPrefix hlen, bodyResult, hbad]
      rfl
    rw [List.append_assoc (lengthPrefix body.length ++ body)]
    exact drain_of_next_error hnext _
  · -- every frame is at least four bytes, so the fuel covers them
    have hfuel : es.length < ((es.map envelopeFrame).flatten ++ part).length / 4 + 1 := by
      have := length_flatten_frames es
      rw [List.length_append]
      omega
    exact drain_frames (fun e he => (hes e he).1) (fun e he => (hes e he).2) hpart hfuel

/-- Reading a frame takes exactly one frame off the front of the buffer, or nothing:

* nothing, awaiting more bytes, exactly when fewer than four bytes or fewer than the announced
  frame are there;
* nothing, refusing the prefix, exactly when four bytes announce more than the largest frame;
* otherwise the prefix and the announced body, answering the body's envelope or its fault.

So a reader that meets a frame whose body is no envelope fails on it alone and then reads every
well-formed frame behind it, while a reader whose prefix was refused refuses it again on every
later call, whatever bytes come in. -/
theorem decodeFrame_takes_frame_or_nothing (buf : Bytes) :
    (decodeFrame buf = (.ok none, buf) ↔
        buf.length < 4 ∨ announcedLen buf ≤ maxFrameSize ∧ buf.length < 4 + announcedLen buf) ∧
    (decodeFrame buf = (.error (.invalidLength (announcedLen buf)), buf) ↔
        4 ≤ buf.length ∧ maxFrameSize < announcedLen buf) ∧
    (4 ≤ buf.length → announcedLen buf ≤ maxFrameSize → 4 + announcedLen buf ≤ buf.length →
        decodeFrame buf = (bodyResult (frameBody buf), buf.drop (4 + announcedLen buf))) ∧
    (∀ (body : Bytes) (err : DecodeError) (es : List Envelope) (part : Bytes),
      body.length ≤ maxFrameSize → decodeEnvelope body = .error err →
      (∀ e ∈ es, Fits e ∧ decodeEnvelope (envelopeBytes e) = .ok e) →
      decodeFrame part = (.ok none, part) →
      FrameReader.drainAll ⟨lengthPrefix body.length ++ body ++ (es.map envelopeFrame).flatten ++ part⟩ =
          ([], some (.decode err), ⟨(es.map envelopeFrame).flatten ++ part⟩) ∧
        FrameReader.drainAll ⟨(es.map envelopeFrame).flatten ++ part⟩ = (es, none, ⟨part⟩)) ∧
    (∀ (r r' : FrameReader) (n : Nat), r.next = (.error (.invalidLength n), r') →
      r' = r ∧ (∀ data, (r.extend data).next = (.error (.invalidLength n), r.extend data)) ∧
        ∀ chunks : List Bytes,
          r.feed chunks = ([], chunks.map fun _ => .invalidLength n, r.extend chunks.flatten)) := by
  refine ⟨decodeFrame_eq_waiting_iff buf, decodeFrame_eq_invalidLength_iff buf,
    fun h4 hmax hle => decodeFrame_of_whole h4 hmax hle,
    fun body err es part hlen hbad hes hpart => drainAll_after_undecodable hlen hbad hes hpart,
    fun r r' n h => ⟨(next_invalidLength_again h).1, (next_invalidLength_again h).2,
      feed_after_invalidLength h⟩⟩

/-- A one-byte frame that is no envelope, then the frame of the empty envelope: the reader fails
on the first alone and then reads the second. A prefix announcing 2³² - 1 bytes is refused, and
refused again after each of two more chunks. -/
theorem unreadable_frame_then_empty_envelope :
    (∃ err, decodeEnvelope [7] = .error err ∧
      FrameReader.drainAll ⟨[0, 0, 0, 1, 7, 0, 0, 0, 0]⟩ = ([], some (.decode err), ⟨[0, 0, 0, 0]⟩)) ∧
    FrameReader.drainAll ⟨[0, 0, 0, 0]⟩ = ([{}], none, ⟨[]⟩) ∧
    FrameReader.feed ⟨[255, 255, 255, 255]⟩ [[1, 2], [3]] =
      ([], [.invalidLength 4294967295, .invalidLength 4294967295], ⟨[255, 255, 255, 255, 1, 2, 3]⟩) := by
  obtain ⟨err, hbad⟩ : ∃ err, decodeEnvelope [7] = .error err := ⟨_, rfl⟩
  have hempty : ∀ e ∈ [({} : Envelope)], Fits e ∧ decodeEnvelope (envelopeBytes e) = .ok e := by
    simp only [List.mem_singleton, forall_eq]
    exact ⟨show envelopeLen {} ≤ maxFrameSize by decide, rfl⟩
  have hread := (decodeFrame_takes_frame_or_nothing []).2.2.2.1 [7] err [{}] [] (by decide) hbad
    hempty rfl
  have hann : announcedLen [255, 255, 255, 255] = 4294967295 := by decide
  have hrefused : FrameReader.next ⟨[255, 255, 255, 255]⟩ =
      (.error (.invalidLength 4294967295), ⟨[255, 255, 255, 255]⟩) := by
    rw [next_eq, ← hann, (decodeFrame_eq_invalidLength_iff _).mpr ⟨by decide, by rw [hann]; decide⟩]
  have hstuck := (decodeFrame_takes_frame_or_nothing []).2.2.2.2 _ _ _ hrefused
  exact ⟨⟨err, hbad, hread.1⟩, hread.2, hstuck.2.2 [[1, 2], [3]]⟩

end DeviceFleet.Wire
