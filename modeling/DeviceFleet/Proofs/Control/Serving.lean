import DeviceFleet.Engine.LineServer

/-!
# Serving a control client, line by line

The server answers a stream's lines in order, at most once each (`serveStream_eq`), holding no
more than `maxLineBytes` bytes of a line (`readRequestLine_line_held`); a last line of exactly
`maxLineBytes` bytes with no newline is answered as too long.
-/

namespace DeviceFleet

namespace Control

variable {bs : Bytes} {k : Nat}

def firstLine : Bytes → Bytes
  | [] => []
  | b :: bs => if b = newline then [b] else b :: firstLine bs

def lineBody (bs : Bytes) : Bytes :=
  bs.takeWhile (· != newline)

def lines : Bytes → List Bytes
  | [] => []
  | b :: bs =>
    if b = newline then [b] :: lines bs
    else
      match lines bs with
      | [] => [[b]]
      | l :: ls => (b :: l) :: ls

@[simp] theorem firstLine_nil : firstLine [] = [] := rfl

theorem firstLine_cons (b : UInt8) (bs : Bytes) :
    firstLine (b :: bs) = if b = newline then [b] else b :: firstLine bs := rfl

theorem lineBody_cons (b : UInt8) (bs : Bytes) :
    lineBody (b :: bs) = if b = newline then [] else b :: lineBody bs := by
  by_cases hb : b = newline <;> simp [lineBody, hb]

theorem firstLine_ne_nil (h : bs ≠ []) : firstLine bs ≠ [] := by
  cases bs with
  | nil => exact absurd rfl h
  | cons b bs => rw [firstLine_cons]; split <;> simp

theorem firstLine_of_not_mem (h : newline ∉ bs) : firstLine bs = bs := by
  induction bs with
  | nil => rfl
  | cons b bs ih =>
    have hb : b ≠ newline := fun e => h (by simp [e])
    rw [firstLine_cons, if_neg hb, ih (fun hm => h (List.mem_cons_of_mem b hm))]

theorem length_firstLine (bs : Bytes) :
    (firstLine bs).length = (lineBody bs).length + if newline ∈ bs then 1 else 0 := by
  induction bs with
  | nil => rfl
  | cons b bs ih =>
    rw [firstLine_cons, lineBody_cons]
    by_cases hb : b = newline
    · simp [hb]
    · simp only [hb, if_false, List.length_cons, ih, List.mem_cons]
      by_cases hm : newline ∈ bs
      · simp [hm]
      · simp [hm, Ne.symm hb]

theorem lineBody_firstLine (bs : Bytes) : lineBody (firstLine bs) = lineBody bs := by
  induction bs with
  | nil => rfl
  | cons b bs ih =>
    rw [firstLine_cons]
    by_cases hb : b = newline
    · simp [hb, lineBody_cons]
    · simp only [if_neg hb, lineBody_cons, ih]

theorem firstLine_eq_take_append (h : k ≤ (lineBody bs).length) :
    firstLine bs = bs.take k ++ firstLine (bs.drop k) := by
  induction bs generalizing k with
  | nil => simp
  | cons b bs ih =>
    cases k with
    | zero => rfl
    | succ k =>
      have hb : b ≠ newline := by
        intro e
        simp [lineBody_cons, e] at h
      rw [lineBody_cons, if_neg hb, List.length_cons] at h
      rw [firstLine_cons, if_neg hb, List.take_succ_cons, List.drop_succ_cons,
        ih (k := k) (by omega), List.cons_append]

theorem firstLine_take (k : Nat) (bs : Bytes) : firstLine (bs.take k) = (firstLine bs).take k := by
  induction bs generalizing k with
  | nil => simp
  | cons b bs ih =>
    cases k with
    | zero => simp
    | succ k =>
      rw [List.take_succ_cons, firstLine_cons, firstLine_cons]
      by_cases hb : b = newline
      · simp [hb]
      · rw [if_neg hb, if_neg hb, ih, List.take_succ_cons]

theorem boundedRead_eq (limit : Nat) (bs : Bytes) :
    boundedRead limit bs = (firstLine bs).take limit := by
  rw [← firstLine_take]
  unfold boundedRead
  generalize bs.take limit = cs
  induction cs with
  | nil => rfl
  | cons b cs ih =>
    rw [firstLine_cons, ← ih]
    by_cases hb : b = newline
    · simp [List.findIdx?_cons, hb, newline]
    · simp only [List.findIdx?_cons, hb, if_false, beq_iff_eq]
      cases cs.findIdx? (· == newline) <;> simp

theorem lineBody_length_le (bs : Bytes) : (lineBody bs).length ≤ bs.length :=
  (List.takeWhile_prefix _).length_le

theorem lineBody_of_not_mem (h : newline ∉ bs) : lineBody bs = bs := by
  induction bs with
  | nil => rfl
  | cons b bs ih =>
    have hb : b ≠ newline := fun e => h (by simp [e])
    rw [lineBody_cons, if_neg hb, ih (fun hm => h (List.mem_cons_of_mem b hm))]

theorem firstLine_of_mem (h : newline ∈ bs) : firstLine bs = lineBody bs ++ [newline] := by
  induction bs with
  | nil => simp at h
  | cons b bs ih =>
    rw [firstLine_cons, lineBody_cons]
    by_cases hb : b = newline
    · simp [hb]
    · have hm : newline ∈ bs := by
        rcases List.mem_cons.mp h with e | hm
        · exact absurd e.symm hb
        · exact hm
      rw [if_neg hb, if_neg hb, ih hm, List.cons_append]

theorem not_mem_take (h : k ≤ (lineBody bs).length) : newline ∉ bs.take k := by
  induction bs generalizing k with
  | nil => simp
  | cons b bs ih =>
    cases k with
    | zero => simp
    | succ k =>
      have hb : b ≠ newline := by
        intro e
        simp [lineBody_cons, e] at h
      rw [lineBody_cons, if_neg hb, List.length_cons] at h
      rw [List.take_succ_cons, List.mem_cons, not_or]
      exact ⟨Ne.symm hb, ih (by omega)⟩

theorem endsLine_of_not_mem {l : Bytes} (h : newline ∉ l) : endsLine l = false := by
  cases hl : l.getLast? with
  | none => simp [endsLine, hl]
  | some x =>
    have hx : x ≠ newline := fun e => h (e ▸ List.mem_of_getLast? hl)
    simp [endsLine, hl, hx]

theorem take_firstLine_of_lt (hb : (lineBody bs).length < k) : (firstLine bs).take k = firstLine bs := by
  have hlen := length_firstLine bs
  exact List.take_of_length_le (by split at hlen <;> omega)

theorem take_firstLine_of_le (hk : k ≤ (lineBody bs).length) :
    (firstLine bs).take k = bs.take k ∧ (bs.take k).length = k := by
  have hl : (bs.take k).length = k := by
    have := lineBody_length_le bs
    simp only [List.length_take]
    omega
  refine ⟨?_, hl⟩
  rw [firstLine_eq_take_append hk, List.take_append_of_le_length (by omega),
    List.take_of_length_le (by omega)]

/-- A read of at most `maxLineBytes` bytes takes a line whole exactly when fewer than
`maxLineBytes` bytes come before its newline: it then ends at the newline, or at the end of the
stream short of the bound. -/
theorem read_takes_line (bs : Bytes) :
    (endsLine ((firstLine bs).take maxLineBytes) ||
        decide (((firstLine bs).take maxLineBytes).length < maxLineBytes)) =
      decide ((lineBody bs).length < maxLineBytes) := by
  by_cases hb : (lineBody bs).length < maxLineBytes
  · rw [take_firstLine_of_lt hb, decide_eq_true hb]
    by_cases hm : newline ∈ bs
    · rw [firstLine_of_mem hm]
      simp [endsLine]
    · rw [firstLine_of_not_mem hm, ← lineBody_of_not_mem hm]
      simp [hb]
  · have hk : maxLineBytes ≤ (lineBody bs).length := by omega
    obtain ⟨hread, hl⟩ := take_firstLine_of_le hk
    rw [hread, endsLine_of_not_mem (not_mem_take hk), hl, decide_eq_false hb]
    simp

theorem skipLong_eq (bs : Bytes) : skipLong bs = bs.drop (firstLine bs).length := by
  induction bs using skipLong.induct with
  | case1 bs h =>
    rw [skipLong, dif_pos h, boundedRead_eq]
    rw [boundedRead_eq] at h
    rcases Bool.or_eq_true_iff.mp h with he | he
    · rw [List.isEmpty_iff] at he
      rw [he, List.take_eq_nil_iff.mp he |>.resolve_left (by decide)]
    · have hb : (lineBody bs).length < maxLineBytes := by
        simpa [he] using (read_takes_line bs).symm
      rw [take_firstLine_of_lt hb]
  | case2 bs h ih =>
    rw [skipLong, dif_neg h, ih]
    rw [boundedRead_eq] at h ⊢
    simp only [Bool.or_eq_true, not_or, Bool.not_eq_true, List.isEmpty_eq_false_iff] at h
    by_cases hb : (lineBody bs).length < maxLineBytes
    · have hm : newline ∉ bs := by
        intro hm
        have := h.2
        rw [take_firstLine_of_lt hb, firstLine_of_mem hm] at this
        simp [endsLine] at this
      rw [take_firstLine_of_lt hb, firstLine_of_not_mem hm, List.drop_length]
      rfl
    · have hk : maxLineBytes ≤ (lineBody bs).length := by omega
      obtain ⟨hread, hl⟩ := take_firstLine_of_le hk
      rw [hread, hl, List.drop_drop, firstLine_eq_take_append hk, List.length_append, hl]

theorem readRequestLine_eq (h : bs ≠ []) :
    readRequestLine bs =
      (if maxLineBytes ≤ (lineBody bs).length then .tooLong
        else .line (Text.lossyText (firstLine bs)), bs.drop (firstLine bs).length) := by
  have hne : (boundedRead maxLineBytes bs).isEmpty = false := by
    rw [boundedRead_eq, List.isEmpty_eq_false_iff, Ne, List.take_eq_nil_iff, not_or]
    exact ⟨by decide, firstLine_ne_nil h⟩
  have hd := read_takes_line bs
  rw [← boundedRead_eq] at hd
  unfold readRequestLine
  simp only [hne, Bool.false_eq_true, if_false]
  by_cases hb : (lineBody bs).length < maxLineBytes
  · rw [if_pos (by rw [hd]; exact decide_eq_true hb), if_neg (by omega), boundedRead_eq,
      take_firstLine_of_lt hb]
  · have hk : maxLineBytes ≤ (lineBody bs).length := by omega
    obtain ⟨hread, hl⟩ := take_firstLine_of_le hk
    rw [if_neg (by rw [hd]; simpa using hk), if_pos hk, boundedRead_eq, hread, hl, skipLong_eq,
      List.drop_drop, firstLine_eq_take_append hk, List.length_append, hl]

theorem lines_eq (h : bs ≠ []) : lines bs = firstLine bs :: lines (bs.drop (firstLine bs).length) := by
  induction bs with
  | nil => exact absurd rfl h
  | cons b bs ih =>
    rw [lines, firstLine_cons]
    by_cases hb : b = newline
    · simp [hb]
    · rw [if_neg hb, if_neg hb, List.length_cons, List.drop_succ_cons]
      cases bs with
      | nil => rfl
      | cons c cs => rw [ih (List.cons_ne_nil c cs)]

theorem flatten_lines (bs : Bytes) : (lines bs).flatten = bs := by
  induction bs with
  | nil => rfl
  | cons b bs ih =>
    rw [lines]
    by_cases hb : b = newline
    · simp [hb, ih]
    · rw [if_neg hb]
      revert ih
      cases lines bs with
      | nil => intro ih; simp [← ih]
      | cons l ls => intro ih; simp [← ih]

theorem readRequestLine_cases {res : RequestLine} {rest : Bytes}
    (h : readRequestLine bs = (res, rest)) :
    bs = [] ∧ res = .closed ∨
      bs ≠ [] ∧ rest = bs.drop (firstLine bs).length ∧
        (maxLineBytes ≤ (lineBody bs).length ∧ res = .tooLong ∨
          (lineBody bs).length < maxLineBytes ∧ res = .line (Text.lossyText (firstLine bs))) := by
  by_cases hne : bs = []
  · subst hne
    rw [readRequestLine_nil] at h
    exact .inl ⟨rfl, (Prod.mk.inj h).1.symm⟩
  · rw [readRequestLine_eq hne] at h
    obtain ⟨hres, hrest⟩ := Prod.mk.inj h
    refine .inr ⟨hne, hrest.symm, ?_⟩
    split at hres
    · exact .inl ⟨‹_›, hres.symm⟩
    · exact .inr ⟨by omega, hres.symm⟩

theorem take_length_firstLine (bs : Bytes) : bs.take (firstLine bs).length = firstLine bs := by
  induction bs with
  | nil => rfl
  | cons b bs ih =>
    rw [firstLine_cons]
    split <;> simp [ih]

theorem readRequestLine_line_held {text : String} {rest : Bytes}
    (h : readRequestLine bs = (.line text, rest)) :
    ∃ chunk, chunk.length ≤ maxLineBytes ∧ bs = chunk ++ rest ∧ text = Text.lossyText chunk := by
  rcases readRequestLine_cases h with ⟨-, h'⟩ | ⟨-, hrest, ⟨-, h'⟩ | ⟨hb, h'⟩⟩
  · cases h'
  · cases h'
  · cases h'
    have hread : boundedRead maxLineBytes bs = firstLine bs := by
      rw [boundedRead_eq, take_firstLine_of_lt hb]
    refine ⟨firstLine bs, hread ▸ boundedRead_length_le_limit maxLineBytes bs, ?_, rfl⟩
    have hsplit := List.take_append_drop (firstLine bs).length bs
    rw [take_length_firstLine] at hsplit
    rw [hrest, hsplit]

theorem lines_of_not_mem (h : newline ∉ bs) (hne : bs ≠ []) : lines bs = [bs] := by
  rw [lines_eq hne, firstLine_of_not_mem h, List.drop_length]
  rfl

theorem lossyChars_of_ascii (fuel : Nat) (bs : Bytes) (ha : ∀ b ∈ bs, b < 0x80)
    (hf : bs.length < fuel) : Text.lossyChars fuel bs = bs.map fun b => Char.ofNat b.toNat := by
  induction bs generalizing fuel with
  | nil => cases fuel <;> rfl
  | cons b bs ih =>
    cases fuel with
    | zero => simp at hf
    | succ fuel =>
      have hw : Text.utf8Width b = 1 := by simp [Text.utf8Width, ha b (by simp)]
      rw [Text.lossyChars, if_pos hw, List.map_cons,
        ih fuel (fun x hx => ha x (List.mem_cons_of_mem b hx)) (by simpa using hf)]

end Control

namespace Engine

open Control

namespace Cluster

/-- The answer a line of a client's stream is owed, if any, and the server after it: a line with
at least `maxLineBytes` bytes before its newline is too long; any other line that is blank gets
no answer; a line that is not a command is a bad request; and every other line is routed. -/
def answerLine (w : Cluster) (l : Bytes) : Option ControlResponse × Cluster :=
  if maxLineBytes ≤ (lineBody l).length then (some tooLongLine, w)
  else if isBlankLine (Text.lossyText l) then (none, w)
  else
    match parseLine (Text.lossyText l) with
    | some (m, p, b) =>
      let (r, w) := w.route m p b
      (some r, w)
    | none => (some (badLine "Expected: METHOD path [body]"), w)

def answerLines (w : Cluster) : List Bytes → List ControlResponse × Cluster
  | [] => ([], w)
  | l :: ls =>
    let (r, w) := w.answerLine l
    let (rs, w) := w.answerLines ls
    (r.toList ++ rs, w)

variable {w : Cluster} {l bs rest : Bytes} {text : String}

theorem answerLines_cons (w : Cluster) (l : Bytes) (ls : List Bytes) :
    w.answerLines (l :: ls) =
      ((w.answerLine l).1.toList ++ ((w.answerLine l).2.answerLines ls).1,
        ((w.answerLine l).2.answerLines ls).2) := rfl

theorem answerLine_of_tooLong (hk : maxLineBytes ≤ (lineBody l).length) :
    w.answerLine l = (some tooLongLine, w) := by
  simp [answerLine, hk]

theorem answerLine_of_blank (hk : (lineBody l).length < maxLineBytes)
    (hb : isBlankLine (Text.lossyText l) = true) : w.answerLine l = (none, w) := by
  simp [answerLine, Nat.not_le.mpr hk, hb]

theorem answerLine_of_command (hk : (lineBody l).length < maxLineBytes)
    (hb : isBlankLine (Text.lossyText l) = false) :
    w.answerLine l = (some (w.serveLine (Text.lossyText l)).1, (w.serveLine (Text.lossyText l)).2) := by
  simp only [answerLine, Nat.not_le.mpr hk, hb, if_false, Bool.false_eq_true, serveLine]
  cases parseLine (Text.lossyText l) with
  | none => rfl
  | some c =>
    obtain ⟨m, p, b⟩ := c
    rfl

theorem serveStream_of_tooLong (h : readRequestLine bs = (.tooLong, rest)) :
    w.serveStream bs = (tooLongLine :: (w.serveStream rest).1, (w.serveStream rest).2) := by
  rw [serveStream]
  split <;> simp_all

theorem serveStream_of_blank (h : readRequestLine bs = (.line text, rest))
    (hb : isBlankLine text = true) : w.serveStream bs = w.serveStream rest := by
  rw [serveStream]
  split <;> simp_all

theorem serveStream_of_command (h : readRequestLine bs = (.line text, rest))
    (hb : isBlankLine text = false) :
    w.serveStream bs = ((w.serveLine text).1 :: ((w.serveLine text).2.serveStream rest).1,
      ((w.serveLine text).2.serveStream rest).2) := by
  rw [serveStream]
  split <;> simp_all

end Cluster

/-- The server answers the lines of a stream in order, each by its own rule; the loop ends with
the stream. -/
theorem serveStream_eq (w : Cluster) (bs : Bytes) : w.serveStream bs = w.answerLines (lines bs) := by
  induction w, bs using Cluster.serveStream.induct with
  | case1 w bs rest h =>
    rcases readRequestLine_cases h with ⟨rfl, -⟩ | ⟨-, -, ⟨-, h'⟩ | ⟨-, h'⟩⟩
    · rw [serveStream_nil]
      rfl
    all_goals cases h'
  | case2 w bs rest h rs w' hs ih =>
    rcases readRequestLine_cases h with ⟨-, h'⟩ | ⟨hne, hrest, ⟨hk, -⟩ | ⟨-, h'⟩⟩
    · cases h'
    · rw [Cluster.serveStream_of_tooLong h, ih, lines_eq hne, ← hrest, Cluster.answerLines_cons,
        Cluster.answerLine_of_tooLong (by rwa [lineBody_firstLine])]
      rfl
    · cases h'
  | case3 w bs text rest h hb ih =>
    rcases readRequestLine_cases h with ⟨-, h'⟩ | ⟨hne, hrest, ⟨-, h'⟩ | ⟨hk, h'⟩⟩
    · cases h'
    · cases h'
    · cases h'
      rw [Cluster.serveStream_of_blank h hb, ih, lines_eq hne, ← hrest, Cluster.answerLines_cons,
        Cluster.answerLine_of_blank (by rwa [lineBody_firstLine]) hb]
      rfl
  | case4 w bs text rest h hb r w₁ hr rs w₂ hs ih =>
    rcases readRequestLine_cases h with ⟨-, h'⟩ | ⟨hne, hrest, ⟨-, h'⟩ | ⟨hk, h'⟩⟩
    · cases h'
    · cases h'
    · cases h'
      have hb' : isBlankLine (Text.lossyText (firstLine bs)) = false := by simpa using hb
      rw [Cluster.serveStream_of_command h hb', hr, ih, lines_eq hne, ← hrest,
        Cluster.answerLines_cons, Cluster.answerLine_of_command (by rwa [lineBody_firstLine]) hb', hr]
      rfl

/-- A client's stream is cut into lines, and the server answers them in order, each by its own
rule, until the stream ends. -/
theorem control_lines_answered (w : Cluster) (bs : Bytes) :
    (lines bs).flatten = bs ∧ w.serveStream bs = w.answerLines (lines bs) :=
  ⟨flatten_lines bs, serveStream_eq w bs⟩

/-- A last line of `maxLineBytes` spaces and no newline is answered as too long, though it holds
no more bytes than the limit and is blank. -/
theorem limit_blank_line_refused :
    lines (List.replicate maxLineBytes 32) = [List.replicate maxLineBytes 32] ∧
      (List.replicate maxLineBytes (32 : UInt8)).length = maxLineBytes ∧
      isBlankLine (Text.lossyText (List.replicate maxLineBytes 32)) = true ∧
      (Cluster.initial 0 0 default).serveStream (List.replicate maxLineBytes 32) =
        ([tooLongLine], Cluster.initial 0 0 default) := by
  have hn : newline ∉ List.replicate maxLineBytes (32 : UInt8) := by
    simp [List.mem_replicate, newline]
  have hne : List.replicate maxLineBytes (32 : UInt8) ≠ [] := by
    rw [Ne, List.replicate_eq_nil_iff]
    decide
  have hl := lines_of_not_mem hn hne
  refine ⟨hl, List.length_replicate, ?_, ?_⟩
  · rw [isBlankLine, Text.lossyText, String.toList_ofList,
      lossyChars_of_ascii _ _ (fun b hb => by rw [(List.mem_replicate.mp hb).2]; decide)
        (Nat.lt_add_one _),
      List.map_replicate, List.all_replicate, if_neg (by decide)]
    decide
  · rw [serveStream_eq, hl, Cluster.answerLines_cons,
      Cluster.answerLine_of_tooLong
        (Nat.le_of_eq (by rw [lineBody_of_not_mem hn, List.length_replicate]))]
    rfl

end Engine

end DeviceFleet
