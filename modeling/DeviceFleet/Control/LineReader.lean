import DeviceFleet.Text.Bytes

/-!
# Reading control lines off a stream

A stream is cut into lines at newlines, no more than `maxLineBytes` of a line ever held; the
rest of a line that is too long is skipped up to its newline.
-/

namespace DeviceFleet.Control

def maxLineBytes : Nat := 64 * 1024

def newline : UInt8 := 10

/-- What reading a request line gives. -/
inductive RequestLine where
  /-- A line, its newline kept, read as UTF-8 with ill-formed parts replaced. -/
  | line (text : String)
  /-- A line longer than `maxLineBytes`, skipped to its end. -/
  | tooLong
  /-- The end of the stream. -/
  | closed
  deriving DecidableEq, Repr

/-- One bounded read: the bytes up to and including the first newline, but no more than
`limit` bytes. -/
def boundedRead (limit : Nat) (bs : Bytes) : Bytes :=
  let chunk := bs.take limit
  match chunk.findIdx? (· == newline) with
  | some i => chunk.take (i + 1)
  | none => chunk

theorem boundedRead_length_le (limit : Nat) (bs : Bytes) :
    (boundedRead limit bs).length ≤ bs.length := by
  unfold boundedRead
  dsimp only
  split
  · simp only [List.length_take]
    omega
  · simp only [List.length_take]
    omega

theorem boundedRead_length_le_limit (limit : Nat) (bs : Bytes) :
    (boundedRead limit bs).length ≤ limit := by
  unfold boundedRead
  dsimp only
  split
  · simp only [List.length_take]
    omega
  · simp only [List.length_take]
    omega

def endsLine (chunk : Bytes) : Bool :=
  chunk.getLast? == some newline

/-- Skip the rest of a line that is too long: bounded reads until one ends at a newline or
the stream ends. Answers the stream after the line. -/
def skipLong (bs : Bytes) : Bytes :=
  if _h : (boundedRead maxLineBytes bs).isEmpty || endsLine (boundedRead maxLineBytes bs) then
    bs.drop (boundedRead maxLineBytes bs).length
  else skipLong (bs.drop (boundedRead maxLineBytes bs).length)
termination_by bs.length
decreasing_by
  simp only [Bool.or_eq_true, not_or, Bool.not_eq_true] at _h
  have hne : boundedRead maxLineBytes bs ≠ [] := by simpa using _h.1
  have hpos : 0 < (boundedRead maxLineBytes bs).length := List.length_pos_iff.mpr hne
  have hle := boundedRead_length_le maxLineBytes bs
  simp only [List.length_drop]
  omega

theorem skipLong_length_le (bs : Bytes) : (skipLong bs).length ≤ bs.length := by
  induction bs using skipLong.induct with
  | case1 bs h =>
    rw [skipLong, dif_pos h, List.length_drop]
    omega
  | case2 bs h ih =>
    rw [skipLong, dif_neg h]
    have := List.length_drop (l := bs) (i := (boundedRead maxLineBytes bs).length)
    omega

/-- Read one request line off the front of a stream: what was read and the stream after. -/
def readRequestLine (bs : Bytes) : RequestLine × Bytes :=
  let first := boundedRead maxLineBytes bs
  if first.isEmpty then (.closed, bs)
  else if endsLine first || first.length < maxLineBytes then
    (.line (Text.lossyText first), bs.drop first.length)
  else (.tooLong, skipLong (bs.drop first.length))

theorem readRequestLine_shorter (bs : Bytes) (h : (readRequestLine bs).1 ≠ .closed) :
    (readRequestLine bs).2.length < bs.length := by
  unfold readRequestLine at h ⊢
  have hle := boundedRead_length_le maxLineBytes bs
  by_cases he : (boundedRead maxLineBytes bs).isEmpty
  · simp [he] at h
  · have hpos : 0 < (boundedRead maxLineBytes bs).length := by
      cases hb : boundedRead maxLineBytes bs with
      | nil => simp [hb] at he
      | cons _ _ => simp
    simp only [he, if_false, Bool.false_eq_true]
    split
    · simp only [List.length_drop]
      omega
    · have := skipLong_length_le (bs.drop (boundedRead maxLineBytes bs).length)
      simp only [List.length_drop] at this ⊢
      omega

theorem readRequestLine_nil : readRequestLine [] = (.closed, []) := by
  decide

end DeviceFleet.Control
