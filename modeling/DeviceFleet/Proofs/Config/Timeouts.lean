import DeviceFleet.Config.Server
import Mathlib.Data.String.Basic
import Mathlib.Data.List.Find
import Mathlib.Data.List.TakeWhile

/-!
# Per-application timeouts

Reading `app_timeouts_ms` succeeds exactly when every piece that is not blank is `APP=MS`;
an application's timeout is then that of the last piece naming it, names compared ignoring
ASCII case, or the default (`timeoutFor_last_piece`).
-/

namespace DeviceFleet.Text

/-! ## Splitting at a character -/

theorem singleton_get_zero (c : Char) : (0 : String.Pos.Raw).get (String.singleton c) = c := by
  simpa using String.get_of_valid [] [c]

theorem singleton_next_zero (c : Char) :
    (0 : String.Pos.Raw).next (String.singleton c) = ⟨c.utf8Size⟩ := by
  simpa using String.next_of_valid [] c []

theorem singleton_rawEndPos (c : Char) : (String.singleton c).rawEndPos = ⟨c.utf8Size⟩ := by
  simpa using String.rawEndPos_ofList [c]

/-- The scan behind `String.splitOn` with a one-character separator, started after the
characters `l` with the piece `m` begun, splits the rest `r` at that character. -/
theorem splitOnAux_singleton (c : Char) (l m r : List Char) (acc : List String) :
    String.splitOnAux (String.ofList (l ++ m ++ r)) (String.singleton c)
        ⟨String.utf8Len l⟩ ⟨String.utf8Len l + String.utf8Len m⟩ 0 acc =
      acc.reverse ++ (List.splitOnPPrepend (· == c) r m.reverse).map String.ofList := by
  unfold String.splitOnAux
  simp only [List.append_assoc, String.atEnd_iff, String.rawEndPos_ofList, String.utf8Len_append,
    String.Pos.Raw.mk_le_mk, Nat.add_le_add_iff_left,
    (by omega : String.utf8Len m + String.utf8Len r ≤ String.utf8Len m ↔ String.utf8Len r = 0),
    String.utf8Len_eq_zero]
  split
  · subst r
    simpa using String.extract_of_valid l m []
  · obtain ⟨d, r, rfl⟩ := r.exists_cons_of_ne_nil ‹_›
    rw [show String.ofList (l ++ (m ++ d :: r)) = String.ofList ((l ++ m) ++ d :: r) by simp,
      show (⟨String.utf8Len l + String.utf8Len m⟩ : String.Pos.Raw) = ⟨String.utf8Len (l ++ m)⟩
        by simp]
    rw [String.get_of_valid, singleton_get_zero, singleton_next_zero, singleton_rawEndPos,
      String.Pos.Raw.unoffsetBy_zero, String.next_of_valid]
    simp only [List.headD_cons, String.Pos.Raw.mk_le_mk, Nat.le_refl, if_true]
    by_cases hd : d = c
    · subst hd
      have hm : (⟨String.utf8Len (l ++ m) + d.utf8Size⟩ : String.Pos.Raw).unoffsetBy
          ⟨d.utf8Size⟩ = ⟨String.utf8Len l + String.utf8Len m⟩ := by
        simp [String.Pos.Raw.unoffsetBy]
      rw [if_pos (by simp), hm, String.extract_of_valid l m (d :: r)]
      simpa [Nat.add_assoc, List.splitOnPPrepend_cons_eq_if] using
        splitOnAux_singleton d (l ++ m ++ [d]) [] r (String.ofList m :: acc)
    · rw [if_neg (by simpa using hd)]
      simpa [List.splitOnPPrepend_cons_eq_if, hd, Nat.add_assoc] using
        splitOnAux_singleton c l (m ++ [d]) r acc

theorem splitOn_singleton (s : String) (c : Char) :
    s.splitOn (String.singleton c) = (s.toList.splitOn c).map String.ofList := by
  simpa [String.splitOn, List.splitOn_eq_splitOnP] using
    splitOnAux_singleton c [] [] s.toList []

/-! ## ASCII lowercase -/

theorem toNat_toLower (c : Char) :
    c.toLower.toNat = if 65 ≤ c.toNat ∧ c.toNat ≤ 90 then c.toNat + 32 else c.toNat := by
  have hA : 'A'.val = 65 := by decide
  have hZ : 'Z'.val = 90 := by decide
  have ha : 'a'.val = 97 := by decide
  have hc := c.val.toNat_lt
  unfold Char.toLower
  simp only [hA, hZ, ha, ge_iff_le, UInt32.le_iff_toNat_le, Char.toNat]
  split
  · rename_i h
    rw [if_pos (by simpa using h)]
    simp [UInt32.toNat_add] at h ⊢
    omega
  · rename_i h
    rw [if_neg (by simpa using h)]

theorem toLower_toLower (c : Char) : c.toLower.toLower = c.toLower := by
  apply Char.toNat_inj.mp
  rw [toNat_toLower, toNat_toLower]
  by_cases h : 65 ≤ c.toNat ∧ c.toNat ≤ 90
  · rw [if_pos h, if_neg (by omega)]
  · rw [if_neg h, if_neg h]

end DeviceFleet.Text

namespace DeviceFleet.Config

open Text

@[simp] theorem asciiLower_asciiLower (s : String) : asciiLower (asciiLower s) = asciiLower s := by
  simp only [asciiLower, String.map_map]
  congr 1
  funext c
  exact toLower_toLower c

/-! ## Pieces -/

def timeoutPieces (s : String) : List String :=
  ((s.toList.splitOn ',').map String.ofList |>.map trimBlank).filter (· ≠ "")

def pieceApp (p : String) : String :=
  String.ofList (p.toList.takeWhile (· ≠ '='))

def pieceMs (p : String) : String :=
  String.ofList (p.toList.dropWhile (· ≠ '=')).tail

def PieceReads (p : String) : Prop :=
  '=' ∈ p.toList ∧ ∃ ms, parseU64 (trimBlank (pieceMs p)) = .ok ms

def pieceKey (p : String) : String :=
  asciiLower (trimBlank (pieceApp p))

def lastTimeoutFor (pieces : List String) (app : String) : Option Nat :=
  (pieces.reverse.find? fun p => pieceKey p = asciiLower app).bind
    fun p => (parseU64 (trimBlank (pieceMs p))).toOption

theorem timeoutPieces_eq (s : String) :
    ((s.splitOn ",").map trimBlank).filter (!·.isEmpty) = timeoutPieces s := by
  rw [show "," = String.singleton ',' by rfl, splitOn_singleton, timeoutPieces]
  congr 1
  funext p
  rw [Bool.eq_iff_iff]
  simp

theorem toList_of_mem {p : String} (h : '=' ∈ p.toList) :
    p.toList = (pieceApp p).toList ++ '=' :: (pieceMs p).toList := by
  simp only [pieceApp, pieceMs, String.toList_ofList]
  have hd : p.toList.dropWhile (· ≠ '=') ≠ [] := by
    intro he
    simpa using List.dropWhile_eq_nil_iff.mp he '=' h
  obtain ⟨d, ds, hds⟩ := List.exists_cons_of_ne_nil hd
  have hhead : d = '=' := by
    have h1 := List.head?_dropWhile_not (fun c => decide (c ≠ '=')) p.toList
    rw [hds] at h1
    simpa using h1
  have hsplit := List.takeWhile_append_dropWhile (p := fun c => decide (c ≠ '=')) (l := p.toList)
  rw [hds] at hsplit ⊢
  subst hhead
  exact hsplit.symm

/-- How one piece reads: without an `=` it is not `APP=MS`; with one, the number after it
decides. -/
theorem readTimeoutPair_eq (p : String) :
    readTimeoutPair p =
      if '=' ∈ p.toList then
        match parseU64 (trimBlank (pieceMs p)) with
        | .ok ms => .ok (pieceKey p, ms)
        | .error e => .error ("app timeout '" ++ p ++ "': " ++ e.message)
      else .error ("app timeout '" ++ p ++ "' is not APP=MS") := by
  rw [readTimeoutPair, show "=" = String.singleton '=' by rfl, splitOn_singleton]
  by_cases h : '=' ∈ p.toList
  · rw [if_pos h, toList_of_mem h,
      List.splitOn_append_cons_self_of_not_mem fun hm => by
        simp only [pieceApp, String.toList_ofList] at hm
        simpa using List.mem_takeWhile_imp hm]
    obtain ⟨q, qs, hq⟩ := List.exists_cons_of_ne_nil (List.splitOn_ne_nil '=' (pieceMs p).toList)
    have hms : String.intercalate (String.singleton '=') (String.ofList q :: qs.map String.ofList) =
        pieceMs p := by
      apply String.toList_inj.mp
      rw [← List.map_cons, ← hq]
      simp
    rw [hq, List.map_cons, List.map_cons, String.ofList_toList]
    dsimp only
    rw [hms]
    cases parseU64 (trimBlank (pieceMs p)) <;> rfl
  · rw [if_neg h, List.splitOn_eq_singleton h]
    rfl

theorem readTimeoutPair_ok_iff (p k : String) (ms : Nat) :
    readTimeoutPair p = .ok (k, ms) ↔
      '=' ∈ p.toList ∧ parseU64 (trimBlank (pieceMs p)) = .ok ms ∧ k = pieceKey p := by
  rw [readTimeoutPair_eq]
  by_cases h : '=' ∈ p.toList
  · rw [if_pos h]
    cases parseU64 (trimBlank (pieceMs p)) with
    | ok n =>
      simp only [Except.ok.injEq, Prod.mk.injEq, h, true_and]
      constructor
      · rintro ⟨rfl, rfl⟩
        exact ⟨rfl, rfl⟩
      · rintro ⟨rfl, rfl⟩
        exact ⟨rfl, rfl⟩
    | error e => simp
  · simp [h]

theorem readTimeoutPair_isOk (p : String) :
    (∃ r, readTimeoutPair p = .ok r) ↔ PieceReads p := by
  constructor
  · rintro ⟨⟨k, ms⟩, h⟩
    obtain ⟨hmem, hms, -⟩ := (readTimeoutPair_ok_iff p k ms).mp h
    exact ⟨hmem, ms, hms⟩
  · rintro ⟨hmem, ms, hms⟩
    exact ⟨(pieceKey p, ms), (readTimeoutPair_ok_iff p _ ms).mpr ⟨hmem, hms, rfl⟩⟩

/-! ## The table of timeouts -/

def KeysSorted (ts : List (String × Nat)) : Prop :=
  ts.Pairwise fun a b => a.1 < b.1

/-- A table of timeouts as reading builds it: its keys are in lowercase and increase. -/
structure TimeoutTable (ts : List (String × Nat)) : Prop where
  sorted : KeysSorted ts
  lower : ∀ kv ∈ ts, asciiLower kv.1 = kv.1

theorem lookup_cons_ite (k x : String) (v : Nat) (ts : List (String × Nat)) :
    ((k, v) :: ts).lookup x = if x = k then some v else ts.lookup x := by
  by_cases hx : x = k
  · subst hx
    simp
  · rw [List.lookup_cons, beq_eq_false_iff_ne.mpr hx, if_neg hx]

theorem lookup_insertTimeout (app x : String) (ms : Nat) (ts : List (String × Nat)) :
    (insertTimeout app ms ts).lookup x = if x = app then some ms else ts.lookup x := by
  induction ts with
  | nil => simp [insertTimeout, lookup_cons_ite]
  | cons kv rest ih =>
    obtain ⟨k, v⟩ := kv
    simp only [insertTimeout]
    split
    · subst app
      by_cases hx : x = k <;> simp [lookup_cons_ite, hx]
    · split
      · simp only [lookup_cons_ite]
      · rename_i hk _
        by_cases hx : x = k
        · subst hx
          simp [Ne.symm hk]
        · simp [lookup_cons_ite, hx, ih]

theorem mem_insertTimeout {app : String} {ms : Nat} {ts : List (String × Nat)}
    {kv : String × Nat} (h : kv ∈ insertTimeout app ms ts) : kv.1 = app ∨ kv ∈ ts := by
  induction ts with
  | nil => simp_all [insertTimeout]
  | cons kv' rest ih =>
    simp only [insertTimeout] at h
    split at h
    · rcases List.mem_cons.mp h with rfl | h
      · exact .inl rfl
      · exact .inr (List.mem_cons_of_mem _ h)
    · split at h
      · rcases List.mem_cons.mp h with rfl | h
        · exact .inl rfl
        · exact .inr h
      · rcases List.mem_cons.mp h with rfl | h
        · exact .inr List.mem_cons_self
        · exact (ih h).imp_right (List.mem_cons_of_mem _)

theorem KeysSorted.insertTimeout {ts : List (String × Nat)} (hs : KeysSorted ts)
    (app : String) (ms : Nat) : KeysSorted (insertTimeout app ms ts) := by
  induction ts with
  | nil => simp [Config.insertTimeout, KeysSorted]
  | cons kv rest ih =>
    obtain ⟨k, v⟩ := kv
    obtain ⟨hk, hrest⟩ := List.pairwise_cons.mp hs
    simp only [Config.insertTimeout]
    split
    · subst app
      exact List.pairwise_cons.mpr ⟨hk, hrest⟩
    · split
      · rename_i hlt
        refine List.pairwise_cons.mpr ⟨fun b hb => ?_, hs⟩
        rcases List.mem_cons.mp hb with rfl | hb
        · exact hlt
        · exact lt_trans hlt (hk b hb)
      · rename_i hne hnlt
        have hgt : k < app := lt_of_le_of_ne (not_lt.mp hnlt) (Ne.symm hne)
        refine List.pairwise_cons.mpr ⟨fun b hb => ?_, ih hrest⟩
        rcases mem_insertTimeout hb with hb | hb
        · exact hb ▸ hgt
        · exact hk b hb

theorem TimeoutTable.insertTimeout {ts : List (String × Nat)} (ht : TimeoutTable ts)
    {app : String} (happ : asciiLower app = app) (ms : Nat) :
    TimeoutTable (insertTimeout app ms ts) where
  sorted := ht.sorted.insertTimeout app ms
  lower kv hkv := by
    rcases mem_insertTimeout hkv with h | h
    · rw [h, happ]
    · exact ht.lower kv h

theorem KeysSorted.lookup_eq {ts : List (String × Nat)} (hs : KeysSorted ts) (x : String) :
    (ts.reverse.find? fun kv => kv.1 = x).map (·.2) = ts.lookup x := by
  induction ts with
  | nil => rfl
  | cons kv rest ih =>
    obtain ⟨k, v⟩ := kv
    obtain ⟨hk, hrest⟩ := List.pairwise_cons.mp hs
    rw [List.reverse_cons, List.find?_append, Option.map_or, ih hrest]
    by_cases hx : x = k
    · subst hx
      have hnone : rest.lookup x = none := by
        rw [List.lookup_eq_none_iff]
        intro b hb
        simpa using ne_of_lt (hk b hb)
      simp [hnone]
    · simp [lookup_cons_ite, hx, Ne.symm hx]

theorem lookup_foldl_insertTimeout (f : String → String) (ts acc : List (String × Nat))
    (x : String) :
    (ts.foldl (fun acc kv => insertTimeout (f kv.1) kv.2 acc) acc).lookup x =
      ((ts.reverse.find? fun kv => f kv.1 = x).map (·.2)).or (acc.lookup x) := by
  induction ts generalizing acc with
  | nil => simp
  | cons kv rest ih =>
    rw [List.foldl_cons, ih, lookup_insertTimeout, List.reverse_cons, List.find?_append]
    cases rest.reverse.find? (fun kv => f kv.1 = x) with
    | some kv' => simp
    | none => by_cases hx : x = f kv.1 <;> simp [hx, eq_comm]

/-! ## Reading the setting -/

def readPieces (l : List String) (acc : List (String × Nat)) :
    Except String (List (String × Nat)) :=
  l.foldlM (fun acc p => (readTimeoutPair p).map fun kv => insertTimeout kv.1 kv.2 acc) acc

theorem readPieces_cons (p : String) (l : List String) (acc : List (String × Nat)) :
    readPieces (p :: l) acc =
      match readTimeoutPair p with
      | .ok kv => readPieces l (insertTimeout kv.1 kv.2 acc)
      | .error e => .error e := by
  simp only [readPieces, List.foldlM_cons]
  cases readTimeoutPair p <;> rfl

theorem appTimeouts_eq (c : ServerConfig) :
    c.appTimeouts = readPieces (timeoutPieces c.appTimeoutsMs) [] := by
  rw [ServerConfig.appTimeouts, timeoutPieces_eq, readPieces]
  congr 1

theorem readPieces_ok_iff (l : List String) (acc : List (String × Nat)) :
    (∃ r, readPieces l acc = .ok r) ↔ ∀ p ∈ l, PieceReads p := by
  induction l generalizing acc with
  | nil => exact ⟨fun _ p hp => absurd hp List.not_mem_nil, fun _ => ⟨acc, rfl⟩⟩
  | cons p l ih =>
    rw [readPieces_cons, List.forall_mem_cons, ← readTimeoutPair_isOk]
    cases readTimeoutPair p with
    | error e => simp
    | ok kv => simp [ih]

theorem readPieces_table {l : List String} {acc r : List (String × Nat)}
    (h : readPieces l acc = .ok r) (ht : TimeoutTable acc) : TimeoutTable r := by
  induction l generalizing acc with
  | nil => cases h; exact ht
  | cons p l ih =>
    rw [readPieces_cons] at h
    cases hp : readTimeoutPair p with
    | error e => rw [hp] at h; cases h
    | ok kv =>
      rw [hp] at h
      obtain ⟨k, ms⟩ := kv
      obtain ⟨-, -, rfl⟩ := (readTimeoutPair_ok_iff p k ms).mp hp
      exact ih h (ht.insertTimeout (asciiLower_asciiLower _) ms)

/-- After reading, a key has the milliseconds of the last piece naming it, else what the
table had before. -/
theorem readPieces_lookup {l : List String} {acc r : List (String × Nat)}
    (h : readPieces l acc = .ok r) (app : String) :
    r.lookup (asciiLower app) = (lastTimeoutFor l app).or (acc.lookup (asciiLower app)) := by
  induction l generalizing acc with
  | nil => cases h; simp [lastTimeoutFor]
  | cons p l ih =>
    rw [readPieces_cons] at h
    cases hp : readTimeoutPair p with
    | error e => rw [hp] at h; cases h
    | ok kv =>
      rw [hp] at h
      obtain ⟨k, ms⟩ := kv
      obtain ⟨-, hms, rfl⟩ := (readTimeoutPair_ok_iff p k ms).mp hp
      have hl := (readPieces_ok_iff l _).mp ⟨r, h⟩
      rw [ih h, lookup_insertTimeout]
      simp only [lastTimeoutFor, List.reverse_cons, List.find?_append]
      cases hf : l.reverse.find? (fun q => pieceKey q = asciiLower app) with
      | some q =>
        obtain ⟨-, ms', hms'⟩ := hl q (List.mem_reverse.mp (List.mem_of_find?_eq_some hf))
        simp [hms', Except.toOption]
      | none =>
        by_cases hx : asciiLower app = pieceKey p
        · simp [hx, hms, Except.toOption]
        · simp [hx, Ne.symm hx]

/-! ## Timeouts of applications -/

/-- The timeouts a dispatcher finds: reading the setting succeeds exactly when every piece
that is not blank has an `=` followed by a number; then an application's timeout is that of
the last piece naming it, ignoring ASCII case, or the default when none does, both in the
dispatcher's settings and in the lowercased ones a dispatcher keeps. -/
theorem timeoutFor_last_piece (c : ServerConfig) :
    ((∃ ts, c.appTimeouts = .ok ts) ↔ ∀ p ∈ timeoutPieces c.appTimeoutsMs, PieceReads p) ∧
    ∀ ts, c.appTimeouts = .ok ts → ∃ d, c.dispatcherConfig = .ok d ∧ ∀ app : String,
      d.timeoutFor app =
        (lastTimeoutFor (timeoutPieces c.appTimeoutsMs) app).getD c.defaultRequestTimeoutMs ∧
      d.lowercased.timeoutFor app =
        (lastTimeoutFor (timeoutPieces c.appTimeoutsMs) app).getD c.defaultRequestTimeoutMs := by
  rw [appTimeouts_eq]
  refine ⟨readPieces_ok_iff _ [], fun ts hts => ⟨⟨c.defaultRequestTimeoutMs, ts⟩, ?_, ?_⟩⟩
  · simp [ServerConfig.dispatcherConfig, appTimeouts_eq, hts]
  · intro app
    have hlook := readPieces_lookup hts app
    have ht := readPieces_table hts ⟨List.Pairwise.nil, by simp⟩
    simp only [List.lookup_nil, Option.or_none] at hlook
    refine ⟨by simp [DispatcherConfig.timeoutFor, hlook], ?_⟩
    have hkeys : (ts.reverse.find? fun kv => asciiLower kv.1 = asciiLower app) =
        ts.reverse.find? fun kv => kv.1 = asciiLower app := by
      apply List.find?_congr
      intro kv hkv
      rw [ht.lower kv (List.mem_reverse.mp hkv)]
    simp only [DispatcherConfig.timeoutFor, DispatcherConfig.lowercased,
      lookup_foldl_insertTimeout, hkeys, ht.sorted.lookup_eq, hlook, List.lookup_nil, Option.or_none]

end DeviceFleet.Config
