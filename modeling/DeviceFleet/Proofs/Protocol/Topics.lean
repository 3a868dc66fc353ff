import DeviceFleet.Proofs.Config.Timeouts
import DeviceFleet.Protocol.Message

/-!
# Topics read back as written

A text reads as a topic exactly when it is the writing of that topic and the topic is well
formed (`parse?_eq_some_iff`), so well-formed topics read back as themselves.
-/

namespace DeviceFleet

namespace Text

theorem not_mem_of_mem_splitOn {x : Char} {xs l : List Char} (h : l ∈ xs.splitOn x) :
    x ∉ l := by
  induction xs generalizing l with
  | nil =>
    rw [List.splitOn_nil, List.mem_singleton] at h
    subst h
    exact List.not_mem_nil
  | cons y ys ih =>
    rw [List.splitOn_cons_eq_if_modifyHead] at h
    obtain ⟨p, ps, hp⟩ := List.exists_cons_of_ne_nil (List.splitOn_ne_nil x ys)
    split at h
    · rcases List.mem_cons.mp h with rfl | h
      · exact List.not_mem_nil
      · exact ih h
    · next hy =>
      rw [hp, List.modifyHead_cons] at h
      rcases List.mem_cons.mp h with rfl | h
      · intro hm
        rcases List.mem_cons.mp hm with rfl | hm
        · exact hy (by simp)
        · exact ih (hp ▸ List.mem_cons_self ..) hm
      · exact ih (hp ▸ List.mem_cons_of_mem _ h)

end Text

namespace Topic

def Segment (s : String) : Prop :=
  s ≠ "" ∧ '/' ∉ s.toList

instance : DecidablePred Segment :=
  fun s => inferInstanceAs (Decidable (s ≠ "" ∧ '/' ∉ s.toList))

def WellFormed (t : Topic) : Prop :=
  Segment t.tenantId ∧ Segment t.clientId ∧ Segment t.appName

instance : DecidablePred WellFormed :=
  fun t => inferInstanceAs (Decidable (Segment t.tenantId ∧ Segment t.clientId ∧ _))

theorem word_segment (d : Direction) : Segment d.word := by
  cases d <;> decide

theorem word_of_ofWord {w : String} {d : Direction} (h : Direction.ofWord? w = some d) :
    d.word = w := by
  unfold Direction.ofWord? at h
  split at h <;> cases h <;> rfl

theorem text_toList (t : Topic) :
    t.text.toList = ['/'].intercalate
      [t.tenantId.toList, t.clientId.toList, t.appName.toList, t.direction.word.toList] := by
  simp [text, List.intercalate, String.toList_append]

theorem splitOn_text {t : Topic} (h : t.WellFormed) :
    t.text.splitOn "/" = [t.tenantId, t.clientId, t.appName, t.direction.word] := by
  obtain ⟨⟨-, ht⟩, ⟨-, hc⟩, ⟨-, ha⟩⟩ := h
  have hw := (word_segment t.direction).2
  rw [show "/" = String.singleton '/' from rfl, Text.splitOn_singleton, text_toList,
    List.splitOn_intercalate '/' (by simp [ht, hc, ha, hw]) (by simp)]
  simp

theorem parse_text {t : Topic} (h : t.WellFormed) : parse? t.text = some t := by
  have hne : (t.tenantId.isEmpty || t.clientId.isEmpty || t.appName.isEmpty) = false := by
    simp [h.1.1, h.2.1.1, h.2.2.1]
  simp [parse?, splitOn_text h, hne]

theorem text_of_parse {s : String} {t : Topic} (h : parse? s = some t) :
    t.WellFormed ∧ t.text = s := by
  unfold parse? at h
  split at h
  next ten cli app w hs =>
    split at h
    · cases h
    next hne =>
      obtain ⟨d, hd, rfl⟩ := Option.map_eq_some_iff.mp h
      simp only [Bool.or_eq_true, String.isEmpty_iff, not_or] at hne
      rw [show "/" = String.singleton '/' from rfl, Text.splitOn_singleton] at hs
      have hpiece : ∀ p ∈ [ten, cli, app, w], '/' ∉ p.toList := by
        intro p hp hm
        rw [← hs] at hp
        obtain ⟨l, hl, rfl⟩ := List.mem_map.mp hp
        exact Text.not_mem_of_mem_splitOn hl (by simpa using hm)
      refine ⟨⟨⟨hne.1.1, hpiece ten (by simp)⟩, ⟨hne.1.2, hpiece cli (by simp)⟩,
        ⟨hne.2, hpiece app (by simp)⟩⟩, ?_⟩
      apply String.toList_inj.mp
      have hjoin : ['/'].intercalate (s.toList.splitOn '/') = s.toList :=
        List.intercalate_splitOn '/'
      rw [text_toList, ← hjoin]
      dsimp only
      have hl := congrArg (List.map String.toList) hs
      simp only [List.map_map, List.map_cons, List.map_nil] at hl
      simp only [Function.comp_def, String.toList_ofList, List.map_id'] at hl
      rw [hl, word_of_ofWord hd]
  · cases h

theorem parse?_eq_some_iff {s : String} {t : Topic} :
    parse? s = some t ↔ t.WellFormed ∧ t.text = s :=
  ⟨text_of_parse, fun ⟨hw, hs⟩ => hs ▸ parse_text hw⟩

/-- Reading and writing topics are inverse: a text reads as a topic exactly when it is the
writing of that topic with its tenant, client and application not empty and free of `/`; and
the request and reply topics of a channel read back as themselves exactly when the channel's
tenant, client and application are such texts. -/
theorem topic_text_inverse (s : String) (t : Topic) (c : Channel) :
    (parse? s = some t ↔ t.WellFormed ∧ t.text = s) ∧
    (parse? (request c).text = some (request c) ↔
      Segment c.tenantId ∧ Segment c.clientId ∧ Segment c.appName) ∧
    (parse? (reply c).text = some (reply c) ↔
      Segment c.tenantId ∧ Segment c.clientId ∧ Segment c.appName) := by
  refine ⟨parse?_eq_some_iff, ?_, ?_⟩
  · rw [parse?_eq_some_iff, and_iff_left rfl]
    rfl
  · rw [parse?_eq_some_iff, and_iff_left rfl]
    rfl

example : parse? "1/gw-01/DEPLOY-V2/REQ" = some ⟨"1", "gw-01", "DEPLOY-V2", .request⟩ :=
  parse_text (t := ⟨"1", "gw-01", "DEPLOY-V2", .request⟩) (by decide)

end Topic

end DeviceFleet
