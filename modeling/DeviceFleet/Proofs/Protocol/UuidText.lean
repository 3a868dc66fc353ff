import Mathlib.Tactic.Ring
import DeviceFleet.Protocol.Uuid

/-!
# Identifiers in hyphenated form

The written form of an identifier reads back as it (`Uuid.parse_text`), also after a
`urn:uuid:` prefix, so two identifiers are one exactly when their written forms are.
-/

namespace DeviceFleet

namespace Text

theorem hexDigit_hexChar {d : Nat} (h : d < 16) : hexDigit? (hexChar d) = some d :=
  (by decide : ∀ d : Fin 16, hexDigit? (hexChar d) = some d) ⟨d, h⟩

theorem utf8Size_hexChar {d : Nat} (h : d < 16) : (hexChar d).utf8Size = 1 :=
  (by decide : ∀ d : Fin 16, (hexChar d).utf8Size = 1) ⟨d, h⟩

theorem foldlM_hexDigits (n v acc : Nat) :
    ((List.range n).reverse.map fun i => hexChar (v / Nat.pow 16 i % 16)).foldlM
      (fun acc c => (hexDigit? c).map fun d => acc * 16 + d) acc =
      some (acc * 16 ^ n + v % 16 ^ n) := by
  induction n generalizing acc with
  | zero => simp [Nat.mod_one]
  | succ n ih =>
    rw [List.range_succ, List.reverse_append, List.reverse_singleton, List.singleton_append,
      List.map_cons, List.foldlM_cons, hexDigit_hexChar (Nat.mod_lt _ (by decide))]
    simp only [Option.map_some, Nat.pow_eq] at ih ⊢
    show (some (acc * 16 + v / 16 ^ n % 16)).bind _ = _
    rw [Option.bind_some, ih, Nat.mod_pow_succ, Nat.pow_succ]
    congr 1
    ring

theorem utf8ByteSize_ofList {l : List Char} (h : ∀ c ∈ l, c.utf8Size = 1) :
    (String.ofList l).utf8ByteSize = l.length := by
  induction l with
  | nil => rfl
  | cons c l ih =>
    rw [show c :: l = [c] ++ l from rfl, String.ofList_append, String.utf8ByteSize_append,
      ← String.singleton_eq_ofList, String.utf8ByteSize_singleton, h c (by simp),
      ih fun x hx => h x (by simp [hx])]
    simp [Nat.add_comm]

end Text

namespace Uuid

theorem wordHex_toList (w : UInt64) :
    (Text.wordHex w).toList =
      (List.range 16).reverse.map fun i => Text.hexChar (w.toNat / Nat.pow 16 i % 16) :=
  String.toList_ofList

theorem ofDigits_digits (u : Uuid) : ofDigits? u.digits.toList = some u := by
  have hhi := u.hi.toNat_lt
  have hlo := u.lo.toNat_lt
  unfold ofDigits? digits
  rw [String.toList_append, wordHex_toList, wordHex_toList]
  simp only [List.length_append, List.length_map, List.length_reverse, List.length_range,
    List.foldlM_append, Text.foldlM_hexDigits]
  have hv : (0 * 16 ^ 16 + u.hi.toNat % 16 ^ 16) * 16 ^ 16 + u.lo.toNat % 16 ^ 16 =
      u.hi.toNat * Nat.pow 2 64 + u.lo.toNat := by
    simp only [show (16 : Nat) ^ 16 = 2 ^ 64 from rfl, Nat.pow_eq] at hhi hlo ⊢
    rw [Nat.mod_eq_of_lt hhi, Nat.mod_eq_of_lt hlo, Nat.zero_mul, Nat.zero_add]
  have hhi' : (u.hi.toNat * Nat.pow 2 64 + u.lo.toNat) / Nat.pow 2 64 = u.hi.toNat := by
    simp only [Nat.pow_eq] at hlo ⊢
    omega
  have hlo' : (u.hi.toNat * Nat.pow 2 64 + u.lo.toNat) % Nat.pow 2 64 = u.lo.toNat := by
    simp only [Nat.pow_eq] at hlo ⊢
    omega
  simp only [if_true, Option.bind_eq_bind, Option.bind_some]
  rw [hv, hhi', hlo', UInt64.ofNat_toNat, UInt64.ofNat_toNat]
  rfl

theorem digits_toList (u : Uuid) : u.digits.toList =
    ((List.range 16).reverse.map fun i => Text.hexChar (u.hi.toNat / Nat.pow 16 i % 16)) ++
      ((List.range 16).reverse.map fun i => Text.hexChar (u.lo.toNat / Nat.pow 16 i % 16)) := by
  rw [digits, String.toList_append, wordHex_toList, wordHex_toList]

theorem digits_length (u : Uuid) : u.digits.toList.length = 32 := by
  simp [digits_toList]

theorem utf8Size_of_mem_digits {u : Uuid} {c : Char} (h : c ∈ u.digits.toList) : c.utf8Size = 1 := by
  rw [digits_toList] at h
  simp only [List.mem_append, List.mem_map] at h
  rcases h with ⟨i, -, rfl⟩ | ⟨i, -, rfl⟩ <;> exact Text.utf8Size_hexChar (Nat.mod_lt _ (by decide))

theorem ofHyphenated_groups {a b c f g : List Char} (ha : a.length = 8) (hb : b.length = 4)
    (hc : c.length = 4) (hf : f.length = 4) (hg : g.length = 12) :
    ofHyphenated? (a ++ '-' :: (b ++ '-' :: (c ++ '-' :: (f ++ '-' :: g)))) =
      ofDigits? (a ++ (b ++ (c ++ (f ++ g)))) := by
  simp [ofHyphenated?, List.getD_eq_getElem?_getD, ha, hb, hc, hf, hg, List.drop_append,
    List.drop_eq_nil_of_le]

theorem take_drop_groups {α : Type} (d : List α) :
    d.take 8 ++ ((d.drop 8).take 4 ++ ((d.drop 12).take 4 ++ ((d.drop 16).take 4 ++ d.drop 20))) =
      d := by
  have h12 : d.drop 12 = (d.drop 8).drop 4 := by rw [List.drop_drop]
  have h16 : d.drop 16 = (d.drop 12).drop 4 := by rw [List.drop_drop]
  have h20 : d.drop 20 = (d.drop 16).drop 4 := by rw [List.drop_drop]
  rw [h20, List.take_append_drop, h16, List.take_append_drop, h12, List.take_append_drop,
    List.take_append_drop]

theorem ofHyphenated_text (u : Uuid) : ofHyphenated? u.text.toList = some u := by
  have hlen := digits_length u
  unfold text
  rw [String.toList_ofList]
  simp only [List.append_assoc, List.cons_append, List.nil_append]
  rw [ofHyphenated_groups (by simp [hlen]) (by simp [hlen]) (by simp [hlen]) (by simp [hlen])
    (by simp [hlen]), take_drop_groups, ofDigits_digits]

theorem utf8ByteSize_text (u : Uuid) : u.text.utf8ByteSize = 36 := by
  have hlen := digits_length u
  have hchars : ∀ c ∈ u.text.toList, c.utf8Size = 1 := by
    intro c hc
    unfold text at hc
    rw [String.toList_ofList] at hc
    have hd : c ∈ u.digits.toList ∨ c = '-' := by
      simp only [List.mem_append, List.mem_singleton] at hc
      grind [List.mem_of_mem_take, List.mem_of_mem_drop]
    rcases hd with hd | rfl
    · exact utf8Size_of_mem_digits hd
    · rfl
  rw [← String.ofList_toList (s := u.text), Text.utf8ByteSize_ofList hchars]
  unfold text
  simp [hlen]

theorem isEmpty_text (u : Uuid) : u.text.isEmpty = false := by
  cases h : u.text.isEmpty with
  | false => rfl
  | true =>
    have h0 := String.isEmpty_iff_utf8ByteSize_eq_zero.mp h
    rw [utf8ByteSize_text] at h0
    cases h0

theorem length_text (u : Uuid) : u.text.toList.length = 36 := by
  have hlen := digits_length u
  unfold text
  rw [String.toList_ofList]
  simp [hlen]

theorem text_inj {u u' : Uuid} : u.text = u'.text ↔ u = u' := by
  constructor
  · intro h
    have hr := ofHyphenated_text u'
    rw [← h, ofHyphenated_text u] at hr
    exact Option.some.inj hr
  · rintro rfl
    rfl

theorem parse_text (u : Uuid) : parse u.text = .ok u := by
  unfold parse
  simp only [utf8ByteSize_text, ofHyphenated_text]
  rfl

theorem parse_urn_text (u : Uuid) {p : String}
    (hp : p.toList.map Char.toLower = "urn:uuid:".toList) (hb : p.utf8ByteSize = 9) :
    parse (p ++ u.text) = .ok u := by
  have hlen : p.toList.length = 9 := by
    rw [← List.length_map (f := Char.toLower), hp]
    rfl
  have hpre : hasUrnPrefix (p.toList ++ u.text.toList) = true := by
    simp [hasUrnPrefix, List.take_append_of_le_length (le_of_eq hlen.symm), hp]
  have hsize : (p ++ u.text).utf8ByteSize = 45 := by
    rw [String.utf8ByteSize_append, hb, utf8ByteSize_text]
  unfold parse
  simp only [hsize, String.toList_append, hpre, List.drop_left' hlen, ofHyphenated_text]
  rfl

example : parse "urn:UUID:3F2C9A4E-0000-4000-8000-000000000001" =
    parse "3f2c9a4e-0000-4000-8000-000000000001" := by decide

end Uuid

end DeviceFleet
