import Messaging.Body.Bytes
import Messaging.Proofs.Text.ModifiedUtf8

/-!
# Forms of code units

Which bytes are modified UTF-8.  A code unit has one to three forms, and a reader accepts all of
them; a writer uses the shortest.  So every text has one shortest spelling, and bytes that are no
sequence of forms, or whose units do not pair their surrogates, spell no text.
-/

namespace Messaging.Text

/-! ## Texts of code units -/

namespace Utf16

theorem toNat_charOfNat {n : Nat} (h : n.isValidChar) : (Char.ofNat n).toNat = n := by
  rw [Char.ofNat, dif_pos h]
  rfl

theorem encodeChar_unit {u : UInt16} (hhigh : isHigh u = false) (hlow : isLow u = false) :
    encodeChar (Char.ofNat u.toNat) = [u] := by
  have hlt : u.toNat < 65536 := u.toNat_lt
  have hhigh : ¬ (0xD800 ≤ u.toNat ∧ u.toNat < 0xDC00) := by
    rw [← isHigh_iff, hhigh]
    exact Bool.false_ne_true
  have hlow : ¬ (0xDC00 ≤ u.toNat ∧ u.toNat < 0xE000) := by
    rw [← isLow_iff, hlow]
    exact Bool.false_ne_true
  have hvalid : u.toNat.isValidChar := by
    unfold Nat.isValidChar
    omega
  have hchar : (Char.ofNat u.toNat).toNat = u.toNat := toNat_charOfNat hvalid
  rw [encodeChar, hchar, if_pos hlt, UInt16.ofNat_toNat]

theorem encodeChar_joinPair {high low : UInt16} (hhigh : isHigh high = true)
    (hlow : isLow low = true) : encodeChar (joinPair high low) = [high, low] := by
  rw [isHigh_iff] at hhigh
  rw [isLow_iff] at hlow
  have hvalid : (0x10000 + (high.toNat - 0xD800) * 0x400 + (low.toNat - 0xDC00)).isValidChar := by
    unfold Nat.isValidChar
    omega
  have hchar := toNat_charOfNat hvalid
  have hfirst : 0xD800 + ((joinPair high low).toNat - 0x10000) / 0x400 = high.toNat := by
    rw [joinPair, hchar]
    omega
  have hsecond : 0xDC00 + ((joinPair high low).toNat - 0x10000) % 0x400 = low.toNat := by
    rw [joinPair, hchar]
    omega
  have hpair : ¬ (joinPair high low).toNat < 0x10000 := by
    rw [joinPair, hchar]
    omega
  rw [encodeChar, if_neg hpair, hfirst, hsecond, UInt16.ofNat_toNat, UInt16.ofNat_toNat]

theorem flatMap_of_decodeChars? {us : List UInt16} {cs : List Char}
    (h : decodeChars? us = some cs) : cs.flatMap encodeChar = us := by
  fun_induction decodeChars? us generalizing cs with
  | case1 =>
      cases h
      rfl
  | case2 u hsurrogate => cases h
  | case3 u hunit =>
      cases h
      simp only [Bool.or_eq_true, not_or, Bool.not_eq_true] at hunit
      simp [encodeChar_unit hunit.1 hunit.2]
  | case4 u v rest hhigh hlow ih =>
      obtain ⟨cs', hcs', rfl⟩ := Option.map_eq_some_iff.mp h
      rw [List.flatMap_cons, encodeChar_joinPair hhigh hlow, ih hcs']
      rfl
  | case5 u v rest hhigh hlow => cases h
  | case6 u v rest hhigh hlow => cases h
  | case7 u v rest hhigh hlow ih =>
      obtain ⟨cs', hcs', rfl⟩ := Option.map_eq_some_iff.mp h
      rw [List.flatMap_cons, encodeChar_unit (by simpa using hhigh) (by simpa using hlow), ih hcs']
      rfl

theorem decode?_eq_some_iff {us : List UInt16} {s : String} :
    decode? us = some s ↔ us = encode s := by
  constructor
  · intro h
    obtain ⟨cs, hcs, rfl⟩ := Option.map_eq_some_iff.mp h
    rw [encode, String.toList_ofList, flatMap_of_decodeChars? hcs]
  · rintro rfl
    exact decode?_encode s

end Utf16

/-! ## Forms -/

namespace ModifiedUtf8

def Tail (b : UInt8) : Prop := 0x80 ≤ b.toNat ∧ b.toNat ≤ 0xBF

/-- The bytes are a way to write the code unit, perhaps with more of them than it needs. -/
inductive Form : List UInt8 → UInt16 → Prop where
  | one {a : UInt8} : 0x01 ≤ a.toNat → a.toNat ≤ 0x7F → Form [a] (UInt16.ofNat a.toNat)
  | two {a b : UInt8} : 0xC0 ≤ a.toNat → a.toNat ≤ 0xDF → Tail b →
      Form [a, b] (UInt16.ofNat ((a.toNat - 0xC0) * 64 + (b.toNat - 0x80)))
  | three {a b c : UInt8} : 0xE0 ≤ a.toNat → a.toNat ≤ 0xEF → Tail b → Tail c →
      Form [a, b, c]
        (UInt16.ofNat ((a.toNat - 0xE0) * 4096 + (b.toNat - 0x80) * 64 + (c.toNat - 0x80)))

inductive Spells : List UInt8 → List UInt16 → Prop where
  | nil : Spells [] []
  | cons {bytes rest : List UInt8} {u : UInt16} {us : List UInt16} : Form bytes u →
      Spells rest us → Spells (bytes ++ rest) (u :: us)

theorem tail_iff (b : UInt8) : Tail b ↔ isContinuation b = true := by
  rw [Tail, isContinuation_iff]
  omega

theorem within_iff {low high b : UInt8} :
    (decide (low ≤ b) && decide (b < high)) = true ↔ low.toNat ≤ b.toNat ∧ b.toNat < high.toNat := by
  rw [Bool.and_eq_true, decide_eq_true_eq, decide_eq_true_eq, UInt8.le_iff_toNat_le,
    UInt8.lt_iff_toNat_lt]

section Values

variable {a b c : UInt8}

theorem value_two (ha : 0xC0 ≤ a.toNat) (ha' : a.toNat ≤ 0xDF) (hb : Tail b) :
    (a.toNat - 0xC0) * 64 + (b.toNat - 0x80) = a.toNat % 32 * 64 + b.toNat % 64 := by
  obtain ⟨hb, hb'⟩ := hb
  omega

theorem value_three (ha : 0xE0 ≤ a.toNat) (ha' : a.toNat ≤ 0xEF) (hb : Tail b) (hc : Tail c) :
    (a.toNat - 0xE0) * 4096 + (b.toNat - 0x80) * 64 + (c.toNat - 0x80) =
      a.toNat % 16 * 4096 + b.toNat % 64 * 64 + c.toNat % 64 := by
  obtain ⟨hb, hb'⟩ := hb
  obtain ⟨hc, hc'⟩ := hc
  omega

end Values

/-! ## Reading forms -/

theorem decodeUnits?_form {bytes : List UInt8} {u : UInt16} (h : Form bytes u)
    (rest : List UInt8) : decodeUnits? (bytes ++ rest) = (decodeUnits? rest).map (u :: ·) := by
  cases h with
  | one hlow hhigh => exact decodeUnits?_one rest ⟨hlow, Nat.lt_succ_of_le hhigh⟩
  | two hlow hhigh hb =>
      rw [value_two hlow hhigh hb]
      exact decodeUnits?_two rest ⟨hlow, Nat.lt_succ_of_le hhigh⟩ ((tail_iff _).mp hb)
  | three hlow hhigh hb hc =>
      rw [value_three hlow hhigh hb hc]
      exact decodeUnits?_three rest ⟨hlow, Nat.lt_succ_of_le hhigh⟩ ((tail_iff _).mp hb)
        ((tail_iff _).mp hc)

theorem decodeUnits?_of_spells {bytes : List UInt8} {us : List UInt16} (h : Spells bytes us) :
    decodeUnits? bytes = some us := by
  induction h with
  | nil => rfl
  | cons hform _ ih => rw [decodeUnits?_form hform, ih, Option.map_some]

theorem spells_of_decodeUnits? {bytes : List UInt8} {us : List UInt16}
    (h : decodeUnits? bytes = some us) : Spells bytes us := by
  fun_induction decodeUnits? bytes generalizing us with
  | case1 =>
      cases h
      exact .nil
  | case2 a rest ha ih =>
      obtain ⟨us', hus', rfl⟩ := Option.map_eq_some_iff.mp h
      rw [within_iff] at ha
      exact .cons (.one ha.1 (Nat.le_of_lt_succ ha.2)) (ih hus')
  | case3 a _ ha b rest hb ih =>
      obtain ⟨us', hus', rfl⟩ := Option.map_eq_some_iff.mp h
      rw [within_iff] at ha
      rw [← tail_iff] at hb
      rw [← value_two ha.1 (Nat.le_of_lt_succ ha.2) hb]
      exact .cons (.two ha.1 (Nat.le_of_lt_succ ha.2) hb) (ih hus')
  | case6 a _ _ ha b c rest hbc ih =>
      obtain ⟨us', hus', rfl⟩ := Option.map_eq_some_iff.mp h
      rw [within_iff] at ha
      rw [Bool.and_eq_true, ← tail_iff, ← tail_iff] at hbc
      rw [← value_three ha.1 (Nat.le_of_lt_succ ha.2) hbc.1 hbc.2]
      exact .cons (.three ha.1 (Nat.le_of_lt_succ ha.2) hbc.1 hbc.2) (ih hus')
  | case4 | case5 | case7 | case8 | case9 => cases h

theorem decode?_eq_some_iff {bytes : List UInt8} {s : String} :
    decode? bytes = some s ↔ Spells bytes (Utf16.encode s) := by
  unfold decode?
  rw [Option.bind_eq_some_iff]
  constructor
  · rintro ⟨us, hus, hs⟩
    rw [← Utf16.decode?_eq_some_iff.mp hs]
    exact spells_of_decodeUnits? hus
  · intro h
    exact ⟨_, decodeUnits?_of_spells h, Utf16.decode?_encode s⟩

theorem Form.bounds {bytes : List UInt8} {u : UInt16} (h : Form bytes u) :
    ∀ b ∈ bytes, 0x00 < b.toNat ∧ b.toNat < 0xF0 := by
  cases h with
  | one hlow hhigh =>
      simp only [List.forall_mem_singleton]
      omega
  | two hlow hhigh hb =>
      obtain ⟨hb, hb'⟩ := hb
      simp only [List.forall_mem_cons, List.not_mem_nil, false_implies, implies_true, and_true]
      omega
  | three hlow hhigh hb hc =>
      obtain ⟨hb, hb'⟩ := hb
      obtain ⟨hc, hc'⟩ := hc
      simp only [List.forall_mem_cons, List.not_mem_nil, false_implies, implies_true, and_true]
      omega

theorem Spells.bounds {bytes : List UInt8} {us : List UInt16} (h : Spells bytes us) :
    ∀ b ∈ bytes, 0x00 < b.toNat ∧ b.toNat < 0xF0 := by
  induction h with
  | nil => simp
  | cons hform _ ih => exact List.forall_mem_append.mpr ⟨hform.bounds, ih⟩

/-! ## The shortest form -/

section Shortest

variable {n : Nat}

theorem encodeUnit_one (h : 1 ≤ n) (h' : n < 0x80) :
    encodeUnit (UInt16.ofNat n) = [UInt8.ofNat n] := by
  rw [encodeUnit, Utf16.toNat_ofNat (by omega)]
  exact if_pos ⟨h, h'⟩

theorem encodeUnit_two (h : ¬ (1 ≤ n ∧ n < 0x80)) (h' : n < 0x800) :
    encodeUnit (UInt16.ofNat n) = [UInt8.ofNat (0xC0 + n / 64), UInt8.ofNat (0x80 + n % 64)] := by
  rw [encodeUnit, Utf16.toNat_ofNat (by omega), if_neg h, if_pos h']

theorem encodeUnit_three (h : 0x800 ≤ n) (h' : n < 0x10000) :
    encodeUnit (UInt16.ofNat n) = [UInt8.ofNat (0xE0 + n / 4096),
      UInt8.ofNat (0x80 + n / 64 % 64), UInt8.ofNat (0x80 + n % 64)] := by
  rw [encodeUnit, Utf16.toNat_ofNat h', if_neg (by omega), if_neg (by omega)]

end Shortest

theorem Form.shortest {bytes : List UInt8} {u : UInt16} (h : Form bytes u) :
    bytes = encodeUnit u ∨ (encodeUnit u).length < bytes.length := by
  cases h with
  | @one a hlow hhigh =>
      left
      rw [encodeUnit_one hlow (Nat.lt_succ_of_le hhigh), UInt8.ofNat_toNat]
  | @two a b hlow hhigh hb =>
      obtain ⟨hb, hb'⟩ := hb
      generalize hn : (a.toNat - 0xC0) * 64 + (b.toNat - 0x80) = n
      by_cases hone : 1 ≤ n ∧ n < 0x80
      · right
        rw [encodeUnit_one hone.1 hone.2]
        exact Nat.lt_succ_self 1
      · left
        have ha : 0xC0 + n / 64 = a.toNat := by omega
        have hb : 0x80 + n % 64 = b.toNat := by omega
        rw [encodeUnit_two hone (by omega), ha, hb, UInt8.ofNat_toNat, UInt8.ofNat_toNat]
  | @three a b c hlow hhigh hb hc =>
      obtain ⟨hb, hb'⟩ := hb
      obtain ⟨hc, hc'⟩ := hc
      generalize hn : (a.toNat - 0xE0) * 4096 + (b.toNat - 0x80) * 64 + (c.toNat - 0x80) = n
      by_cases hone : 1 ≤ n ∧ n < 0x80
      · right
        rw [encodeUnit_one hone.1 hone.2]
        exact Nat.lt_of_sub_eq_succ rfl
      by_cases htwo : n < 0x800
      · right
        rw [encodeUnit_two hone htwo]
        exact Nat.lt_succ_self 2
      · left
        have ha : 0xE0 + n / 4096 = a.toNat := by omega
        have hb : 0x80 + n / 64 % 64 = b.toNat := by omega
        have hc : 0x80 + n % 64 = c.toNat := by omega
        rw [encodeUnit_three (Nat.le_of_not_lt htwo) (by omega), ha, hb, hc, UInt8.ofNat_toNat,
          UInt8.ofNat_toNat, UInt8.ofNat_toNat]

theorem Spells.shortest {bytes : List UInt8} {us : List UInt16} (h : Spells bytes us) :
    bytes = us.flatMap encodeUnit ∨ (us.flatMap encodeUnit).length < bytes.length := by
  induction h with
  | nil => exact .inl rfl
  | cons hform _ ih =>
      rw [List.flatMap_cons, List.length_append, List.length_append]
      rcases hform.shortest with rfl | hform
      · rcases ih with rfl | ih
        · exact .inl rfl
        · exact .inr (Nat.add_lt_add_left ih _)
      · rcases ih with rfl | ih
        · exact .inr (Nat.add_lt_add_right hform _)
        · exact .inr (Nat.add_lt_add hform ih)

end ModifiedUtf8

end Messaging.Text

namespace Messaging.BytesBody

open Text Text.ModifiedUtf8

theorem decodeUtf_eq_ok_iff {bytes : List UInt8} {s : String} :
    decodeUtf bytes = .ok s ↔ Spells bytes (Utf16.encode s) := by
  rw [← decode?_eq_some_iff, decodeUtf]
  cases decode? bytes <;> simp

theorem decodeUtf_eq_error {bytes : List UInt8} (h : ∀ s, ¬ Spells bytes (Utf16.encode s)) :
    decodeUtf bytes = .error .malformedText := by
  cases hs : decode? bytes with
  | none => rw [decodeUtf, hs]
  | some s => exact absurd (decode?_eq_some_iff.mp hs) (h s)

/--
Bytes decode to a text exactly if they spell its code units, in forms of any length, and bytes that
spell no text are malformed.  What is written for a text is the one shortest way to spell it, and
holds neither the byte zero nor one that starts a form of four bytes.
-/
theorem decodeUtf_iff_spells :
    (∀ s, decodeUtf (encode s) = .ok s) ∧
      (∀ s, ∀ b ∈ encode s, b ≠ 0x00 ∧ b < 0xF0) ∧
      (∀ bytes s, decodeUtf bytes = .ok s ↔ Spells bytes (Utf16.encode s)) ∧
      (∀ bytes, (∀ s, ¬ Spells bytes (Utf16.encode s)) →
        ∃ e, decodeUtf bytes = .error e ∧ e.kind = .messageFormat) ∧
      ∀ bytes s, decodeUtf bytes = .ok s → bytes ≠ encode s →
        (encode s).length < bytes.length := by
  refine ⟨?_, ?_, fun _ _ => decodeUtf_eq_ok_iff, ?_, ?_⟩
  · intro s
    rw [decodeUtf, decode?_encode]
  · intro s b hb
    have hspells := decode?_eq_some_iff.mp (decode?_encode s)
    obtain ⟨hpos, hlt⟩ := hspells.bounds b hb
    rw [UInt8.lt_iff_toNat_lt]
    refine ⟨?_, hlt⟩
    rintro rfl
    exact absurd hpos (by decide)
  · intro bytes h
    exact ⟨_, decodeUtf_eq_error h, rfl⟩
  · intro bytes s h hne
    exact (decodeUtf_eq_ok_iff.mp h).shortest.resolve_left hne

/-- The character zero is read from each of its forms of two and three bytes, but not from a byte. -/
example : decodeUtf [0xC0, 0x80] = .ok "\x00" ∧ decodeUtf [0xE0, 0x80, 0x80] = .ok "\x00" ∧
    decodeUtf [0x00] = .error .malformedText := by
  exact ⟨rfl, rfl, rfl⟩

end Messaging.BytesBody
