import Messaging.Proofs.Text.Utf8
import Messaging.Text.ModifiedUtf8

/-!
# Modified UTF-8 round trip

The code units of a text make up the text again, and the bytes of each unit make up the unit.
-/

namespace Messaging.Text

/-! ## Code units of characters -/

namespace Utf16

theorem isHigh_iff (u : UInt16) : isHigh u = true ↔ 0xD800 ≤ u.toNat ∧ u.toNat < 0xDC00 := by
  simp [isHigh, UInt16.lt_iff_toNat_lt, UInt16.le_iff_toNat_le]

theorem isLow_iff (u : UInt16) : isLow u = true ↔ 0xDC00 ≤ u.toNat ∧ u.toNat < 0xE000 := by
  simp [isLow, UInt16.lt_iff_toNat_lt, UInt16.le_iff_toNat_le]

theorem toNat_ofNat {n : Nat} (h : n < 65536) : (UInt16.ofNat n).toNat = n :=
  UInt16.toNat_ofNat_of_lt' h

theorem decodeChars?_unit {u : UInt16} (hhigh : isHigh u = false) (hlow : isLow u = false)
    (rest : List UInt16) :
    decodeChars? (u :: rest) = (decodeChars? rest).map (Char.ofNat u.toNat :: ·) := by
  cases rest with
  | nil => simp [decodeChars?, hhigh, hlow]
  | cons v rest => simp [decodeChars?, hhigh, hlow]

theorem decodeChars?_encodeChar (c : Char) (rest : List UInt16) :
    decodeChars? (encodeChar c ++ rest) = (decodeChars? rest).map (c :: ·) := by
  have hvalid : c.toNat < 0xD800 ∨ 0xDFFF < c.toNat ∧ c.toNat < 0x110000 := c.valid
  have hchar : Char.ofNat c.toNat = c := c.ofNat_toNat
  unfold encodeChar
  generalize c.toNat = n at hvalid hchar
  subst hchar
  split
  next hunit =>
    have hn := toNat_ofNat hunit
    have hhigh : isHigh (UInt16.ofNat n) = false := by
      rw [Bool.eq_false_iff, ne_eq, isHigh_iff, hn]
      omega
    have hlow : isLow (UInt16.ofNat n) = false := by
      rw [Bool.eq_false_iff, ne_eq, isLow_iff, hn]
      omega
    rw [List.singleton_append, decodeChars?_unit hhigh hlow, hn]
  next hpair =>
    have hu : (UInt16.ofNat (0xD800 + (n - 0x10000) / 0x400)).toNat =
        0xD800 + (n - 0x10000) / 0x400 := toNat_ofNat (by omega)
    have hv : (UInt16.ofNat (0xDC00 + (n - 0x10000) % 0x400)).toNat =
        0xDC00 + (n - 0x10000) % 0x400 := toNat_ofNat (by omega)
    generalize UInt16.ofNat (0xD800 + (n - 0x10000) / 0x400) = u at hu ⊢
    generalize UInt16.ofNat (0xDC00 + (n - 0x10000) % 0x400) = v at hv ⊢
    have hhigh : isHigh u = true := by
      rw [isHigh_iff, hu]
      omega
    have hlow : isLow v = true := by
      rw [isLow_iff, hv]
      omega
    have hn : 0x10000 + (u.toNat - 0xD800) * 0x400 + (v.toNat - 0xDC00) = n := by omega
    have hjoin : joinPair u v = Char.ofNat n := by rw [joinPair, hn]
    simp [decodeChars?, hhigh, hlow, hjoin]

theorem decodeChars?_flatMap (cs : List Char) :
    decodeChars? (cs.flatMap encodeChar) = some cs := by
  induction cs with
  | nil => rfl
  | cons c cs ih => rw [List.flatMap_cons, decodeChars?_encodeChar, ih, Option.map_some]

theorem decode?_encode (s : String) : decode? (encode s) = some s := by
  simp [decode?, encode, decodeChars?_flatMap]

end Utf16

/-! ## Bytes of code units -/

namespace ModifiedUtf8

theorem isContinuation_iff (b : UInt8) :
    isContinuation b = true ↔ 0x80 ≤ b.toNat ∧ b.toNat < 0xC0 := by
  simp [isContinuation, UInt8.lt_iff_toNat_lt, UInt8.le_iff_toNat_le]

section Units

variable {a b c : UInt8} (rest : List UInt8)

theorem decodeUnits?_one (ha : 0x01 ≤ a.toNat ∧ a.toNat < 0x80) :
    decodeUnits? (a :: rest) = (decodeUnits? rest).map (UInt16.ofNat a.toNat :: ·) := by
  have hone : (0x01 ≤ a && a < 0x80) = true := by
    simpa [UInt8.lt_iff_toNat_lt, UInt8.le_iff_toNat_le] using ha
  rw [decodeUnits?.eq_def]
  simp only [if_pos hone]

theorem decodeUnits?_two (ha : 0xC0 ≤ a.toNat ∧ a.toNat < 0xE0) (hb : isContinuation b = true) :
    decodeUnits? (a :: b :: rest) =
      (decodeUnits? rest).map (UInt16.ofNat (a.toNat % 32 * 64 + b.toNat % 64) :: ·) := by
  have hone : ¬ (0x01 ≤ a && a < 0x80) = true := by
    simp [UInt8.lt_iff_toNat_lt, UInt8.le_iff_toNat_le]
    omega
  have htwo : (0xC0 ≤ a && a < 0xE0) = true := by
    simpa [UInt8.lt_iff_toNat_lt, UInt8.le_iff_toNat_le] using ha
  simp only [decodeUnits?, if_neg hone, if_pos htwo, if_pos hb]

theorem decodeUnits?_three (ha : 0xE0 ≤ a.toNat ∧ a.toNat < 0xF0) (hb : isContinuation b = true)
    (hc : isContinuation c = true) : decodeUnits? (a :: b :: c :: rest) = (decodeUnits? rest).map
      (UInt16.ofNat (a.toNat % 16 * 4096 + b.toNat % 64 * 64 + c.toNat % 64) :: ·) := by
  have hone : ¬ (0x01 ≤ a && a < 0x80) = true := by
    simp [UInt8.lt_iff_toNat_lt, UInt8.le_iff_toNat_le]
    omega
  have htwo : ¬ (0xC0 ≤ a && a < 0xE0) = true := by
    simp [UInt8.lt_iff_toNat_lt, UInt8.le_iff_toNat_le]
    omega
  have hthree : (0xE0 ≤ a && a < 0xF0) = true := by
    simpa [UInt8.lt_iff_toNat_lt, UInt8.le_iff_toNat_le] using ha
  simp only [decodeUnits?, if_neg hone, if_neg htwo, if_pos hthree, hb, hc, Bool.and_self, if_true]

end Units

theorem decodeUnits?_encodeUnit (u : UInt16) (rest : List UInt8) :
    decodeUnits? (encodeUnit u ++ rest) = (decodeUnits? rest).map (u :: ·) := by
  have hlt : u.toNat < 65536 := u.toNat_lt
  have hu : UInt16.ofNat u.toNat = u := UInt16.ofNat_toNat
  unfold encodeUnit
  generalize u.toNat = n at hlt hu
  subst hu
  dsimp only
  split
  next hone =>
    have ha : (UInt8.ofNat n).toNat = n := Utf8.toNat_ofNat (by omega)
    rw [List.singleton_append, decodeUnits?_one rest (by omega), ha]
  split
  next htwo =>
    have ha : (UInt8.ofNat (0xC0 + n / 64)).toNat = 0xC0 + n / 64 := Utf8.toNat_ofNat (by omega)
    have hb : (UInt8.ofNat (0x80 + n % 64)).toNat = 0x80 + n % 64 := Utf8.toNat_ofNat (by omega)
    generalize UInt8.ofNat (0xC0 + n / 64) = a at ha ⊢
    generalize UInt8.ofNat (0x80 + n % 64) = b at hb ⊢
    have hn : a.toNat % 32 * 64 + b.toNat % 64 = n := by omega
    have hcontinue : isContinuation b = true := (isContinuation_iff b).mpr (by omega)
    rw [List.cons_append, List.singleton_append, decodeUnits?_two rest (by omega) hcontinue, hn]
  next hthree =>
    have ha : (UInt8.ofNat (0xE0 + n / 4096)).toNat = 0xE0 + n / 4096 :=
      Utf8.toNat_ofNat (by omega)
    have hb : (UInt8.ofNat (0x80 + n / 64 % 64)).toNat = 0x80 + n / 64 % 64 :=
      Utf8.toNat_ofNat (by omega)
    have hc : (UInt8.ofNat (0x80 + n % 64)).toNat = 0x80 + n % 64 := Utf8.toNat_ofNat (by omega)
    generalize UInt8.ofNat (0xE0 + n / 4096) = a at ha ⊢
    generalize UInt8.ofNat (0x80 + n / 64 % 64) = b at hb ⊢
    generalize UInt8.ofNat (0x80 + n % 64) = c at hc ⊢
    have hn : a.toNat % 16 * 4096 + b.toNat % 64 * 64 + c.toNat % 64 = n := by omega
    have hb' : isContinuation b = true := (isContinuation_iff b).mpr (by omega)
    have hc' : isContinuation c = true := (isContinuation_iff c).mpr (by omega)
    rw [List.cons_append, List.cons_append, List.singleton_append,
      decodeUnits?_three rest (by omega) hb' hc', hn]

theorem decodeUnits?_flatMap (us : List UInt16) :
    decodeUnits? (us.flatMap encodeUnit) = some us := by
  induction us with
  | nil => rfl
  | cons u us ih => rw [List.flatMap_cons, decodeUnits?_encodeUnit, ih, Option.map_some]

theorem decode?_encode (s : String) : decode? (encode s) = some s := by
  simp [decode?, encode, decodeUnits?_flatMap, Utf16.decode?_encode]

end ModifiedUtf8

end Messaging.Text
