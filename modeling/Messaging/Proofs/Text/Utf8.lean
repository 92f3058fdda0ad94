import Messaging.Text.Utf8

/-!
# UTF-8 round trip

The bytes of a text decode to the text, and hold no zero byte unless the text holds the character
zero.
-/

namespace Messaging.Text.Utf8

/-! ## Bytes as numbers -/

theorem toNat_ofNat {n : Nat} (h : n < 256) : (UInt8.ofNat n).toNat = n :=
  UInt8.toNat_ofNat_of_lt' h

theorem width_eq (b : UInt8) : width b =
    if b.toNat < 0x80 then 1 else if b.toNat < 0xC2 then 0 else if b.toNat < 0xE0 then 2
    else if b.toNat < 0xF0 then 3 else if b.toNat < 0xF5 then 4 else 0 := by
  simp [width, UInt8.lt_iff_toNat_lt]

theorem isContinuation_iff (b : UInt8) :
    isContinuation b = true ↔ 0x80 ≤ b.toNat ∧ b.toNat < 0xC0 := by
  simp [isContinuation, UInt8.lt_iff_toNat_lt, UInt8.le_iff_toNat_le]

theorem isSecond_iff (lead second : UInt8) : isSecond lead second = true ↔
    (0x80 ≤ second.toNat ∧ second.toNat < 0xC0) ∧
      (lead.toNat = 0xE0 → 0xA0 ≤ second.toNat) ∧ (lead.toNat = 0xED → second.toNat < 0xA0) ∧
      (lead.toNat = 0xF0 → 0x90 ≤ second.toNat) ∧ (lead.toNat = 0xF4 → second.toNat < 0x90) := by
  simp only [isSecond, ← UInt8.toNat_inj, apply_ite (· = true), Bool.and_eq_true, decide_eq_true_eq,
    UInt8.lt_iff_toNat_lt, UInt8.le_iff_toNat_le, isContinuation_iff, UInt8.reduceToNat]
  repeat' split
  all_goals omega

/-! ## One character -/

def continuation (n : Nat) : UInt8 := UInt8.ofNat (n % 64 + 128)

theorem toNat_continuation (n : Nat) : (continuation n).toNat = n % 64 + 128 :=
  toNat_ofNat (by omega)

@[simp] theorem isContinuation_continuation (n : Nat) : isContinuation (continuation n) = true := by
  rw [isContinuation_iff, toNat_continuation]
  omega

theorem extend_continuation (high n : Nat) : extend high (continuation n) = high * 64 + n % 64 := by
  rw [extend, toNat_continuation]
  omega

section Next

variable {n : Nat} {b : UInt8} (rest : List UInt8)

theorem next_one (hb : b.toNat = n) (h : n < 0x80) : next b rest = .char (Char.ofNat n) 1 := by
  have hwidth : width b = 1 := by rw [width_eq, hb, if_pos h]
  simp [next, hwidth, hb]

theorem next_two (hb : b.toNat = n / 64 % 32 + 192) (h : 0x80 ≤ n ∧ n < 0x800) :
    next b (continuation n :: rest) = .char (Char.ofNat n) 2 := by
  have hwidth : width b = 2 := by
    rw [width_eq, hb]
    repeat' split
    all_goals omega
  have hsecond : isSecond b (continuation n) = true := by
    rw [isSecond_iff, hb, toNat_continuation]
    omega
  have hn : b.toNat % 32 * 64 + n % 64 = n := by omega
  simp [next, hwidth, hsecond, extend_continuation, hn]

theorem next_three (hb : b.toNat = n / 4096 % 16 + 224) (h : 0x800 ≤ n ∧ n < 0x10000)
    (hvalid : n < 0xD800 ∨ 0xDFFF < n) :
    next b (continuation (n / 64) :: continuation n :: rest) = .char (Char.ofNat n) 3 := by
  have hwidth : width b = 3 := by
    rw [width_eq, hb]
    repeat' split
    all_goals omega
  have hsecond : isSecond b (continuation (n / 64)) = true := by
    rw [isSecond_iff, hb, toNat_continuation]
    omega
  have hn : (b.toNat % 16 * 64 + n / 64 % 64) * 64 + n % 64 = n := by omega
  simp [next, hwidth, hsecond, extend_continuation, hn]

theorem next_four (hb : b.toNat = n / 262144 % 8 + 240) (h : 0x10000 ≤ n ∧ n < 0x110000) :
    next b (continuation (n / 4096) :: continuation (n / 64) :: continuation n :: rest) =
      .char (Char.ofNat n) 4 := by
  have hwidth : width b = 4 := by
    rw [width_eq, hb]
    repeat' split
    all_goals omega
  have hsecond : isSecond b (continuation (n / 4096)) = true := by
    rw [isSecond_iff, hb, toNat_continuation]
    omega
  have hn : ((b.toNat % 8 * 64 + n / 4096 % 64) * 64 + n / 64 % 64) * 64 + n % 64 = n := by omega
  simp [next, hwidth, hsecond, extend_continuation, hn]

end Next

theorem next_utf8EncodeChar (c : Char) (rest : List UInt8) :
    ∃ b bs, String.utf8EncodeChar c = b :: bs ∧ next b (bs ++ rest) = .char c (bs.length + 1) := by
  have hvalid : c.val.toNat < 0xD800 ∨ 0xDFFF < c.val.toNat ∧ c.val.toNat < 0x110000 := c.valid
  have hchar : Char.ofNat c.val.toNat = c := c.ofNat_toNat
  unfold String.utf8EncodeChar
  generalize c.val.toNat = n at hvalid hchar
  subst hchar
  dsimp only
  split
  next hone =>
    exact ⟨_, [], rfl, next_one rest (toNat_ofNat (by omega)) (by omega)⟩
  split
  next htwo =>
    exact ⟨_, [continuation n], rfl, next_two rest (toNat_ofNat (by omega)) (by omega)⟩
  split
  next hthree =>
    exact ⟨_, [continuation (n / 64), continuation n], rfl,
      next_three rest (toNat_ofNat (by omega)) (by omega) (by omega)⟩
  next hfour =>
    exact ⟨_, [continuation (n / 4096), continuation (n / 64), continuation n], rfl,
      next_four rest (toNat_ofNat (by omega)) (by omega)⟩

theorem decodeFrom_utf8EncodeChar (index : Nat) (done : List Char) (c : Char) (rest : List UInt8) :
    ∃ index', decodeFrom index done (String.utf8EncodeChar c ++ rest) =
      decodeFrom index' (c :: done) rest := by
  obtain ⟨b, bs, hbytes, hnext⟩ := next_utf8EncodeChar c rest
  refine ⟨index + (bs.length + 1), ?_⟩
  rw [hbytes, List.cons_append, decodeFrom, hnext]
  simp

/-! ## Texts -/

theorem decodeFrom_flatMap (index : Nat) (done cs : List Char) :
    decodeFrom index done (cs.flatMap String.utf8EncodeChar) = .ok (done.reverse ++ cs) := by
  induction cs generalizing index done with
  | nil => simp [decodeFrom]
  | cons c cs ih =>
      obtain ⟨index', hfrom⟩ :=
        decodeFrom_utf8EncodeChar index done c (cs.flatMap String.utf8EncodeChar)
      rw [List.flatMap_cons, hfrom, ih]
      simp

theorem decode_encode (s : String) : decode (encode s) = .ok s := by
  simp [decode, encode, decodeFrom_flatMap, Except.map]

theorem decodeLossyFrom_utf8EncodeChar (done : List Char) (c : Char) (rest : List UInt8) :
    decodeLossyFrom done (String.utf8EncodeChar c ++ rest) = decodeLossyFrom (c :: done) rest := by
  obtain ⟨b, bs, hbytes, hnext⟩ := next_utf8EncodeChar c rest
  rw [hbytes, List.cons_append, decodeLossyFrom, hnext]
  simp

theorem decodeLossyFrom_flatMap (done cs : List Char) :
    decodeLossyFrom done (cs.flatMap String.utf8EncodeChar) = done.reverse ++ cs := by
  induction cs generalizing done with
  | nil => simp [decodeLossyFrom]
  | cons c cs ih =>
      rw [List.flatMap_cons, decodeLossyFrom_utf8EncodeChar, ih]
      simp

theorem decodeLossy_encode (s : String) : decodeLossy (encode s) = s := by
  simp [decodeLossy, encode, decodeLossyFrom_flatMap]

theorem utf8EncodeChar_ofNat {b : UInt8} (h : b < 0x80) :
    String.utf8EncodeChar (Char.ofNat b.toNat) = [b] := by
  have hall : ∀ n < 0x80, String.utf8EncodeChar (Char.ofNat n) = [UInt8.ofNat n] := by decide
  rw [hall b.toNat (UInt8.lt_iff_toNat_lt.mp h), UInt8.ofNat_toNat]

theorem encode_ofBytes {bytes : List UInt8} (h : ∀ b ∈ bytes, b < 0x80) :
    encode (String.ofList (bytes.map fun b => Char.ofNat b.toNat)) = bytes := by
  rw [encode, String.toList_ofList, List.flatMap_map]
  induction bytes with
  | nil => rfl
  | cons b bytes ih =>
      rw [List.flatMap_cons, utf8EncodeChar_ofNat (h b List.mem_cons_self),
        ih fun b hb => h b (List.mem_cons_of_mem _ hb), List.singleton_append]

theorem ofNat_ne_zero {n : Nat} (hpos : 0 < n) (hlt : n < 256) : UInt8.ofNat n ≠ 0 := by
  intro hzero
  have hn := toNat_ofNat hlt
  rw [hzero] at hn
  exact absurd hn (by simpa using Nat.ne_of_lt hpos)

theorem ne_zero_of_mem_utf8EncodeChar {c : Char} (hc : c ≠ Char.ofNat 0) :
    ∀ b ∈ String.utf8EncodeChar c, b ≠ 0 := by
  have hpos : 0 < c.val.toNat := by
    apply Nat.pos_of_ne_zero
    intro hzero
    exact hc (by rw [← c.ofNat_toNat, Char.toNat, hzero])
  unfold String.utf8EncodeChar
  generalize c.val.toNat = n at hpos
  dsimp only
  repeat' split
  all_goals
    simp only [List.forall_mem_cons, List.not_mem_nil, false_implies, implies_true, and_true]
    and_intros
  all_goals exact ofNat_ne_zero (by omega) (by omega)

theorem ne_zero_of_mem_encode {s : String} (hs : Char.ofNat 0 ∉ s.toList) :
    ∀ b ∈ encode s, b ≠ 0 := by
  intro b hb
  obtain ⟨c, hc, hmem⟩ := List.mem_flatMap.mp hb
  exact ne_zero_of_mem_utf8EncodeChar (fun h => hs (h ▸ hc)) b hmem

end Messaging.Text.Utf8
