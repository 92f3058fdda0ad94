import Messaging.Proofs.Text.Utf8
import Messaging.Uri.Form

/-!
# Forms are read back

A form keeps every list of pairs of texts: the bytes that part texts and pairs are escaped inside
the texts, so reading finds the same parts, and what stands in an escape is the byte itself.
-/

namespace Messaging.Uri.Form

open Text

/-! ## Digits of an escape -/

theorem high_lt (b : UInt8) : b.toNat / 16 < 16 := Nat.div_lt_of_lt_mul b.toNat_lt

theorem low_lt (b : UInt8) : b.toNat % 16 < 16 := Nat.mod_lt _ (by decide)

theorem isPlain_hexDigit {n : Nat} (h : n < 16) : isPlain (hexDigit n) = true := by
  have hall : ∀ n < 16, isPlain (hexDigit n) = true := by decide
  exact hall n h

theorem hexValue?_hexDigit {n : Nat} (h : n < 16) : hexValue? (hexDigit n) = some n := by
  have hall : ∀ n < 16, hexValue? (hexDigit n) = some n := by decide
  exact hall n h

/-! ## Bytes that are written -/

def isWritten (b : UInt8) : Bool := isPlain b || b == plus || b == percent

theorem isWritten_encodeByte (a : UInt8) : ∀ b ∈ encodeByte a, isWritten b = true := by
  unfold encodeByte
  split
  next hplain => simp [isWritten, hplain]
  split
  next => simp [isWritten]
  next => simp [escape, isWritten, isPlain_hexDigit (high_lt a), isPlain_hexDigit (low_lt a)]

theorem isWritten_encodeText (s : String) : ∀ b ∈ encodeText s, isWritten b = true := by
  intro b hb
  obtain ⟨a, -, hmem⟩ := List.mem_flatMap.mp hb
  exact isWritten_encodeByte a b hmem

theorem ne_of_isWritten {b : UInt8} (h : isWritten b = true) : b ≠ ampersand ∧ b ≠ equals := by
  constructor <;> rintro rfl <;> exact absurd h (by decide)

/-! ## Texts -/

def spaced (b : UInt8) : UInt8 := if b = plus then space else b

theorem ne_of_isPlain {b : UInt8} (h : isPlain b = true) : b ≠ plus ∧ b ≠ percent := by
  constructor <;> rintro rfl <;> exact absurd h (by decide)

theorem spaced_of_isPlain {b : UInt8} (h : isPlain b = true) : spaced b = b :=
  if_neg (ne_of_isPlain h).1

theorem map_spaced_escape (b : UInt8) : (escape b).map spaced = escape b := by
  have hhigh := spaced_of_isPlain (isPlain_hexDigit (high_lt b))
  have hlow := spaced_of_isPlain (isPlain_hexDigit (low_lt b))
  have hpercent : spaced percent = percent := by decide
  simp only [escape, List.map_cons, List.map_nil, hpercent, hhigh, hlow]

theorem unescape_cons_of_ne {a : UInt8} (h : a ≠ percent) (rest : List UInt8) :
    unescape (a :: rest) = a :: unescape rest := by
  rw [unescape.eq_def]
  exact if_neg h

theorem unescape_escape (b : UInt8) (rest : List UInt8) :
    unescape (escape b ++ rest) = b :: unescape rest := by
  have hbyte : b.toNat / 16 * 16 + b.toNat % 16 = b.toNat := Nat.div_add_mod' b.toNat 16
  simp [escape, unescape, hexValue?_hexDigit (high_lt b), hexValue?_hexDigit (low_lt b), hbyte]

theorem unescape_encodeByte (b : UInt8) (rest : List UInt8) :
    unescape ((encodeByte b).map spaced ++ rest) = b :: unescape rest := by
  unfold encodeByte
  split
  next hplain =>
    rw [List.map_singleton, spaced_of_isPlain hplain]
    exact unescape_cons_of_ne (ne_of_isPlain hplain).2 rest
  split
  next hspace =>
    subst hspace
    exact unescape_cons_of_ne (by decide) rest
  next => rw [map_spaced_escape, unescape_escape]

theorem unescape_flatMap (bytes : List UInt8) :
    unescape ((bytes.flatMap encodeByte).map spaced) = bytes := by
  induction bytes with
  | nil => rfl
  | cons b bytes ih => rw [List.flatMap_cons, List.map_append, unescape_encodeByte, ih]

theorem decodeText_encodeText (s : String) : decodeText (encodeText s) = s := by
  change Utf8.decodeLossy (unescape ((encodeText s).map spaced)) = s
  rw [encodeText, unescape_flatMap, Utf8.decodeLossy_encode]

/-! ## Separators -/

theorem split_eq_splitOn (separator : UInt8) (bytes : List UInt8) :
    split separator bytes = bytes.splitOn separator := by
  induction bytes with
  | nil => rfl
  | cons b bytes ih =>
      rw [split, ih, List.splitOn, List.splitOn, List.splitOnP_cons_eq_if_modifyHead]
      cases hparts : bytes.splitOnP (· == separator) with
      | nil => exact absurd hparts (List.splitOnP_ne_nil _ _)
      | cons part parts => simp

theorem cut_append {separator : UInt8} {key : List UInt8} (h : separator ∉ key)
    (value : List UInt8) : cut separator (key ++ separator :: value) = (key, value) := by
  have hkey : ∀ b ∈ key, (b != separator) = true := fun b hb =>
    bne_iff_ne.mpr (ne_of_mem_of_not_mem hb h)
  simp [cut, List.takeWhile_append_of_pos hkey, List.dropWhile_append_of_pos hkey]

/-! ## Pairs -/

theorem decodePair_encodePair (pair : String × String) : decodePair (encodePair pair) = pair := by
  have hkey : equals ∉ encodeText pair.1 := fun hmem =>
    (ne_of_isWritten (isWritten_encodeText _ _ hmem)).2 rfl
  simp [decodePair, encodePair, cut_append hkey, decodeText_encodeText]

theorem ampersand_not_mem_encodePair (pair : String × String) : ampersand ∉ encodePair pair := by
  have htext : ∀ s, ampersand ∉ encodeText s := fun s hmem =>
    (ne_of_isWritten (isWritten_encodeText s _ hmem)).1 rfl
  have hequals : ampersand ≠ equals := by decide
  simp [encodePair, htext, hequals]

theorem split_encode {pairs : List (String × String)} (h : pairs ≠ []) :
    split ampersand (encode pairs) = pairs.map encodePair := by
  rw [split_eq_splitOn, encode, List.splitOn_intercalate ampersand _ (by simpa using h)]
  intro part hpart
  obtain ⟨pair, -, rfl⟩ := List.mem_map.mp hpart
  exact ampersand_not_mem_encodePair pair

theorem decode_encode (pairs : List (String × String)) : decode (encode pairs) = pairs := by
  by_cases h : pairs = []
  · subst h
    rfl
  · -- a pair has an equals sign at least, so no part is taken for an empty one
    have hkept : (pairs.map encodePair).filter (!·.isEmpty) = pairs.map encodePair := by
      rw [List.filter_eq_self]
      intro part hpart
      obtain ⟨pair, -, rfl⟩ := List.mem_map.mp hpart
      simp [encodePair]
    rw [decode, split_encode h, hkept, List.map_map]
    simp [Function.comp_def, decodePair_encodePair]

/-! ## The text of a form -/

def text (pairs : List (String × String)) : String :=
  String.ofList ((encode pairs).map fun b => Char.ofNat b.toNat)

def isCarried (b : UInt8) : Bool := isWritten b || b == ampersand || b == equals

theorem isCarried_encodePair (pair : String × String) :
    ∀ b ∈ encodePair pair, isCarried b = true := by
  have htext : ∀ s, ∀ b ∈ encodeText s, isCarried b = true := fun s b hb => by
    simp [isCarried, isWritten_encodeText s b hb]
  intro b hb
  rcases List.mem_append.mp hb with hkey | hvalue
  · exact htext _ b hkey
  rcases List.mem_cons.mp hvalue with rfl | hvalue
  · decide
  · exact htext _ b hvalue

theorem isCarried_encode (pairs : List (String × String)) :
    ∀ b ∈ encode pairs, isCarried b = true := by
  induction pairs with
  | nil => simp [encode]
  | cons pair pairs ih =>
      cases pairs with
      | nil => simpa [encode] using isCarried_encodePair pair
      | cons next pairs =>
          rw [encode, List.map_cons, List.map_cons, List.intercalate_cons_cons]
          intro b hb
          simp only [List.append_assoc, List.mem_append, List.mem_singleton] at hb
          rcases hb with hpair | rfl | hrest
          · exact isCarried_encodePair pair b hpair
          · decide
          · exact ih b hrest

theorem lt_of_isCarried {b : UInt8} (h : isCarried b = true) : b < 0x80 := by
  simp only [isCarried, isWritten, isPlain, plus, percent, ampersand, equals, Bool.or_eq_true,
    Bool.and_eq_true, decide_eq_true_eq, beq_iff_eq, UInt8.le_iff_toNat_le, ← UInt8.toNat_inj,
    UInt8.reduceToNat] at h
  have hnumber : b.toNat < 128 := by omega
  exact UInt8.lt_iff_toNat_lt.mpr hnumber

theorem encode_text (pairs : List (String × String)) : Utf8.encode (text pairs) = encode pairs :=
  Utf8.encode_ofBytes fun b hb => lt_of_isCarried (isCarried_encode pairs b hb)

theorem visible_text (pairs : List (String × String)) :
    ∀ c ∈ (text pairs).toList, 0x20 < c.toNat ∧ c ≠ '#' := by
  have hall : ∀ n < 0x80, isCarried (UInt8.ofNat n) = true →
      0x20 < (Char.ofNat n).toNat ∧ Char.ofNat n ≠ '#' := by decide
  intro c hc
  rw [text, String.toList_ofList] at hc
  obtain ⟨b, hb, rfl⟩ := List.mem_map.mp hc
  have hcarried := isCarried_encode pairs b hb
  exact hall b.toNat (UInt8.lt_iff_toNat_lt.mp (lt_of_isCarried hcarried)) (by simpa using hcarried)

end Messaging.Uri.Form
