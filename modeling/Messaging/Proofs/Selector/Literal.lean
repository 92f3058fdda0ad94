import Messaging.Proofs.Selector.Spelling
import Messaging.Proofs.Text.Numeral

/-!
# Where an integer ends

An integer is written in decimal or in hexadecimal digits, with or without the suffix of a long.  It
needs no space after it: it ends where white space, an operator, a comma or a parenthesis begins.
One case is apart.  The letter E is the mark of an exponent and also a hexadecimal digit, and a sign
after it is taken for the sign of an exponent in either case.
-/

namespace Messaging

open Number Text

/-! ## Hexadecimal numerals -/

namespace Number

def hexDigits : List (Char × Nat) := "0123456789abcdef".toList.zipIdx ++ "ABCDEF".toList.zipIdx 10

inductive HexSpells : List Char → Nat → Prop where
  | digit {c : Char} {d : Nat} : (c, d) ∈ hexDigits → HexSpells [c] d
  | snoc {cs : List Char} {c : Char} {n d : Nat} : HexSpells cs n → (c, d) ∈ hexDigits →
      HexSpells (cs ++ [c]) (n * 16 + d)

theorem hexDigit?_of_mem {c : Char} {d : Nat} (h : (c, d) ∈ hexDigits) : hexDigit? c = some d := by
  have hall : ∀ p ∈ hexDigits, hexDigit? p.1 = some p.2 := by decide
  exact hall _ h

theorem readHexFrom?_append (cs ds : List Char) (value : Nat) :
    readHexFrom? value (cs ++ ds) = (readHexFrom? value cs).bind fun n => readHexFrom? n ds := by
  induction cs generalizing value with
  | nil => rfl
  | cons c cs ih => cases h : hexDigit? c <;> simp [readHexFrom?, h, ih]

theorem readHex?_of_spells {cs : List Char} {n : Nat} (h : HexSpells cs n) :
    readHex? cs = some n := by
  have hread : readHexFrom? 0 cs = some n := by
    induction h with
    | digit hc => simp [readHexFrom?, hexDigit?_of_mem hc]
    | snoc _ hc ih => simp [readHexFrom?_append, ih, readHexFrom?, hexDigit?_of_mem hc]
  cases h <;> simpa [readHex?] using hread

theorem HexSpells.forall_mem {p : Char → Prop} (hp : ∀ x ∈ hexDigits, p x.1) {cs : List Char}
    {n : Nat} (h : HexSpells cs n) : ∀ c ∈ cs, p c := by
  induction h with
  | digit hc => simpa using hp _ hc
  | snoc _ hc ih =>
      intro d hd
      rcases List.mem_append.mp hd with hd | hd
      · exact ih d hd
      · exact List.mem_singleton.mp hd ▸ hp _ hc

theorem readHex?_of_mem {c : Char} (hc : hexDigit? c = none) (cs ds : List Char) :
    readHex? (cs ++ c :: ds) = none := by
  simp [readHex?, readHexFrom?_append, readHexFrom?, hc]

end Number

namespace Selector

/-! ## Spellings -/

def longSuffixes : List (List Char) := [[], ['l'], ['L']]

inductive IntegerSpelled : Nat → List Char → Prop where
  | decimal {ds suffix : List Char} : Digits ds → suffix ∈ longSuffixes →
      IntegerSpelled (placeValue ds) (ds ++ suffix)
  | hexadecimal {x : Char} {hs suffix : List Char} {n : Nat} : x = 'x' ∨ x = 'X' →
      HexSpells hs n → suffix ∈ longSuffixes → IntegerSpelled n ('0' :: x :: (hs ++ suffix))

/-- The characters that something else than a number starts with, or white space. -/
def delimits (c : Char) : Bool := isBlank c || "=<>+-*/,()".toList.contains c

/-- After the letter E comes a sign. -/
def TakesSign (w rest : List Char) : Prop :=
  (∃ c ∈ w.getLast?, c = 'e' ∨ c = 'E') ∧ ∃ c ∈ rest.head?, c = '+' ∨ c = '-'

instance (w rest : List Char) : Decidable (TakesSign w rest) :=
  decidable_of_iff
    (w.getLast?.any (fun c => c = 'e' ∨ c = 'E') ∧ rest.head?.any (fun c => c = '+' ∨ c = '-'))
    (by simp [TakesSign, Option.any_eq_true])

namespace Token

theorem trimEnd_append {p : Char → Bool} {cs suffix : List Char} (hcs : ∀ c ∈ cs, p c = false)
    (hsuffix : ∀ c ∈ suffix, p c = true) : trimEnd p (cs ++ suffix) = cs := by
  have hdrop : trimEnd p (cs ++ suffix) = trimEnd p cs := by
    rw [trimEnd, List.reverse_append, List.dropWhile_append_of_pos (by simpa using hsuffix),
      trimEnd]
  rw [hdrop, trimEnd_of_none hcs]

theorem isLongSuffix_of_mem {suffix : List Char} (h : suffix ∈ longSuffixes) :
    ∀ c ∈ suffix, isLongSuffix c = true := by
  have hall : ∀ s ∈ longSuffixes, s.all isLongSuffix = true := by decide
  exact List.all_eq_true.mp (hall _ h)

theorem isAlphanum_of_mem_hexDigits : ∀ x ∈ hexDigits, x.1.isAlphanum = true := by decide

theorem isLongSuffix_of_mem_hexDigits : ∀ x ∈ hexDigits, isLongSuffix x.1 = false := by decide

theorem readInt64?_of_digits {ds : List Char} (h : Digits ds) (hn : placeValue ds < 2 ^ 63) :
    readInt64? ds = some (Int64.ofNat (placeValue ds)) := by
  have hlow : Int64.minValue.toInt ≤ (placeValue ds : Int) :=
    Int.le_trans (by decide) (Int.natCast_nonneg _)
  have hhigh : (placeValue ds : Int) ≤ Int64.maxValue.toInt := by
    have : Int64.maxValue.toInt = 2 ^ 63 - 1 := rfl
    omega
  exact readInt64?_of_readInt? (readInt?_eq_some.mpr (.unsigned h)) hlow hhigh

theorem readInt64?_of_mark {x : Char} (hx : x = 'x' ∨ x = 'X') (cs : List Char) :
    readInt64? ('0' :: x :: cs) = none := by
  have hdigit : x.isDigit = false := by rcases hx with rfl | rfl <;> rfl
  simp [readInt64?, readBetween?, readInt?, readNat?, hdigit]

theorem ofNumber?_decimal {ds suffix : List Char} (h : Digits ds) (hsuffix : suffix ∈ longSuffixes)
    (hn : placeValue ds < 2 ^ 63) :
    ofNumber? (ds ++ suffix) = some (integer (Int64.ofNat (placeValue ds))) := by
  have hdigits : ∀ c ∈ ds, isLongSuffix c = false := by
    intro c hc
    have hbounds := toNat_of_isDigit (isDigit_iff.mpr (h.2 c hc))
    rw [Bool.eq_false_iff]
    intro hsuffix
    simp [isLongSuffix] at hsuffix
    rcases hsuffix with rfl | rfl <;> simp at hbounds
  simp [ofNumber?, trimEnd_append hdigits (isLongSuffix_of_mem hsuffix), readInt64?_of_digits h hn]

theorem ofNumber?_hexadecimal {x : Char} {hs suffix : List Char} {n : Nat} (hx : x = 'x' ∨ x = 'X')
    (h : HexSpells hs n) (hsuffix : suffix ∈ longSuffixes) (hn : n < 2 ^ 63) :
    ofNumber? ('0' :: x :: (hs ++ suffix)) = some (integer (Int64.ofNat n)) := by
  have hplain : ∀ c ∈ '0' :: x :: hs, isLongSuffix c = false := by
    have hxs : isLongSuffix x = false := by rcases hx with rfl | rfl <;> rfl
    have hdigits : ∀ c ∈ hs, isLongSuffix c = false := h.forall_mem isLongSuffix_of_mem_hexDigits
    simpa [hxs] using ⟨(rfl : isLongSuffix '0' = false), hdigits⟩
  have htrim := trimEnd_append hplain (isLongSuffix_of_mem hsuffix)
  simp only [List.cons_append] at htrim
  have hread : readHexInteger? ('0' :: x :: hs) = some (Int64.ofNat n) := by
    rw [readHexInteger?, if_pos hx, readHex?_of_spells h, Option.filter_some,
      if_pos (by simpa using hn), Option.map_some]
  simp [ofNumber?, htrim, readInt64?_of_mark hx, hasHexMark, hx, hread]

theorem ofNumber?_spelled {n : Nat} {w : List Char} (h : IntegerSpelled n w) (hn : n < 2 ^ 63) :
    ofNumber? w = some (integer (Int64.ofNat n)) := by
  cases h with
  | decimal hds hsuffix => exact ofNumber?_decimal hds hsuffix hn
  | hexadecimal hx hhs hsuffix => exact ofNumber?_hexadecimal hx hhs hsuffix hn

theorem trimEnd_keep {p : Char → Bool} {c : Char} (hc : p c = false) (cs ds : List Char) :
    ∃ ds', trimEnd p (cs ++ c :: ds) = cs ++ c :: ds' := by
  refine ⟨trimEnd p ds, ?_⟩
  have hreverse : (cs ++ c :: ds).reverse = ds.reverse ++ c :: cs.reverse := by simp
  rw [trimEnd, hreverse, List.dropWhile_append]
  split <;> simp_all [trimEnd]

/-- A sign among hexadecimal digits makes a number that there is not. -/
theorem ofNumber?_sign {x sign : Char} (hx : x = 'x' ∨ x = 'X') (hsign : sign = '+' ∨ sign = '-')
    (hs more : List Char) : ofNumber? ('0' :: x :: (hs ++ sign :: more)) = none := by
  have hkept : isLongSuffix sign = false := by rcases hsign with rfl | rfl <;> rfl
  have hdigit : hexDigit? sign = none := by rcases hsign with rfl | rfl <;> decide
  obtain ⟨more', htrim⟩ := trimEnd_keep hkept ('0' :: x :: hs) more
  simp only [List.cons_append] at htrim
  have hread : readHexInteger? ('0' :: x :: (hs ++ sign :: more')) = none := by
    rw [readHexInteger?, if_pos hx, readHex?_of_mem hdigit]
    rfl
  simp [ofNumber?, htrim, readInt64?_of_mark hx, hasHexMark, hx, hread]

end Token

/-! ## Where a spelling ends -/

namespace IntegerSpelled

variable {n : Nat} {w : List Char}

theorem isAlphanum (h : IntegerSpelled n w) : ∀ c ∈ w, c.isAlphanum = true := by
  have hsuffix : ∀ s ∈ longSuffixes, s.all Char.isAlphanum = true := by decide
  cases h with
  | decimal hds hs =>
      rintro c hc
      rcases List.mem_append.mp hc with hc | hc
      · simp [Char.isAlphanum, isDigit_iff.mpr (hds.2 c hc)]
      · exact List.all_eq_true.mp (hsuffix _ hs) c hc
  | @hexadecimal x ds _ _ hx hds hs =>
      have hmark : x.isAlphanum = true := by rcases hx with rfl | rfl <;> rfl
      have hdigits : ∀ c ∈ ds, c.isAlphanum = true :=
        hds.forall_mem Token.isAlphanum_of_mem_hexDigits
      simp only [List.forall_mem_cons, List.forall_mem_append]
      exact ⟨rfl, hmark, hdigits, List.all_eq_true.mp (hsuffix _ hs)⟩

theorem eq_cons (h : IntegerSpelled n w) : ∃ c cs, w = c :: cs ∧ c.isDigit = true := by
  cases h with
  | @decimal ds suffix hds _ =>
      cases ds with
      | nil => exact absurd rfl hds.1
      | cons c ds => exact ⟨c, ds ++ suffix, rfl, isDigit_iff.mpr (hds.2 c List.mem_cons_self)⟩
  | hexadecimal => exact ⟨_, _, rfl, rfl⟩

theorem of_last_mark (h : IntegerSpelled n w) (hlast : ∃ c ∈ w.getLast?, c = 'e' ∨ c = 'E') :
    ∃ x hs, w = '0' :: x :: hs ∧ (x = 'x' ∨ x = 'X') := by
  obtain ⟨c, hc, hmark⟩ := hlast
  cases h with
  | @decimal ds suffix hds hs =>
      exfalso
      rcases List.mem_append.mp (List.mem_of_getLast? hc) with hmem | hmem
      · have hdigit := isDigit_iff.mpr (hds.2 c hmem)
        rcases hmark with rfl | rfl <;> cases hdigit
      · have hlong := Token.isLongSuffix_of_mem hs c hmem
        rcases hmark with rfl | rfl <;> cases hlong
  | @hexadecimal x hs _ _ hx _ _ => exact ⟨x, _, rfl, hx⟩

end IntegerSpelled

namespace Token

theorem continuesNumber_of_delimits {previous c : Char} (hc : delimits c = true)
    (hsign : ¬ ((previous = 'e' ∨ previous = 'E') ∧ (c = '+' ∨ c = '-'))) :
    continuesNumber previous c = false := by
  rcases Bool.or_eq_true_iff.mp hc with hblank | hsymbol
  · exact continuesNumber_of_isBlank previous hblank
  · have hplain : "=<>+-*/,()".toList.all (fun d => !d.isAlphanum && d != '.') = true := by decide
    have hkept := List.all_eq_true.mp hplain c (by simpa using hsymbol)
    obtain ⟨hword, hpoint⟩ : c.isAlphanum = false ∧ c ≠ '.' := by simpa using hkept
    simp only [continuesNumber, hword, Bool.false_or, Bool.or_eq_false_iff, beq_eq_false_iff_ne]
    refine ⟨hpoint, ?_⟩
    rw [← Bool.not_eq_true]
    simpa [and_comm] using hsign

/-- The last character of a spelling decides whether a number goes on after it. -/
theorem spanNumber_spelled {n : Nat} {c : Char} {cs : List Char} (h : IntegerSpelled n (c :: cs))
    {last : Char} (hlast : (c :: cs).getLast? = some last) (rest : List Char) :
    spanNumber c (cs ++ rest) = (cs ++ (spanNumber last rest).1, (spanNumber last rest).2) := by
  have hmore : ∀ d ∈ cs, d.isAlphanum = true := fun d hd =>
    h.isAlphanum d (List.mem_cons_of_mem _ hd)
  rw [List.getLast?_cons] at hlast
  rw [spanNumber_append hmore, Option.some.inj hlast]

theorem next_takesSign {n : Nat} {c : Char} {cs rest : List Char} (h : IntegerSpelled n (c :: cs))
    (hc : c.isDigit = true) (hsign : TakesSign (c :: cs) rest) :
    ∃ more, next c (cs ++ rest) = .error (.badNumber (String.ofList (c :: cs ++ more))) := by
  obtain ⟨⟨last, hlast, hmark⟩, sign, hhead, hsign⟩ := hsign
  obtain ⟨x, hs, heq, hx⟩ := h.of_last_mark ⟨last, hlast, hmark⟩
  obtain ⟨rest, rfl⟩ := List.head?_eq_some_iff.mp hhead
  have hcontinues : continuesNumber last sign = true := by
    rcases hmark with rfl | rfl <;> rcases hsign with rfl | rfl <;> rfl
  have hspan : (spanNumber last (sign :: rest)).1 = sign :: (spanNumber sign rest).1 := by
    simp [spanNumber, hcontinues]
  have hnone : ofNumber? (c :: (cs ++ sign :: (spanNumber sign rest).1)) = none := by
    rw [← List.cons_append, heq]
    exact ofNumber?_sign hx hsign hs _
  refine ⟨sign :: (spanNumber sign rest).1, ?_⟩
  rw [next_digit hc, spanNumber_spelled h hlast, hspan, hnone]
  rfl

theorem next_delimited {n : Nat} {c : Char} {cs rest : List Char} (h : IntegerSpelled n (c :: cs))
    (hc : c.isDigit = true) (hn : n < 2 ^ 63) (hrest : ∀ d ∈ rest.head?, delimits d = true)
    (hsign : ¬ TakesSign (c :: cs) rest) :
    next c (cs ++ rest) = .ok (some (integer (Int64.ofNat n)), rest) := by
  obtain ⟨last, hlast⟩ : ∃ last, (c :: cs).getLast? = some last := ⟨_, List.getLast?_cons⟩
  have hstop : spanNumber last rest = ([], rest) := by
    refine spanNumber_of_stop fun d hd => continuesNumber_of_delimits (hrest d hd) fun hmark => ?_
    exact hsign ⟨⟨last, hlast, hmark.1⟩, d, hd, hmark.2⟩
  rw [next_digit hc, spanNumber_spelled h hlast, hstop, List.append_nil, ofNumber?_spelled h hn]

end Token

/--
An integer and what begins after it have the tokens of the integer and of what begins there, unless
that is a sign after a letter E: then the integer is part of a number that there is not.
-/
theorem scan_integer {n : Nat} (hn : n < 2 ^ 63) {w rest : List Char} (hw : IntegerSpelled n w)
    (hrest : ∀ c ∈ rest.head?, delimits c = true) :
    (¬ TakesSign w rest →
      scan (w ++ rest) = (scan rest).map (.integer (Int64.ofNat n) :: ·)) ∧
    (TakesSign w rest →
      ∃ more, scan (w ++ rest) = .error (.badNumber (String.ofList (w ++ more)))) := by
  obtain ⟨c, cs, rfl, hc⟩ := hw.eq_cons
  constructor
  · intro hsign
    exact scan_of_token (Token.next_delimited hw hc hn hrest hsign)
  · intro hsign
    obtain ⟨more, hnext⟩ := Token.next_takesSign hw hc hsign
    exact ⟨more, scan_of_error hnext⟩

theorem spelled_thirty : IntegerSpelled 30 "0x1E".toList := by
  have hone : ('1', 1) ∈ hexDigits := by decide
  have hfourteen : ('E', 14) ∈ hexDigits := by decide
  have hnone : [] ∈ longSuffixes := by decide
  exact .hexadecimal (.inl rfl) (.snoc (.digit hone) hfourteen) hnone

theorem scan_integer_thirty :
    30 < 2 ^ 63 ∧ IntegerSpelled 30 "0x1E".toList ∧
    (∀ c ∈ "*2".toList.head?, delimits c = true) ∧ (∀ c ∈ "+2".toList.head?, delimits c = true) ∧
    scan "0x1E*2".toList = .ok [.integer 30, .star, .integer 2] ∧
    ∃ more, scan "0x1E+2".toList = .error (.badNumber (String.ofList ("0x1E".toList ++ more))) := by
  have hlarge : 30 < 2 ^ 63 := by decide
  have hstar : ∀ c ∈ "*2".toList.head?, delimits c = true := (Option.all_eq_true ..).mp (by decide)
  have hplus : ∀ c ∈ "+2".toList.head?, delimits c = true := (Option.all_eq_true ..).mp (by decide)
  have hproduct := (scan_integer hlarge spelled_thirty hstar).1 (by decide)
  have hsum := (scan_integer hlarge spelled_thirty hplus).2 (by decide)
  have hrest : scan "*2".toList = .ok [.star, .integer 2] := by cbv
  rw [hrest] at hproduct
  exact ⟨hlarge, spelled_thirty, hstar, hplus, hproduct, hsum⟩

/-- A sum that needs a space in it. -/
theorem sign_taken :
    ¬ ∀ (n : Nat) (w rest : List Char) (ts : List Token), n < 2 ^ 63 → IntegerSpelled n w →
      (∃ c ∈ rest.head?, delimits c = true) → scan rest = .ok ts →
      scan (w ++ rest) = .ok (.integer (Int64.ofNat n) :: ts) := by
  intro h
  have hrest : scan "+2".toList = .ok [.plus, .integer 2] := by cbv
  have hsum := h 30 _ _ _ (by decide) spelled_thirty ⟨'+', rfl, by decide⟩ hrest
  have hbad : scan "0x1E+2".toList = .error (.badNumber "0x1E+2") := by cbv
  exact absurd (hbad.symm.trans hsum) (by simp)

end Selector

end Messaging
