import Messaging.Selector.Lexer

/-!
# Spelling

How the tokens of a selector are written: keywords in any case, texts between quotes with their own
quotes doubled, integers in decimal digits, and white space between one token and the next.  The
scanner reads the tokens back from every such text.
-/

namespace Messaging.Text

/-! ## White space -/

theorem inRanges_of_disjoint {rs ss : List (Nat × Nat)} {n : Nat}
    (h : ∀ r ∈ rs, ∀ s ∈ ss, r.2 < s.1 ∨ s.2 < r.1) (hn : inRanges rs n = true) :
    inRanges ss n = false := by
  simp only [inRanges, List.any_eq_true, Bool.and_eq_true, decide_eq_true_eq] at hn
  obtain ⟨r, hr, hlow, hhigh⟩ := hn
  rw [inRanges, List.any_eq_false]
  intro s hs
  simp only [Bool.and_eq_true, decide_eq_true_eq]
  have := h r hr s hs
  omega

theorem toNat_of_isBlank {c : Char} (h : isBlank c = true) : c.toNat ≤ 32 ∨ 132 < c.toNat := by
  have hranges : inRanges [(33, 132)] c.toNat = false := inRanges_of_disjoint (by decide) h
  simp [inRanges] at hranges
  omega

theorem toNat_of_isDigit {c : Char} (h : c.isDigit = true) : 48 ≤ c.toNat ∧ c.toNat ≤ 57 :=
  Char.isDigit_iff_toNat.mp h

theorem toNat_of_isAlpha {c : Char} (h : c.isAlpha = true) :
    (65 ≤ c.toNat ∧ c.toNat ≤ 90) ∨ (97 ≤ c.toNat ∧ c.toNat ≤ 122) := by
  unfold Char.isAlpha Char.isUpper Char.isLower at h
  simpa [UInt32.le_iff_toNat_le] using h

theorem isAlphabetic_of_isBlank {c : Char} (h : isBlank c = true) : isAlphabetic c = false := by
  have hranges : inRanges alphabeticRanges c.toNat = false :=
    inRanges_of_disjoint (by decide +kernel) h
  have hletter : c.isAlpha = false := by
    rw [Bool.eq_false_iff]
    intro hletter
    have hblank := toNat_of_isBlank h
    have hletter := toNat_of_isAlpha hletter
    omega
  simp [isAlphabetic, hletter, hranges]

theorem isNumeric_of_isBlank {c : Char} (h : isBlank c = true) : isNumeric c = false := by
  have hranges : inRanges numericRanges c.toNat = false :=
    inRanges_of_disjoint (by decide +kernel) h
  have hdigit : c.isDigit = false := by
    rw [Bool.eq_false_iff]
    intro hdigit
    have hblank := toNat_of_isBlank h
    have hdigit := toNat_of_isDigit hdigit
    omega
  simp [isNumeric, hdigit, hranges]

end Messaging.Text

namespace Messaging.Selector

open Text Number

def Blank (cs : List Char) : Prop := ∀ c ∈ cs, isBlank c = true

/-- What follows a word does not touch it: it starts with white space, if it is anything at all. -/
def Apart (rest : List Char) : Prop := ∀ c ∈ rest.head?, isBlank c = true

/-- A name of a header or a property: a word that is no keyword in any case. -/
def IsName (name : String) : Prop :=
  (∃ c cs, name.toList = c :: cs ∧ Token.startsWord c = true ∧
    ∀ d ∈ cs, Token.continuesWord d = true) ∧
  ∀ k : Keyword, name.toList.map Char.toUpper ≠ k.word.toList

namespace Token

def doubled (s : List Char) : List Char := s.flatMap fun c => if c = quote then [c, c] else [c]

inductive Spelled : Token → List Char → Prop where
  | identifier {name : String} : IsName name → Spelled (identifier name) name.toList
  | text (s : String) : Spelled (text s) (quote :: (doubled s.toList ++ [quote]))
  | integer {n : Int64} : 0 ≤ n.toInt → Spelled (integer n) (intText n.toInt)
  | keyword {k : Keyword} {w : List Char} : w.map Char.toUpper = k.word.toList →
      Spelled (keyword k) w
  | comparison (op : Comparison) : Spelled (comparison op) op.symbol.toList
  | plus : Spelled plus ['+']
  | minus : Spelled minus ['-']
  | star : Spelled star ['*']
  | slash : Spelled slash ['/']
  | openParen : Spelled openParen ['(']
  | closeParen : Spelled closeParen [')']
  | comma : Spelled comma [',']

end Token

/-- The text is made up of the words of the tokens with white space between them. -/
inductive Spaced : List Token → List Char → Prop where
  | nil {gap : List Char} : Blank gap → Spaced [] gap
  | cons {t : Token} {ts : List Token} {gap w rest : List Char} : Blank gap → t.Spelled w →
      Apart rest → Spaced ts rest → Spaced (t :: ts) (gap ++ (w ++ rest))

/-! ## Where a word ends -/

private theorem ne_of_test {p : Char → Bool} {c d : Char} (hc : p c = true) (hd : p d = false) :
    c ≠ d := by
  rintro rfl
  simp [hc] at hd

namespace Token

theorem continuesWord_of_isBlank {c : Char} (h : isBlank c = true) : continuesWord c = false := by
  simp [continuesWord, isAlphanumeric, isAlphabetic_of_isBlank h, isNumeric_of_isBlank h,
    ne_of_test (d := '_') h (by decide), ne_of_test (d := '$') h (by decide),
    ne_of_test (d := '.') h (by decide)]

theorem continuesNumber_of_isBlank (previous : Char) {c : Char} (h : isBlank c = true) :
    continuesNumber previous c = false := by
  have hletter := isAlphabetic_of_isBlank h
  have hdigit := isNumeric_of_isBlank h
  simp only [isAlphabetic, isNumeric, Bool.or_eq_false_iff] at hletter hdigit
  simp [continuesNumber, Char.isAlphanum, hletter.1, hdigit.1,
    ne_of_test (d := '.') h (by decide), ne_of_test (d := '+') h (by decide),
    ne_of_test (d := '-') h (by decide)]

/-! ## One token -/

theorem next_blank {c : Char} (h : isBlank c = true) (rest : List Char) :
    next c rest = .ok (none, rest) := by
  rw [next, if_pos h]

theorem startsWord_cases {c : Char} (h : startsWord c = true) :
    isBlank c = false ∧ ofChar? c = none ∧ c ≠ '<' ∧ c ≠ '>' ∧ c ≠ quote ∧ c.isDigit = false ∧
      c ≠ '.' := by
  refine ⟨?_, ?_, ne_of_test h (by decide), ne_of_test h (by decide), ne_of_test h (by decide), ?_,
    ne_of_test h (by decide)⟩
  · rw [Bool.eq_false_iff]
    intro hblank
    have := continuesWord_of_isBlank hblank
    simp only [startsWord, continuesWord, isAlphanumeric, Bool.or_eq_false_iff, Bool.or_eq_true]
      at h this
    simp_all
  · unfold ofChar?
    split <;> first | exact absurd h (by decide) | rfl
  · rw [Bool.eq_false_iff]
    intro hdigit
    have hdigit := toNat_of_isDigit hdigit
    simp only [startsWord, isAlphabetic, Bool.or_eq_true, Bool.and_eq_true, decide_eq_true_eq,
      beq_iff_eq] at h
    rcases h with ((hletter | ⟨hlarge, -⟩) | rfl) | rfl
    · have hletter := toNat_of_isAlpha hletter
      omega
    · omega
    · simp at hdigit
    · simp at hdigit

theorem next_word {c : Char} {cs rest : List Char} (hstart : startsWord c = true)
    (hcontinue : ∀ d ∈ cs, continuesWord d = true) (hrest : Apart rest) :
    next c (cs ++ rest) = .ok (some (ofWord (c :: cs)), rest) := by
  obtain ⟨hblank, hchar, hless, hgreater, hquote, hdigit, hpoint⟩ := startsWord_cases hstart
  have hstop : ∀ d ∈ rest.head?, continuesWord d = false :=
    fun d hd => continuesWord_of_isBlank (hrest d hd)
  have htake : (cs ++ rest).takeWhile continuesWord = cs := by
    rw [List.takeWhile_append_of_pos hcontinue]
    cases rest with
    | nil => simp
    | cons d rest => simp [hstop d (by simp)]
  have hdrop : (cs ++ rest).dropWhile continuesWord = rest := by
    rw [List.dropWhile_append_of_pos hcontinue]
    cases rest with
    | nil => rfl
    | cons d rest => simp [hstop d (by simp)]
  simp [next, hblank, hchar, hless, hgreater, hquote, startsNumber, hdigit, hpoint, hstart, htake,
    hdrop]

theorem ofWord_of_isName {name : String} (h : IsName name) :
    ofWord name.toList = identifier name := by
  have hnone : Keyword.ofWord? name.toList = none := by
    rw [Keyword.ofWord?, List.find?_eq_none]
    intro k _ heq
    exact h.2 k (eq_of_beq heq).symm
  rw [ofWord, hnone, String.ofList_toList]

theorem ofWord_of_keyword {k : Keyword} {w : List Char}
    (h : w.map Char.toUpper = k.word.toList) : ofWord w = keyword k := by
  have hfound : Keyword.ofWord? w = some k := by
    simp only [Keyword.ofWord?, h]
    cases k <;> decide
  rw [ofWord, hfound]

theorem isAlpha_of_mem_keyword {k : Keyword} {w : List Char}
    (h : w.map Char.toUpper = k.word.toList) : ∀ c ∈ w, c.isAlpha = true := by
  intro c hc
  have hupper : c.toUpper.isUpper = true := by
    have hmem : c.toUpper ∈ k.word.toList := h ▸ List.mem_map_of_mem hc
    have hall : k.word.toList.all Char.isUpper = true := by cases k <;> decide
    exact List.all_eq_true.mp hall _ hmem
  unfold Char.toUpper at hupper
  unfold Char.isAlpha Char.isLower
  split at hupper
  next hlower =>
    rw [Bool.or_eq_true, Bool.and_eq_true, decide_eq_true_eq, decide_eq_true_eq]
    exact .inr hlower
  next => rw [hupper, Bool.true_or]

/-! ### Numbers -/

/-- Letters and digits are taken in whatever follows them; the last of them decides about a sign. -/
theorem spanNumber_append {w : List Char} (hw : ∀ c ∈ w, c.isAlphanum = true) (previous : Char)
    (rest : List Char) :
    spanNumber previous (w ++ rest) =
      (w ++ (spanNumber (w.getLast?.getD previous) rest).1,
        (spanNumber (w.getLast?.getD previous) rest).2) := by
  induction w generalizing previous with
  | nil => rfl
  | cons c w ih =>
      have hc : continuesNumber previous c = true := by simp [continuesNumber, hw c (by simp)]
      simp [spanNumber, hc, ih fun d hd => hw d (by simp [hd]), List.getLast?_cons]

theorem spanNumber_of_stop {previous : Char} {rest : List Char}
    (h : ∀ c ∈ rest.head?, continuesNumber previous c = false) :
    spanNumber previous rest = ([], rest) := by
  cases rest with
  | nil => rfl
  | cons c rest => simp [spanNumber, h c (by simp)]

theorem spanNumber_of_digits {digits rest : List Char} (hdigits : ∀ d ∈ digits, d.isDigit = true)
    (hrest : Apart rest) (previous : Char) :
    spanNumber previous (digits ++ rest) = (digits, rest) := by
  have hwords : ∀ d ∈ digits, d.isAlphanum = true := by
    intro d hd
    simp [Char.isAlphanum, hdigits d hd]
  rw [spanNumber_append hwords,
    spanNumber_of_stop fun c hc => continuesNumber_of_isBlank _ (hrest c hc), List.append_nil]

theorem trimEnd_of_none {p : Char → Bool} {cs : List Char} (h : ∀ c ∈ cs, p c = false) :
    trimEnd p cs = cs := by
  have hdrop : ∀ ds : List Char, (∀ c ∈ ds, p c = false) → ds.dropWhile p = ds := by
    intro ds hds
    cases ds with
    | nil => rfl
    | cons d ds => simp [hds d (by simp)]
  rw [trimEnd, hdrop _ (by simpa using h), List.reverse_reverse]

theorem readInt64?_of_readInt? {cs : List Char} {n : Int} (h : readInt? cs = some n)
    (hlow : Int64.minValue.toInt ≤ n) (hhigh : n ≤ Int64.maxValue.toInt) :
    readInt64? cs = some (Int64.ofInt n) := by
  rw [readInt64?, readBetween?, h, Option.filter_some, if_pos, Option.map_some]
  rw [Bool.and_eq_true, decide_eq_true_eq, decide_eq_true_eq]
  exact ⟨hlow, hhigh⟩

theorem readInt64?_intText (n : Int64) : readInt64? (intText n.toInt) = some n := by
  have hhigh : n.toInt ≤ Int64.maxValue.toInt := Int.le_of_lt_add_one n.toInt_lt
  rw [readInt64?_of_readInt? (readInt?_intText n.toInt) n.le_toInt hhigh, Int64.ofInt_toInt]

theorem isDigit_of_mem_intText {n : Int} (hn : 0 ≤ n) : ∀ c ∈ intText n, c.isDigit = true := by
  intro c hc
  obtain ⟨k, rfl⟩ := Int.eq_ofNat_of_zero_le hn
  exact isDigit_of_mem_toDigits hc

theorem ofNumber?_intText {n : Int64} (hn : 0 ≤ n.toInt) :
    ofNumber? (intText n.toInt) = some (integer n) := by
  have htrim : trimEnd isLongSuffix (intText n.toInt) = intText n.toInt := by
    apply trimEnd_of_none
    intro c hc
    have hdigit := toNat_of_isDigit (isDigit_of_mem_intText hn c hc)
    rw [Bool.eq_false_iff]
    intro hsuffix
    simp [isLongSuffix] at hsuffix
    rcases hsuffix with rfl | rfl <;> simp at hdigit
  simp [ofNumber?, htrim, readInt64?_intText]

theorem isDigit_cases {c : Char} (h : c.isDigit = true) :
    isBlank c = false ∧ ofChar? c = none ∧ c ≠ '<' ∧ c ≠ '>' ∧ c ≠ quote := by
  refine ⟨?_, ?_, ne_of_test h (by decide), ne_of_test h (by decide), ne_of_test h (by decide)⟩
  · rw [Bool.eq_false_iff]
    intro hblank
    have hblank := toNat_of_isBlank hblank
    have hdigit := toNat_of_isDigit h
    omega
  · unfold ofChar?
    split <;> first | exact absurd h (by decide) | rfl

theorem next_digit {c : Char} (hc : c.isDigit = true) (rest : List Char) :
    next c rest =
      match ofNumber? (c :: (spanNumber c rest).1) with
      | some token => .ok (some token, (spanNumber c rest).2)
      | none => .error (.badNumber (String.ofList (c :: (spanNumber c rest).1))) := by
  obtain ⟨hblank, hchar, hless, hgreater, hquote⟩ := isDigit_cases hc
  have hangle : ¬ (c = '<' ∨ c = '>') := by simp [hless, hgreater]
  have hstart : startsNumber c rest = true := by simp [startsNumber, hc]
  rw [next, if_neg (by simp [hblank]), hchar]
  exact (if_neg hangle).trans ((if_neg hquote).trans (if_pos hstart))

theorem next_digits {c : Char} {cs rest : List Char} {t : Token}
    (hdigits : ∀ d ∈ c :: cs, d.isDigit = true) (hnumber : ofNumber? (c :: cs) = some t)
    (hrest : Apart rest) : next c (cs ++ rest) = .ok (some t, rest) := by
  have hmore : ∀ d ∈ cs, d.isDigit = true := fun d hd => hdigits d (List.mem_cons_of_mem _ hd)
  rw [next_digit (hdigits c (by simp)), spanNumber_of_digits hmore hrest c]
  simp [hnumber]

theorem next_integer {n : Int64} (hn : 0 ≤ n.toInt) {c : Char} {cs rest : List Char}
    (hc : intText n.toInt = c :: cs) (hrest : Apart rest) :
    next c (cs ++ rest) = .ok (some (integer n), rest) :=
  next_digits (hc ▸ isDigit_of_mem_intText hn) (hc ▸ ofNumber?_intText hn) hrest

/-! ### Texts -/

theorem readText?_cons_of_ne {c : Char} (h : c ≠ quote) (rest : List Char) :
    readText? (c :: rest) = (readText? rest).map fun p => (c :: p.1, p.2) := by
  rw [readText?.eq_def]
  simp [h]

theorem readText?_doubled (s : List Char) {rest : List Char} (hrest : Apart rest) :
    readText? (doubled s ++ quote :: rest) = some (s, rest) := by
  induction s with
  | nil =>
      cases rest with
      | nil => rfl
      | cons c rest =>
          have hc : c ≠ quote := ne_of_test (hrest c (by simp)) (by decide)
          simp [doubled, readText?, hc]
  | cons c s ih =>
      by_cases hc : c = quote
      · subst hc
        simpa [doubled, readText?] using ih
      · have hread : readText? (c :: (doubled s ++ quote :: rest)) = some (c :: s, rest) := by
          rw [readText?_cons_of_ne hc, ih]
          rfl
        simpa [doubled, hc] using hread

theorem next_text (s : String) {rest : List Char} (hrest : Apart rest) :
    next quote (doubled s.toList ++ quote :: rest) = .ok (some (text s), rest) := by
  have hblank : isBlank quote = false := by decide
  have hchar : ofChar? quote = none := by decide
  have hangle : ¬ (quote = '<' ∨ quote = '>') := by decide
  simp [next, hblank, hchar, hangle, readText?_doubled s.toList hrest]

/-! ### Symbols -/

theorem next_ofChar {c : Char} {t : Token} (hblank : isBlank c = false) (h : ofChar? c = some t)
    (rest : List Char) : next c rest = .ok (some t, rest) := by
  simp [next, hblank, h]

theorem next_angle {c : Char} (hc : c = '<' ∨ c = '>') (rest : List Char) :
    next c rest = .ok (some (readAngle c rest).1, (readAngle c rest).2) := by
  have hblank : isBlank c = false := by rcases hc with rfl | rfl <;> decide
  have hchar : ofChar? c = none := by rcases hc with rfl | rfl <;> rfl
  simp [next, hblank, hchar, hc]

theorem readAngle_of_apart {rest : List Char} (hrest : Apart rest) :
    readAngle '<' rest = (comparison .less, rest) ∧
      readAngle '>' rest = (comparison .greater, rest) := by
  cases rest with
  | nil => exact ⟨rfl, rfl⟩
  | cons c rest =>
      have hc := hrest c (by simp)
      have hgreater : c ≠ '>' := ne_of_test hc (by decide)
      have hequal : c ≠ '=' := ne_of_test hc (by decide)
      constructor <;> unfold readAngle <;> split <;> simp_all

/-- A word that stands apart from what follows is read as its token, whatever follows. -/
theorem next_spelled {t : Token} {w rest : List Char} (h : t.Spelled w) (hrest : Apart rest) :
    ∃ c cs, w = c :: cs ∧ next c (cs ++ rest) = .ok (some t, rest) := by
  cases h with
  | @identifier name hname =>
      obtain ⟨c, cs, hlist, hstart, hcontinue⟩ := hname.1
      refine ⟨c, cs, hlist, ?_⟩
      rw [next_word hstart hcontinue hrest, ← hlist, ofWord_of_isName hname]
  | text s =>
      refine ⟨quote, doubled s.toList ++ [quote], rfl, ?_⟩
      rw [List.append_assoc]
      exact next_text s hrest
  | @integer n hn =>
      cases hw : intText n.toInt with
      | nil =>
          have hread := readInt?_intText n.toInt
          rw [hw] at hread
          cases hread
      | cons c cs => exact ⟨c, cs, rfl, next_integer hn hw hrest⟩
  | @keyword k w hw =>
      have hletters := isAlpha_of_mem_keyword hw
      have hstart : ∀ c ∈ w, startsWord c = true := by
        intro c hc
        simp [startsWord, isAlphabetic, hletters c hc]
      have hcontinue : ∀ c ∈ w, continuesWord c = true := by
        intro c hc
        simp [continuesWord, isAlphanumeric, isAlphabetic, hletters c hc]
      cases w with
      | nil => cases k <;> cases hw
      | cons c cs =>
          refine ⟨c, cs, rfl, ?_⟩
          rw [next_word (hstart c (by simp)) (fun d hd => hcontinue d (List.mem_cons_of_mem _ hd))
            hrest, ofWord_of_keyword hw]
  | comparison op =>
      obtain ⟨hless, hgreater⟩ := readAngle_of_apart hrest
      cases op with
      | equal => exact ⟨'=', [], rfl, next_ofChar (by decide) rfl rest⟩
      | notEqual => exact ⟨'<', ['>'], rfl, next_angle (.inl rfl) _⟩
      | less =>
          refine ⟨'<', [], rfl, ?_⟩
          rw [List.nil_append, next_angle (.inl rfl), hless]
      | lessOrEqual => exact ⟨'<', ['='], rfl, next_angle (.inl rfl) _⟩
      | greater =>
          refine ⟨'>', [], rfl, ?_⟩
          rw [List.nil_append, next_angle (.inr rfl), hgreater]
      | greaterOrEqual => exact ⟨'>', ['='], rfl, next_angle (.inr rfl) _⟩
  | plus | minus | star | slash | openParen | closeParen | comma =>
      exact ⟨_, [], rfl, next_ofChar (by decide) rfl rest⟩

end Token

/-! ## All tokens -/

theorem scan_of_token {c : Char} {cs after : List Char} {t : Token}
    (h : Token.next c cs = .ok (some t, after)) : scan (c :: cs) = (scan after).map (t :: ·) := by
  rw [scan]
  split <;> simp_all

theorem scan_of_error {c : Char} {cs : List Char} {e : Error} (h : Token.next c cs = .error e) :
    scan (c :: cs) = .error e := by
  rw [scan]
  split <;> simp_all

theorem scan_of_blank {c : Char} (h : isBlank c = true) (cs : List Char) :
    scan (c :: cs) = scan cs := by
  have hnext := Token.next_blank h cs
  rw [scan]
  split <;> simp_all

theorem scan_blank_append {gap : List Char} (h : Blank gap) (cs : List Char) :
    scan (gap ++ cs) = scan cs := by
  induction gap with
  | nil => rfl
  | cons c gap ih =>
      rw [List.cons_append, scan_of_blank (h c (by simp))]
      exact ih fun d hd => h d (List.mem_cons_of_mem _ hd)

theorem scan_spelled {t : Token} {w rest : List Char} (h : t.Spelled w) (hrest : Apart rest) :
    scan (w ++ rest) = (scan rest).map (t :: ·) := by
  obtain ⟨c, cs, rfl, hnext⟩ := Token.next_spelled h hrest
  exact scan_of_token hnext

theorem scan_spaced {ts : List Token} {cs : List Char} (h : Spaced ts cs) : scan cs = .ok ts := by
  induction h with
  | @nil gap hgap =>
      rw [← List.append_nil gap, scan_blank_append hgap, scan]
  | @cons t ts gap w rest hgap hw hrest _ ih =>
      rw [scan_blank_append hgap, scan_spelled hw hrest, ih]
      rfl

end Messaging.Selector
