import Messaging.Proofs.Selector.Grammar

/-!
# What patterns accept

A text is like a pattern if it splits into the parts that the characters of the pattern stand for.
The places of a pattern are tried on all suffixes of a text at once, and the table of the suffixes of
a text is an entry for the text in front of the table of the text without its first character.  Main
statement: the places of a pattern accept exactly the texts that split.
-/

namespace Messaging.Selector.Wildcard

/-! ## Splits -/

/-- The text splits into the parts that the characters of the pattern stand for. -/
inductive Splits (escape : Option Char) : List Char → List Char → Prop where
  | nil : Splits escape [] []
  | run {cs text : List Char} (part : List Char) : some '%' ≠ escape → Splits escape cs text →
      Splits escape ('%' :: cs) (part ++ text)
  | one {cs text : List Char} (c : Char) : some '_' ≠ escape → Splits escape cs text →
      Splits escape ('_' :: cs) (c :: text)
  | escaped {e : Char} {cs text : List Char} (c : Char) : some e = escape → Splits escape cs text →
      Splits escape (e :: c :: cs) (c :: text)
  | plain {cs text : List Char} (c : Char) : some c ≠ escape → c ≠ '%' → c ≠ '_' →
      Splits escape cs text → Splits escape (c :: cs) (c :: text)

/-! ## The table of suffixes -/

theorem length_emptySuffixes (text : List Char) :
    (emptySuffixes text).length = text.length + 1 := by
  induction text with
  | nil => rfl
  | cons c text ih => simp [emptySuffixes, ih]

theorem length_someLater (bs : List Bool) : (someLater bs).length = bs.length := by
  induction bs with
  | nil => rfl
  | cons b bs ih => simp [someLater, ih]

theorem length_acceptSuffixes (text : List Char) (places : List Wildcard) :
    (acceptSuffixes text places).length = text.length + 1 := by
  induction places with
  | nil => exact length_emptySuffixes text
  | cons place places ih =>
      cases place with
      | run => rw [acceptSuffixes, length_someLater, ih]
      | one => simp [acceptSuffixes, ih]
      | exactly c => simp [acceptSuffixes, ih]

theorem acceptSuffixes_eq_cons (text : List Char) (places : List Wildcard) :
    acceptSuffixes text places = accepts places text :: (acceptSuffixes text places).tail := by
  have hlength := length_acceptSuffixes text places
  cases h : acceptSuffixes text places with
  | nil => simp [h] at hlength
  | cons b bs => simp [accepts, h]

theorem acceptSuffixes_nil (places : List Wildcard) :
    acceptSuffixes [] places = [accepts places []] := by
  have hlength := length_acceptSuffixes [] places
  rw [acceptSuffixes_eq_cons, List.length_cons] at hlength
  rw [acceptSuffixes_eq_cons, List.eq_nil_of_length_eq_zero (Nat.succ.inj hlength)]

theorem tail_acceptSuffixes (c : Char) (text : List Char) (places : List Wildcard) :
    (acceptSuffixes (c :: text) places).tail = acceptSuffixes text places := by
  induction places with
  | nil => rfl
  | cons place places ih =>
      have hwhole := acceptSuffixes_eq_cons (c :: text) places
      have hrest := acceptSuffixes_eq_cons text places
      rw [ih] at hwhole
      cases place with
      | run => simp [acceptSuffixes, hwhole, someLater]
      | one =>
          simp only [acceptSuffixes, hwhole]
          rw [hrest]
          simp
      | exactly d =>
          simp only [acceptSuffixes, hwhole]
          rw [hrest]
          simp

theorem acceptSuffixes_cons (c : Char) (text : List Char) (places : List Wildcard) :
    acceptSuffixes (c :: text) places =
      accepts places (c :: text) :: acceptSuffixes text places := by
  rw [acceptSuffixes_eq_cons, tail_acceptSuffixes]

/-! ## Places -/

section Accepts

variable (places : List Wildcard) (text : List Char)

theorem accepts_nil_iff : accepts [] text = true ↔ text = [] := by
  cases text <;> simp [accepts, acceptSuffixes, emptySuffixes]

theorem accepts_run_nil : accepts (run :: places) [] = accepts places [] := by
  rw [accepts, acceptSuffixes, acceptSuffixes_nil]
  simp [someLater]

theorem accepts_run_cons (c : Char) : accepts (run :: places) (c :: text) =
    (accepts places (c :: text) || accepts (run :: places) text) := by
  rw [accepts, acceptSuffixes, acceptSuffixes_cons]
  rfl

theorem accepts_run_iff : accepts (run :: places) text = true ↔
    ∃ part rest, text = part ++ rest ∧ accepts places rest = true := by
  induction text with
  | nil =>
      rw [accepts_run_nil]
      constructor
      · exact fun h => ⟨[], [], rfl, h⟩
      · rintro ⟨part, rest, hsplit, h⟩
        obtain ⟨rfl, rfl⟩ := List.append_eq_nil_iff.mp hsplit.symm
        exact h
  | cons c text ih =>
      rw [accepts_run_cons, Bool.or_eq_true, ih]
      constructor
      · rintro (h | ⟨part, rest, rfl, h⟩)
        · exact ⟨[], _, rfl, h⟩
        · exact ⟨c :: part, rest, rfl, h⟩
      · rintro ⟨part, rest, hsplit, h⟩
        cases part with
        | nil => exact .inl (hsplit ▸ h)
        | cons d part =>
            obtain ⟨rfl, rfl⟩ := List.cons.inj hsplit
            exact .inr ⟨part, rest, rfl, h⟩

theorem accepts_one_nil : accepts (one :: places) [] = false := by
  rw [accepts, acceptSuffixes, acceptSuffixes_nil]
  rfl

theorem accepts_one_cons (c : Char) :
    accepts (one :: places) (c :: text) = accepts places text := by
  rw [accepts, acceptSuffixes, acceptSuffixes_cons, acceptSuffixes_eq_cons]
  rfl

theorem accepts_one_iff : accepts (one :: places) text = true ↔
    ∃ c rest, text = c :: rest ∧ accepts places rest = true := by
  cases text with
  | nil => simp [accepts_one_nil]
  | cons c text =>
      rw [accepts_one_cons]
      constructor
      · exact fun h => ⟨c, text, rfl, h⟩
      · rintro ⟨_, _, ⟨⟩, h⟩
        exact h

theorem accepts_exactly_nil (c : Char) : accepts (exactly c :: places) [] = false := rfl

theorem accepts_exactly_cons (c d : Char) :
    accepts (exactly c :: places) (d :: text) = (d == c && accepts places text) := by
  rw [accepts, acceptSuffixes, acceptSuffixes_cons, acceptSuffixes_eq_cons]
  rfl

theorem accepts_exactly_iff (c : Char) : accepts (exactly c :: places) text = true ↔
    ∃ rest, text = c :: rest ∧ accepts places rest = true := by
  cases text with
  | nil => simp [accepts_exactly_nil]
  | cons d text =>
      rw [accepts_exactly_cons, Bool.and_eq_true, beq_iff_eq]
      constructor
      · rintro ⟨rfl, h⟩
        exact ⟨text, rfl, h⟩
      · rintro ⟨_, ⟨⟩, h⟩
        exact ⟨rfl, h⟩

end Accepts

/-! ## Patterns -/

/-- The places of a pattern accept exactly the texts that split. -/
theorem accepts_iff_splits {escape : Option Char} {cs : List Char} {places : List Wildcard}
    (h : compile? escape cs = some places) (text : List Char) :
    accepts places text = true ↔ Splits escape cs text := by
  fun_induction compile? escape cs generalizing places text with
  | case1 =>
      cases h
      rw [accepts_nil_iff]
      constructor
      · rintro rfl
        exact .nil
      · rintro ⟨⟩
        rfl
  | case2 => cases h
  | case3 c hc d rest ih =>
      obtain ⟨places, hrest, rfl⟩ := Option.map_eq_some_iff.mp h
      rw [accepts_exactly_iff]
      constructor
      · rintro ⟨text, rfl, haccepts⟩
        exact .escaped d hc ((ih hrest text).mp haccepts)
      · intro hsplits
        cases hsplits with
        | run part hrun _ => exact absurd hc hrun
        | one c hone _ => exact absurd hc hone
        | escaped _ _ hsplits => exact ⟨_, rfl, (ih hrest _).mpr hsplits⟩
        | plain _ hplain _ _ _ => exact absurd hc hplain
  | case4 rest hc ih =>
      obtain ⟨places, hrest, rfl⟩ := Option.map_eq_some_iff.mp h
      rw [accepts_run_iff]
      constructor
      · rintro ⟨part, text, rfl, haccepts⟩
        exact .run part hc ((ih hrest text).mp haccepts)
      · intro hsplits
        cases hsplits with
        | run part _ hsplits => exact ⟨part, _, rfl, (ih hrest _).mpr hsplits⟩
        | escaped _ he _ => exact absurd he hc
        | plain _ _ hrun _ _ => exact absurd rfl hrun
  | case5 rest hc _ ih =>
      obtain ⟨places, hrest, rfl⟩ := Option.map_eq_some_iff.mp h
      rw [accepts_one_iff]
      constructor
      · rintro ⟨c, text, rfl, haccepts⟩
        exact .one c hc ((ih hrest text).mp haccepts)
      · intro hsplits
        cases hsplits with
        | one c _ hsplits => exact ⟨c, _, rfl, (ih hrest _).mpr hsplits⟩
        | escaped _ he _ => exact absurd he hc
        | plain _ _ _ hone _ => exact absurd rfl hone
  | case6 c rest hc hrun hone ih =>
      obtain ⟨places, hrest, rfl⟩ := Option.map_eq_some_iff.mp h
      rw [accepts_exactly_iff]
      constructor
      · rintro ⟨text, rfl, haccepts⟩
        exact .plain c hc hrun hone ((ih hrest text).mp haccepts)
      · intro hsplits
        cases hsplits with
        | run _ _ _ => exact absurd rfl hrun
        | one _ _ _ => exact absurd rfl hone
        | escaped _ he _ => exact absurd he hc
        | plain _ _ _ _ hsplits => exact ⟨_, rfl, (ih hrest _).mpr hsplits⟩

end Messaging.Selector.Wildcard
