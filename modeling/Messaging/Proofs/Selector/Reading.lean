import Messaging.Proofs.Outcome
import Messaging.Proofs.Selector.Grammar
import Messaging.Selector.Parser

/-!
# Reading phrases

What the parser of a level reads off the front of some tokens is a phrase of that level, which
denotes the tree that it answers.  This holds whatever the parser for parentheses is, as long as
that reads phrases too.
-/

namespace Messaging.Selector

/-! ## The two checks on a tree -/

theorem Expr.isCondition_iff (e : Expr) : e.isCondition = true ↔ ¬ e.Valued := by
  constructor
  · intro h hvalued
    cases hvalued with
    | @literal v hv =>
        cases v with
        | boolean b => exact hv b rfl
        | _ => cases h
    | _ => cases h
  · intro h
    cases e with
    | literal v =>
        cases v with
        | boolean b => rfl
        | _ => exact absurd (.literal (by simp)) h
    | arith op l r => exact absurd (.arith op l r) h
    | negate e => exact absurd (.negate e) h
    | _ => rfl

theorem Wildcard.compile?_isSome_iff (escape : Option Char) (cs : List Char) :
    (∃ places, compile? escape cs = some places) ↔ Paired escape cs := by
  constructor
  · rintro ⟨places, h⟩
    fun_induction compile? escape cs generalizing places with
    | case1 => exact .nil
    | case2 => cases h
    | case3 c hc d rest ih =>
        obtain ⟨places', h', -⟩ := Option.map_eq_some_iff.mp h
        exact .escaped hc (ih places' h')
    | case4 rest hc ih | case5 rest hc _ ih | case6 c rest hc _ _ ih =>
        obtain ⟨places', h', -⟩ := Option.map_eq_some_iff.mp h
        exact .plain hc (ih places' h')
  · intro h
    induction h with
    | nil => exact ⟨[], rfl⟩
    | @plain c cs hc _ ih =>
        obtain ⟨places, hplaces⟩ := ih
        rw [compile?.eq_def]
        simp only [if_neg hc, hplaces, Option.map_some]
        split
        · exact ⟨_, rfl⟩
        · split <;> exact ⟨_, rfl⟩
    | @escaped c d cs hc _ ih =>
        obtain ⟨places, hplaces⟩ := ih
        rw [compile?, if_pos hc, hplaces]
        exact ⟨_, rfl⟩

theorem Wildcard.paired_none (cs : List Char) : Paired none cs := by
  induction cs with
  | nil => exact .nil
  | cons c cs ih => exact .plain (by simp) ih

namespace Parser

/-! ## What is read is a phrase -/

/-- What a parser reads off the front of the tokens is a phrase of a level. -/
def Sound (level : Level) (p : Parser) : Prop :=
  ∀ ⦃ts e rest⦄, p ts = .ok (e, rest) → ∃ us, ts = us ++ rest ∧ Phrase level us e

theorem Sound.length_le {level : Level} {p : Parser} (h : Sound level p) {ts rest : List Token}
    {e : Expr} (hp : p ts = .ok (e, rest)) : rest.length ≤ ts.length := by
  obtain ⟨us, rfl, -⟩ := h hp
  simp

/-- The operators of a level join its phrases with phrases of the level below, to the left. -/
def Joins (level below : Level) (join? : Token → Option (Expr → Expr → Expr)) : Prop :=
  ∀ ⦃t f⦄, join? t = some f → ∀ ⦃ts l us r⦄, Phrase level ts l → Phrase below us r →
    Phrase level (ts ++ t :: us) (f l r)

section Chains

variable {level below : Level} {operand : Parser} {join? : Token → Option (Expr → Expr → Expr)}

theorem Sound.chain (hoperand : Sound below operand) (hjoin : Joins level below join?) {n : Nat}
    {l e : Expr} {before ts rest : List Token} (hl : Phrase level before l)
    (h : chain operand join? n l ts = .ok (e, rest)) :
    ∃ us, ts = us ++ rest ∧ Phrase level (before ++ us) e := by
  fun_induction Parser.chain operand join? n l ts generalizing before with
  | case1 n l t ts f hf ih =>
      rw [bind_eq_ok] at h
      obtain ⟨⟨r, after⟩, hr, h⟩ := h
      obtain ⟨us, rfl, hus⟩ := hoperand hr
      obtain ⟨vs, rfl, hvs⟩ := ih r after (hjoin hf hl hus) h
      exact ⟨t :: (us ++ vs), by simp, by simpa using hvs⟩
  | case2 n l t ts hf =>
      cases h
      exact ⟨[], rfl, by simpa using hl⟩
  | case3 n l ts =>
      cases h
      exact ⟨[], rfl, by simpa using hl⟩

theorem Sound.chainOf (hoperand : Sound below operand) (hjoin : Joins level below join?)
    (hunit : ∀ ⦃ts e⦄, Phrase below ts e → Phrase level ts e) :
    Sound level (chainOf operand join?) := by
  intro ts e rest h
  rw [Parser.chainOf, bind_eq_ok] at h
  obtain ⟨⟨l, after⟩, hl, h⟩ := h
  obtain ⟨us, rfl, hus⟩ := hoperand hl
  obtain ⟨vs, rfl, hvs⟩ := hoperand.chain hjoin (hunit hus) h
  exact ⟨us ++ vs, by simp, hvs⟩

end Chains

theorem joins_disjunction : Joins .disjunction .conjunction disjunction? := by
  intro t f h
  unfold disjunction? at h
  split at h
  · cases h
    exact fun _ _ _ _ => .or
  · cases h

theorem joins_conjunction : Joins .conjunction .negation conjunction? := by
  intro t f h
  unfold conjunction? at h
  split at h
  · cases h
    exact fun _ _ _ _ => .and
  · cases h

theorem joins_sum : Joins .sum .product sum? := by
  intro t f h
  unfold sum? at h
  split at h
  · cases h
    exact fun _ _ _ _ => .add
  · cases h
    exact fun _ _ _ _ => .sub
  · cases h

theorem joins_product : Joins .product .signed product? := by
  intro t f h
  unfold product? at h
  split at h
  · cases h
    exact fun _ _ _ _ => .mul
  · cases h
    exact fun _ _ _ _ => .div
  · cases h

section Levels

variable {inner : Parser}

theorem Sound.primary (hinner : Sound .disjunction inner) : Sound .primary (primary inner) := by
  intro ts e rest h
  unfold Parser.primary at h
  cases ts with
  | nil => cases h
  | cons t ts =>
      cases t with
      | identifier | text | integer | decimal =>
          cases h
          exact ⟨[_], rfl, .atom rfl⟩
      | keyword k => cases k <;> cases h <;> exact ⟨[_], rfl, .atom rfl⟩
      | openParen =>
          dsimp only at h
          rw [bind_eq_ok] at h
          obtain ⟨⟨e', after⟩, he, h⟩ := h
          obtain ⟨us, rfl, hus⟩ := hinner he
          split at h
          next e' rest' heq =>
            cases heq
            cases h
            exact ⟨_, by simp, .parens hus⟩
          · cases h
          · cases h
      | comparison | plus | minus | star | slash | closeParen | comma => cases h

theorem Sound.unary (hinner : Sound .disjunction inner) : Sound .signed (unary inner) := by
  intro ts e rest h
  fun_induction Parser.unary inner ts generalizing e with
  | case1 ts ih =>
      rw [bind_eq_ok] at h
      obtain ⟨⟨e', after⟩, he, h⟩ := h
      cases h
      obtain ⟨us, rfl, hus⟩ := ih he
      exact ⟨.minus :: us, rfl, .minus hus⟩
  | case2 ts ih =>
      obtain ⟨us, rfl, hus⟩ := ih h
      exact ⟨.plus :: us, rfl, .plus hus⟩
  | case3 ts =>
      obtain ⟨us, rfl, hus⟩ := hinner.primary h
      exact ⟨us, rfl, .primary hus⟩

theorem Sound.multiplicative (hinner : Sound .disjunction inner) :
    Sound .product (multiplicative inner) :=
  hinner.unary.chainOf joins_product fun _ _ => .signed

theorem Sound.additive (hinner : Sound .disjunction inner) : Sound .sum (additive inner) :=
  hinner.multiplicative.chainOf joins_sum fun _ _ => .product

theorem literal_eq_ok {ts rest : List Token} {s : String} :
    literal ts = .ok (s, rest) ↔ ts = .text s :: rest := by
  unfold literal
  split <;> grind

theorem null_eq_ok {ts rest : List Token} : null ts = .ok rest ↔ ts = .keyword .null :: rest := by
  unfold null
  split <;> grind

theorem escape_eq_ok {ts rest : List Token} {c : Option Char} (h : escape ts = .ok (c, rest)) :
    (c = none ∧ ts = rest) ∨
      ∃ c', c = some c' ∧ ts = .keyword .escape :: .text (String.singleton c') :: rest := by
  unfold escape at h
  split at h
  · rw [bind_eq_ok] at h
    obtain ⟨⟨s, after⟩, hs, h⟩ := h
    rw [literal_eq_ok] at hs
    dsimp only at h
    split at h
    next c' hc =>
      cases h
      have hsingle : s = String.singleton c' := by
        rw [← String.ofList_toList (s := s), hc]
        rfl
      exact .inr ⟨c', rfl, by rw [hs, hsingle]⟩
    · cases h
  · cases h
    exact .inl ⟨rfl, rfl⟩

theorem moreTexts_eq_ok {ts rest : List Token} {more : List String}
    (h : moreTexts ts = .ok (more, rest)) :
    ts = (more.flatMap fun s => [.comma, .text s]) ++ rest := by
  fun_induction moreTexts ts generalizing more with
  | case1 s ts ih =>
      rw [bind_eq_ok] at h
      obtain ⟨⟨more', after⟩, hmore, h⟩ := h
      cases h
      simp [ih hmore]
  | case2 ts _ =>
      rw [bind_eq_ok] at h
      obtain ⟨⟨s, after⟩, hs, h⟩ := h
      cases h
      simp [literal_eq_ok.mp hs]
  | case3 ts =>
      cases h
      rfl

section Tests

variable {e e' : Expr} {negated : Bool} {before ts rest : List Token}

theorem phrase_of_like (he : Phrase .sum before e) (h : like e negated ts = .ok (e', rest)) :
    ∃ us, ts = us ++ rest ∧
      Phrase .predicate (before ++ (negator negated ++ .keyword .like :: us)) e' := by
  unfold like at h
  rw [bind_eq_ok] at h
  obtain ⟨⟨pattern, after⟩, hpattern, h⟩ := h
  rw [bind_eq_ok] at h
  obtain ⟨⟨escape, after'⟩, hescape, h⟩ := h
  dsimp only at h
  split at h
  next places hplaces =>
    cases h
    have hpaired := (Wildcard.compile?_isSome_iff escape _).mp ⟨places, hplaces⟩
    rw [literal_eq_ok] at hpattern
    rcases escape_eq_ok hescape with ⟨rfl, rfl⟩ | ⟨c, rfl, rfl⟩
    · exact ⟨[.text pattern], hpattern, .like pattern negated he⟩
    · exact ⟨[.text pattern, .keyword .escape, .text (String.singleton c)], hpattern,
        .likeEscape pattern c negated he hpaired⟩
  · cases h

theorem phrase_of_between (hinner : Sound .disjunction inner) (he : Phrase .sum before e)
    (h : between inner e negated ts = .ok (e', rest)) :
    ∃ us, ts = us ++ rest ∧
      Phrase .predicate (before ++ (negator negated ++ .keyword .between :: us)) e' := by
  unfold between at h
  rw [bind_eq_ok] at h
  obtain ⟨⟨low, after⟩, hlow, h⟩ := h
  obtain ⟨us, rfl, hus⟩ := hinner.additive hlow
  dsimp only at h
  split at h
  next after =>
    rw [bind_eq_ok] at h
    obtain ⟨⟨high, after'⟩, hhigh, h⟩ := h
    obtain ⟨vs, rfl, hvs⟩ := hinner.additive hhigh
    cases h
    exact ⟨us ++ .keyword .and :: vs, by simp, .between negated he hus hvs⟩
  · cases h

theorem phrase_of_within (he : Phrase .sum before e) (h : within e negated ts = .ok (e', rest)) :
    ∃ us, ts = us ++ rest ∧
      Phrase .predicate (before ++ (negator negated ++ .keyword .within :: us)) e' := by
  unfold within at h
  split at h
  next afterOpen =>
    rw [bind_eq_ok] at h
    obtain ⟨⟨first, after⟩, hfirst, h⟩ := h
    rw [bind_eq_ok] at h
    obtain ⟨⟨more, after'⟩, hmore, h⟩ := h
    rw [literal_eq_ok] at hfirst
    have hmore := moreTexts_eq_ok hmore
    dsimp only at h
    split at h
    next afterClose =>
      cases h
      refine ⟨.openParen :: (textList first more ++ [.closeParen]), ?_,
        .within first more negated he⟩
      simp [textList, hfirst, hmore]
    · cases h
    · cases h
  · cases h
  · cases h

theorem phrase_of_test (hinner : Sound .disjunction inner) (he : Phrase .sum before e)
    (h : test inner e negated ts = .ok (e', rest)) :
    ∃ us, ts = us ++ rest ∧ Phrase .predicate (before ++ (negator negated ++ us)) e' := by
  unfold test at h
  split at h
  next after =>
    obtain ⟨us, rfl, hus⟩ := phrase_of_like he h
    exact ⟨_, rfl, hus⟩
  next after =>
    obtain ⟨us, rfl, hus⟩ := phrase_of_between hinner he h
    exact ⟨_, rfl, hus⟩
  next after =>
    obtain ⟨us, rfl, hus⟩ := phrase_of_within he h
    exact ⟨_, rfl, hus⟩
  · cases negated with
    | true => cases h
    | false =>
        cases h
        exact ⟨[], rfl, by simpa [negator] using Phrase.operand he⟩

theorem phrase_of_predicateTail (hinner : Sound .disjunction inner) (he : Phrase .sum before e)
    (h : predicateTail inner e ts = .ok (e', rest)) :
    ∃ us, ts = us ++ rest ∧ Phrase .predicate (before ++ us) e' := by
  unfold predicateTail at h
  split at h
  next op after =>
    rw [bind_eq_ok] at h
    obtain ⟨⟨r, after'⟩, hr, h⟩ := h
    obtain ⟨us, rfl, hus⟩ := hinner.additive hr
    cases h
    exact ⟨.comparison op :: us, rfl, .compare op he hus⟩
  next after =>
    rw [bind_eq_ok] at h
    obtain ⟨after', hnull, h⟩ := h
    rw [null_eq_ok] at hnull
    cases h
    exact ⟨[.keyword .is, .keyword .not, .keyword .null], by simp [hnull], .isNull true he⟩
  next after _ =>
    rw [bind_eq_ok] at h
    obtain ⟨after', hnull, h⟩ := h
    rw [null_eq_ok] at hnull
    cases h
    exact ⟨[.keyword .is, .keyword .null], by simp [hnull], .isNull false he⟩
  next after =>
    obtain ⟨us, rfl, hus⟩ := phrase_of_test hinner he h
    exact ⟨.keyword .not :: us, rfl, by simpa [negator] using hus⟩
  next =>
    obtain ⟨us, rfl, hus⟩ := phrase_of_test hinner he h
    exact ⟨us, rfl, by simpa [negator] using hus⟩

end Tests

theorem Sound.predicate (hinner : Sound .disjunction inner) :
    Sound .predicate (predicate inner) := by
  intro ts e rest h
  rw [Parser.predicate, bind_eq_ok] at h
  obtain ⟨⟨l, after⟩, hl, h⟩ := h
  obtain ⟨us, rfl, hus⟩ := hinner.additive hl
  obtain ⟨vs, rfl, hvs⟩ := phrase_of_predicateTail hinner hus h
  exact ⟨us ++ vs, by simp, hvs⟩

theorem Sound.negation (hinner : Sound .disjunction inner) : Sound .negation (negation inner) := by
  intro ts e rest h
  fun_induction Parser.negation inner ts generalizing e with
  | case1 ts ih =>
      rw [bind_eq_ok] at h
      obtain ⟨⟨e', after⟩, he, h⟩ := h
      cases h
      obtain ⟨us, rfl, hus⟩ := ih he
      exact ⟨.keyword .not :: us, rfl, .not hus⟩
  | case2 ts =>
      obtain ⟨us, rfl, hus⟩ := hinner.predicate h
      exact ⟨us, rfl, .predicate hus⟩

theorem Sound.conjunction (hinner : Sound .disjunction inner) :
    Sound .conjunction (conjunction inner) :=
  hinner.negation.chainOf joins_conjunction fun _ _ => .negation

theorem Sound.disjunction (hinner : Sound .disjunction inner) :
    Sound .disjunction (disjunction inner) :=
  hinner.conjunction.chainOf joins_disjunction fun _ _ => .conjunction

end Levels

theorem sound_expression (depth : Nat) : Sound .disjunction (expression depth) := by
  induction depth with
  | zero =>
      intro ts e rest h
      cases h
  | succ depth ih => exact ih.disjunction

end Parser

end Messaging.Selector
