import Messaging.Proofs.Selector.Reading

/-!
# Parsing

The parser accepts exactly the phrases of the grammar, and answers with the tree that the phrase
denotes.  A phrase is read to its end when nothing that follows would continue it; for a chain of
operators this means that the parser comes to stand behind each operand with the tree of all that
was before.
-/

namespace Messaging.Selector

/-- The level of the phrases that a token goes on with, if it stands behind a finished phrase. -/
def Token.continues? : Token → Option Level
  | .keyword .or => some .disjunction
  | .keyword .and => some .conjunction
  | .comparison _ | .keyword .is | .keyword .not | .keyword .like | .keyword .escape
  | .keyword .between | .keyword .within => some .predicate
  | .plus | .minus => some .sum
  | .star | .slash => some .product
  | _ => none

def Token.opens : Token → Level
  | .keyword .not => .negation
  | .plus | .minus => .signed
  | _ => .primary

/-- Nothing at the front of the tokens goes on with a phrase of the level. -/
def Level.Stops (level : Level) (rest : List Token) : Prop :=
  ∀ t ∈ rest.head?, ∀ m, t.continues? = some m → m.rank < level.rank

theorem Level.Stops.mono {level tighter : Level} {rest : List Token} (h : level.Stops rest)
    (hrank : level.rank ≤ tighter.rank) : tighter.Stops rest :=
  fun t ht m hm => Nat.lt_of_lt_of_le (h t ht m hm) hrank

theorem Level.stops_nil (level : Level) : level.Stops [] := by
  simp [Stops]

theorem Level.stops_cons {level : Level} {t : Token} {rest : List Token} :
    level.Stops (t :: rest) ↔ ∀ m, t.continues? = some m → m.rank < level.rank := by
  simp [Stops]

theorem Phrase.opens {level : Level} {ts : List Token} {e : Expr} (h : Phrase level ts e) :
    ∃ t us, ts = t :: us ∧ level.rank ≤ t.opens.rank := by
  induction h with
  | conjunction _ ih | negation _ ih | predicate _ ih | operand _ ih | product _ ih | signed _ ih
  | primary _ ih =>
      obtain ⟨t, us, rfl, hrank⟩ := ih
      exact ⟨t, us, rfl, Nat.le_trans (by decide) hrank⟩
  | or _ _ ih | and _ _ ih | add _ _ ih | sub _ _ ih | mul _ _ ih | div _ _ ih =>
      obtain ⟨t, us, rfl, hrank⟩ := ih
      exact ⟨t, _, rfl, hrank⟩
  | compare _ _ _ ih | isNull _ _ ih | like _ _ _ ih | likeEscape _ _ _ _ _ ih
  | between _ _ _ _ ih | within _ _ _ _ ih =>
      obtain ⟨t, us, rfl, hrank⟩ := ih
      exact ⟨t, _, rfl, Nat.le_trans (by decide) hrank⟩
  | not _ _ => exact ⟨_, _, rfl, Nat.le_refl _⟩
  | minus _ _ | plus _ _ => exact ⟨_, _, rfl, Nat.le_refl _⟩
  | @atom t e ht =>
      refine ⟨t, [], rfl, ?_⟩
      cases t with
      | identifier | text | integer | decimal => exact Nat.le_refl _
      | keyword k => cases k <;> cases ht <;> exact Nat.le_refl _
      | comparison | plus | minus | star | slash | openParen | closeParen | comma => cases ht
  | parens _ _ => exact ⟨_, _, rfl, Nat.le_refl _⟩

namespace Parser

section Chains

variable {level below : Level} {operand : Parser} {join? : Token → Option (Expr → Expr → Expr)}

theorem chain_of_stops (hjoin : ∀ t f, join? t = some f → t.continues? = some level)
    {rest : List Token} (hstop : level.Stops rest) (n : Nat) (e : Expr) :
    chain operand join? n e rest = .ok (e, rest) := by
  cases rest with
  | nil => cases n <;> rfl
  | cons t rest =>
      cases n with
      | zero => rfl
      | succ n =>
          cases ht : join? t with
          | none => simp [chain, ht]
          | some f =>
              exact absurd (Level.stops_cons.mp hstop level (hjoin t f ht)) (Nat.lt_irrefl _)

/-- The number of operators that may follow does not matter if it is large enough. -/
theorem chain_fuel (hoperand : Sound below operand) {n m : Nat} {l : Expr} {ts : List Token}
    (hn : ts.length ≤ n) (hm : ts.length ≤ m) :
    chain operand join? n l ts = chain operand join? m l ts := by
  induction n generalizing m l ts with
  | zero =>
      obtain rfl : ts = [] := List.eq_nil_of_length_eq_zero (Nat.le_zero.mp hn)
      cases m <;> rfl
  | succ n ih =>
      cases ts with
      | nil => cases m <;> rfl
      | cons t ts =>
          obtain ⟨m, rfl⟩ : ∃ k, m = k + 1 := ⟨m - 1, by simp at hm; omega⟩
          cases ht : join? t with
          | none => simp [chain, ht]
          | some f =>
              simp only [chain, ht]
              cases hr : operand ts with
              | error e => rfl
              | ok r =>
                  have hle := hoperand.length_le hr
                  simp at hn hm
                  exact ih (by omega) (by omega)

theorem chain_join (hoperand : Sound below operand) {t : Token} {f : Expr → Expr → Expr}
    (ht : join? t = some f) {l r : Expr} {us rest : List Token}
    (hr : operand (us ++ rest) = .ok (r, rest)) :
    chain operand join? (t :: (us ++ rest)).length l (t :: (us ++ rest)) =
      chain operand join? rest.length (f l r) rest := by
  rw [List.length_cons, chain, ht]
  simp only [hr, ok_bind]
  exact chain_fuel hoperand (by simp) (Nat.le_refl _)

theorem chainOf_of_read {l : Expr} {ts rest : List Token}
    (h : operand (ts ++ rest) = .ok (l, rest)) :
    chainOf operand join? (ts ++ rest) = chain operand join? rest.length l rest := by
  rw [chainOf, h]
  rfl

end Chains

theorem continues_of_disjunction {t : Token} {f : Expr → Expr → Expr}
    (h : disjunction? t = some f) : t.continues? = some .disjunction := by
  unfold disjunction? at h
  split at h <;> first | rfl | cases h

theorem continues_of_conjunction {t : Token} {f : Expr → Expr → Expr}
    (h : conjunction? t = some f) : t.continues? = some .conjunction := by
  unfold conjunction? at h
  split at h <;> first | rfl | cases h

theorem continues_of_sum {t : Token} {f : Expr → Expr → Expr} (h : sum? t = some f) :
    t.continues? = some .sum := by
  unfold sum? at h
  split at h <;> first | rfl | cases h

theorem continues_of_product {t : Token} {f : Expr → Expr → Expr} (h : product? t = some f) :
    t.continues? = some .product := by
  unfold product? at h
  split at h <;> first | rfl | cases h

def ofLevel (inner : Parser) : Level → Parser
  | .disjunction => disjunction inner
  | .conjunction => conjunction inner
  | .negation => negation inner
  | .predicate => predicate inner
  | .sum => additive inner
  | .product => multiplicative inner
  | .signed => unary inner
  | .primary => primary inner

/-- What the parser of a level still does when it has the tree of all it has read. -/
def resume (inner : Parser) : Level → Expr → Parser
  | .disjunction, e => fun ts => chain (conjunction inner) disjunction? ts.length e ts
  | .conjunction, e => fun ts => chain (negation inner) conjunction? ts.length e ts
  | .sum, e => fun ts => chain (multiplicative inner) sum? ts.length e ts
  | .product, e => fun ts => chain (unary inner) product? ts.length e ts
  | .negation, e | .predicate, e | .signed, e | .primary, e => fun ts => .ok (e, ts)

def operandLevel : Level → Level
  | .disjunction => .conjunction
  | .conjunction => .negation
  | .sum => .product
  | .product => .signed
  | level => level

theorem rank_le_operandLevel (level : Level) : level.rank ≤ (operandLevel level).rank := by
  cases level <;> decide

theorem resume_of_stops {inner : Parser} {level : Level} {rest : List Token}
    (h : level.Stops rest) (e : Expr) : resume inner level e rest = .ok (e, rest) := by
  cases level with
  | disjunction => exact chain_of_stops (fun _ _ => continues_of_disjunction) h _ e
  | conjunction => exact chain_of_stops (fun _ _ => continues_of_conjunction) h _ e
  | sum => exact chain_of_stops (fun _ _ => continues_of_sum) h _ e
  | product => exact chain_of_stops (fun _ _ => continues_of_product) h _ e
  | negation | predicate | signed | primary => rfl

/-- The parser of a level reads the tokens to their end, and comes to stand there with the tree. -/
def Reads (inner : Parser) (level : Level) (ts : List Token) (e : Expr) : Prop :=
  ∀ rest, (operandLevel level).Stops rest →
    ofLevel inner level (ts ++ rest) = resume inner level e rest

theorem Reads.eq_ok {inner : Parser} {level : Level} {ts rest : List Token} {e : Expr}
    (h : Reads inner level ts e) (hstop : level.Stops rest) :
    ofLevel inner level (ts ++ rest) = .ok (e, rest) := by
  rw [h rest (hstop.mono (rank_le_operandLevel level)), resume_of_stops hstop]

section Phrases

variable {inner : Parser} {ts us : List Token} {e l r : Expr}

theorem Reads.join {level below : Level} {join? : Token → Option (Expr → Expr → Expr)}
    {f : Expr → Expr → Expr} {t : Token} (hsound : Sound below (ofLevel inner below))
    (hbelow : operandLevel level = below)
    (hresume : ∀ e ts, resume inner level e ts =
      chain (ofLevel inner below) join? ts.length e ts)
    (hjoin : join? t = some f) (ht : ∀ m, t.continues? = some m → m.rank < below.rank)
    (hl : Reads inner level ts l) (hr : Reads inner below us r) :
    Reads inner level (ts ++ t :: us) (f l r) := by
  intro rest hstop
  rw [hbelow] at hstop
  have hfirst : ofLevel inner level (ts ++ (t :: (us ++ rest))) =
      chain (ofLevel inner below) join? (t :: (us ++ rest)).length l (t :: (us ++ rest)) := by
    rw [hl _ (hbelow ▸ Level.stops_cons.mpr ht), hresume]
  rw [List.append_assoc, List.cons_append, hfirst,
    chain_join hsound hjoin (hr.eq_ok hstop), hresume]

theorem negation_of_predicate {t : Token} {ts : List Token}
    (h : Level.predicate.rank ≤ t.opens.rank) :
    negation inner (t :: ts) = predicate inner (t :: ts) := by
  rw [negation.eq_def]
  split
  next heq =>
    cases heq
    exact absurd h (by decide)
  · rfl

theorem unary_of_primary {t : Token} {ts : List Token} (h : Level.primary.rank ≤ t.opens.rank) :
    unary inner (t :: ts) = primary inner (t :: ts) := by
  rw [unary.eq_def]
  split
  next heq =>
    cases heq
    exact absurd h (by decide)
  next heq =>
    cases heq
    exact absurd h (by decide)
  · rfl

theorem predicate_of_read {rest : List Token} (h : Reads inner .sum ts e)
    (hstop : Level.sum.Stops rest) :
    predicate inner (ts ++ rest) = predicateTail inner e rest := by
  have hread : additive inner (ts ++ rest) = .ok (e, rest) := h.eq_ok hstop
  rw [predicate, hread]
  rfl

theorem predicateTail_of_stops {rest : List Token} (h : Level.predicate.Stops rest) :
    predicateTail inner e rest = .ok (e, rest) := by
  cases rest with
  | nil => rfl
  | cons t rest =>
      have ht := Level.stops_cons.mp h
      unfold predicateTail
      split
      next heq => cases heq; exact absurd (ht _ rfl) (by decide)
      next heq => cases heq; exact absurd (ht _ rfl) (by decide)
      next heq => cases heq; exact absurd (ht _ rfl) (by decide)
      next heq => cases heq; exact absurd (ht _ rfl) (by decide)
      next =>
        unfold test
        split
        next heq => cases heq; exact absurd (ht _ rfl) (by decide)
        next heq => cases heq; exact absurd (ht _ rfl) (by decide)
        next heq => cases heq; exact absurd (ht _ rfl) (by decide)
        next => rfl

theorem escape_of_stops {rest : List Token} (h : Level.predicate.Stops rest) :
    escape rest = .ok (none, rest) := by
  unfold escape
  split
  next heq => exact absurd (Level.stops_cons.mp h _ rfl) (by decide)
  · rfl

theorem Reads.tested {t : Token} {e' : Expr} (h : Reads inner .sum ts e)
    (ht : ∀ m, t.continues? = some m → m.rank < Level.sum.rank)
    (htail : ∀ rest, Level.predicate.Stops rest →
      predicateTail inner e (t :: (us ++ rest)) = .ok (e', rest)) :
    Reads inner .predicate (ts ++ t :: us) e' := by
  intro rest hstop
  rw [List.append_assoc]
  exact (predicate_of_read h (Level.stops_cons.mpr ht)).trans (htail rest hstop)

theorem Reads.negated {k : Keyword} (hk : k = .like ∨ k = .between ∨ k = .within) (negated : Bool)
    {e' : Expr} (h : Reads inner .sum ts e)
    (htest : ∀ rest, Level.predicate.Stops rest →
      test inner e negated (.keyword k :: (us ++ rest)) = .ok (e', rest)) :
    Reads inner .predicate (ts ++ (negator negated ++ .keyword k :: us)) e' := by
  cases negated with
  | true => exact h.tested (by decide) htest
  | false =>
      refine h.tested ?_ ?_
      · rcases hk with rfl | rfl | rfl <;> decide
      · rcases hk with rfl | rfl | rfl <;> exact htest

theorem moreTexts_of_close (more : List String) (rest : List Token) :
    moreTexts ((more.flatMap fun s => [.comma, .text s]) ++ .closeParen :: rest) =
      .ok (more, .closeParen :: rest) := by
  induction more with
  | nil => rfl
  | cons s more ih =>
      rw [List.flatMap_cons, List.append_assoc, List.cons_append, List.cons_append,
        List.nil_append, moreTexts, ih]
      rfl

theorem within_of_texts (first : String) (more : List String) (negated : Bool) (rest : List Token) :
    within e negated (.openParen :: (textList first more ++ .closeParen :: rest)) =
      .ok (.within e (first :: more) negated, rest) := by
  simp [within, textList, literal, moreTexts_of_close, pure, Except.pure]

theorem like_of_stops {rest : List Token} (pattern : String) (negated : Bool)
    (h : Level.predicate.Stops rest) :
    like e negated (.text pattern :: rest) = .ok (.like e pattern none negated, rest) := by
  obtain ⟨places, hplaces⟩ :=
    (Wildcard.compile?_isSome_iff none pattern.toList).mpr (Wildcard.paired_none _)
  simp [like, literal, escape_of_stops h, hplaces, pure, Except.pure]

theorem like_of_escape {c : Char} {pattern : String} (negated : Bool)
    (h : Wildcard.Paired (some c) pattern.toList) (rest : List Token) :
    like e negated (.text pattern :: .keyword .escape :: .text (String.singleton c) :: rest) =
      .ok (.like e pattern (some c) negated, rest) := by
  obtain ⟨places, hplaces⟩ := (Wildcard.compile?_isSome_iff (some c) pattern.toList).mpr h
  simp [like, literal, escape, hplaces, pure, Except.pure]

theorem between_of_read {vs rest : List Token} {low high : Expr} (negated : Bool)
    (hlow : Reads inner .sum us low) (hhigh : Reads inner .sum vs high)
    (hstop : Level.sum.Stops rest) :
    between inner e negated (us ++ .keyword .and :: (vs ++ rest)) =
      .ok (.between e low high negated, rest) := by
  have hread : additive inner (us ++ .keyword .and :: (vs ++ rest)) =
      .ok (low, .keyword .and :: (vs ++ rest)) :=
    hlow.eq_ok (Level.stops_cons.mpr (by simp [Token.continues?, Level.rank]))
  have hread' : additive inner (vs ++ rest) = .ok (high, rest) := hhigh.eq_ok hstop
  simp [between, hread, hread', pure, Except.pure]

theorem primary_of_atom {t : Token} (ht : t.atom? = some e) (rest : List Token) :
    primary inner (t :: rest) = .ok (e, rest) := by
  cases t with
  | identifier | text | integer | decimal =>
      cases ht
      rfl
  | keyword k => cases k <;> cases ht <;> rfl
  | comparison | plus | minus | star | slash | openParen | closeParen | comma => cases ht

theorem primary_of_parens {rest : List Token} (h : inner ts = .ok (e, .closeParen :: rest)) :
    primary inner (.openParen :: ts) = .ok (e, rest) := by
  unfold primary
  simp only [h, ok_bind]
  rfl

end Phrases

/-- With as many levels of parentheses as there are tokens, every phrase is read to its end. -/
theorem reads_phrase {level : Level} {ts : List Token} {e : Expr} (h : Phrase level ts e) :
    ∀ depth, ts.length ≤ depth → Reads (expression depth) level ts e := by
  induction h with
  | conjunction _ ih | negation _ ih | product _ ih | signed _ ih =>
      intro depth hlen rest hstop
      exact chainOf_of_read ((ih depth hlen).eq_ok hstop)
  | or _ _ ihl ihr =>
      intro depth hlen
      simp at hlen
      exact (ihl depth (by omega)).join (sound_expression depth).conjunction rfl (fun _ _ => rfl)
        rfl (by decide) (ihr depth (by omega))
  | and _ _ ihl ihr =>
      intro depth hlen
      simp at hlen
      exact (ihl depth (by omega)).join (sound_expression depth).negation rfl (fun _ _ => rfl) rfl
        (by decide) (ihr depth (by omega))
  | add _ _ ihl ihr | sub _ _ ihl ihr =>
      intro depth hlen
      simp at hlen
      exact (ihl depth (by omega)).join (sound_expression depth).multiplicative rfl
        (fun _ _ => rfl) rfl (by decide) (ihr depth (by omega))
  | mul _ _ ihl ihr | div _ _ ihl ihr =>
      intro depth hlen
      simp at hlen
      exact (ihl depth (by omega)).join (sound_expression depth).unary rfl (fun _ _ => rfl) rfl
        (by decide) (ihr depth (by omega))
  | predicate h ih =>
      -- The phrase does not start with `NOT`, so it is left to the next parser.
      intro depth hlen rest hstop
      obtain ⟨t, us, rfl, hrank⟩ := h.opens
      exact (negation_of_predicate hrank).trans ((ih depth hlen).eq_ok (hstop.mono (by decide)))
  | not _ ih =>
      intro depth hlen rest hstop
      have hread : negation (expression depth) (_ ++ rest) = .ok (_, rest) :=
        (ih depth (Nat.le_of_succ_le hlen)).eq_ok hstop
      simp [ofLevel, resume, negation, hread, pure, Except.pure]
  | operand _ ih =>
      intro depth hlen rest hstop
      exact (predicate_of_read (ih depth hlen) (hstop.mono (by decide))).trans
        (predicateTail_of_stops hstop)
  | compare op _ _ ihl ihr =>
      intro depth hlen
      simp at hlen
      refine (ihl depth (by omega)).tested (by simp [Token.continues?, Level.rank]) ?_
      intro rest hstop
      have hread : additive (expression depth) (_ ++ rest) = .ok (_, rest) :=
        (ihr depth (by omega)).eq_ok (hstop.mono (by decide))
      simp [predicateTail, hread, pure, Except.pure]
  | isNull negated _ ih =>
      intro depth hlen
      simp at hlen
      refine (ih depth (by omega)).tested (by decide) ?_
      intro rest _
      cases negated <;> rfl
  | like pattern negated _ ih =>
      intro depth hlen
      simp at hlen
      exact (ih depth (by omega)).negated (.inl rfl) negated fun _ => like_of_stops pattern negated
  | likeEscape pattern c negated _ hpaired ih =>
      intro depth hlen
      simp at hlen
      exact (ih depth (by omega)).negated (.inl rfl) negated fun rest _ =>
        like_of_escape negated hpaired rest
  | between negated _ _ _ ih ihlow ihhigh =>
      intro depth hlen
      simp at hlen
      refine (ih depth (by omega)).negated (.inr (.inl rfl)) negated ?_
      intro rest hstop
      rw [List.append_assoc]
      exact between_of_read negated (ihlow depth (by omega)) (ihhigh depth (by omega))
        (hstop.mono (by decide))
  | within first more negated _ ih =>
      intro depth hlen
      simp at hlen
      refine (ih depth (by omega)).negated (.inr (.inr rfl)) negated ?_
      intro rest _
      rw [List.cons_append, List.append_assoc]
      exact within_of_texts first more negated rest
  | primary h ih =>
      -- The phrase does not start with a sign, so it is left to the next parser.
      intro depth hlen rest hstop
      obtain ⟨t, us, rfl, hrank⟩ := h.opens
      exact (unary_of_primary hrank).trans ((ih depth hlen).eq_ok (hstop.mono (by decide)))
  | minus _ ih =>
      intro depth hlen rest hstop
      have hread : unary (expression depth) (_ ++ rest) = .ok (_, rest) :=
        (ih depth (Nat.le_of_succ_le hlen)).eq_ok hstop
      simp [ofLevel, resume, unary, hread, pure, Except.pure]
  | plus _ ih =>
      intro depth hlen rest hstop
      have hread : unary (expression depth) (_ ++ rest) = .ok (_, rest) :=
        (ih depth (Nat.le_of_succ_le hlen)).eq_ok hstop
      simp [ofLevel, resume, unary, hread]
  | atom ht =>
      intro depth hlen rest _
      exact primary_of_atom ht rest
  | @parens ts e _ ih =>
      -- Two of the tokens are the parentheses, which pays for the level of nesting.
      intro depth hlen rest _
      obtain ⟨depth, rfl⟩ : ∃ d, depth = d + 1 := ⟨depth - 1, by simp at hlen; omega⟩
      have hread : expression (depth + 1) (ts ++ .closeParen :: rest) =
          .ok (e, .closeParen :: rest) :=
        (ih depth (by simp at hlen; omega)).eq_ok (Level.stops_cons.mpr (by decide))
      rw [List.cons_append, List.append_assoc]
      exact primary_of_parens hread

end Parser

theorem phrase_of_parseTokens {ts : List Token} {e : Expr} (h : parseTokens ts = .ok e) :
    Phrase .disjunction ts e ∧ e.isCondition = true := by
  unfold parseTokens at h
  rw [bind_eq_ok] at h
  obtain ⟨⟨e', rest⟩, hread, h⟩ := h
  obtain ⟨us, rfl, hus⟩ := Parser.sound_expression _ hread
  split at h
  · cases h
  next heq =>
    cases heq
    split at h
    next hcondition =>
      cases h
      exact ⟨by simpa using hus, hcondition⟩
    · cases h

theorem parseTokens_of_phrase {ts : List Token} {e : Expr} (h : Phrase .disjunction ts e)
    (hcondition : e.isCondition = true) : parseTokens ts = .ok e := by
  have hread : Parser.expression (ts.length + 1) (ts ++ []) = .ok (e, []) :=
    (Parser.reads_phrase h ts.length (Nat.le_refl _)).eq_ok (Level.stops_nil _)
  rw [List.append_nil] at hread
  simp [parseTokens, hread, hcondition, pure, Except.pure]

/--
Tokens are parsed to a tree exactly if they are a phrase of the grammar that denotes the tree, and
the tree does not show on its face that its value is no truth.
-/
theorem parses_iff_phrase (ts : List Token) (e : Expr) :
    parseTokens ts = .ok e ↔ Phrase .disjunction ts e ∧ ¬ e.Valued := by
  rw [← Expr.isCondition_iff]
  constructor
  · exact phrase_of_parseTokens
  · rintro ⟨hphrase, hcondition⟩
    exact parseTokens_of_phrase hphrase hcondition

example : parseTokens [.keyword .not, .identifier "a", .keyword .between, .integer 1, .keyword .and,
    .integer 2, .keyword .and, .identifier "b"] =
      .ok (.and (.not (.between (.identifier "a") (.literal (.integer 1)) (.literal (.integer 2))
        false)) (.identifier "b")) := by
  rfl

end Messaging.Selector
