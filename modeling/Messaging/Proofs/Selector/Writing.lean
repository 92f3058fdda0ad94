import Messaging.Proofs.Selector.Parsing
import Messaging.Proofs.Selector.Spelling
import Messaging.Selector

/-!
# Writing

A tree written as text and parsed again is the same tree.  Parentheses stand where an operand binds
looser than its place asks for, and around any other subexpressions that the writer chooses.
-/

namespace Messaging.Selector

/-- The tightest level whose phrases the operator of a tree makes, without parentheses around it. -/
def Expr.level : Expr → Level
  | .literal _ | .identifier _ => .primary
  | .negate _ => .signed
  | .arith .mul .. | .arith .div .. => .product
  | .arith .add .. | .arith .sub .. => .sum
  | .compare .. | .isNull .. | .like .. | .between .. | .within .. => .predicate
  | .not _ => .negation
  | .and .. => .conjunction
  | .or .. => .disjunction

/-- The tokens of an operand in its place, in parentheses if it needs them or is chosen for them. -/
def placed (chosen : Expr → Bool) (place : Level) (e : Expr) (ts : List Token) : List Token :=
  if e.level.rank < place.rank ∨ chosen e then .openParen :: (ts ++ [.closeParen]) else ts

def Operand.token : Operand → Token
  | .null => .keyword .null
  | .boolean true => .keyword .true
  | .boolean false => .keyword .false
  | .integer n => .integer n
  | .decimal x => .decimal x
  | .text s => .text s

def Arithmetic.token : Arithmetic → Token
  | .add => .plus
  | .sub => .minus
  | .mul => .star
  | .div => .slash

def Arithmetic.places : Arithmetic → Level × Level
  | .add | .sub => (.sum, .product)
  | .mul | .div => (.product, .signed)

def escapeTokens : Option Char → List Token
  | some c => [.keyword .escape, .text (String.singleton c)]
  | none => []

def listTokens : List String → List Token
  | [] => []
  | s :: more => textList s more

def Expr.tokens (chosen : Expr → Bool) : Expr → List Token
  | .literal v => [v.token]
  | .identifier name => [.identifier name]
  | .not e => .keyword .not :: placed chosen .negation e (e.tokens chosen)
  | .and l r => placed chosen .conjunction l (l.tokens chosen) ++
      .keyword .and :: placed chosen .negation r (r.tokens chosen)
  | .or l r => placed chosen .disjunction l (l.tokens chosen) ++
      .keyword .or :: placed chosen .conjunction r (r.tokens chosen)
  | .compare op l r => placed chosen .sum l (l.tokens chosen) ++
      .comparison op :: placed chosen .sum r (r.tokens chosen)
  | .arith op l r => placed chosen op.places.1 l (l.tokens chosen) ++
      op.token :: placed chosen op.places.2 r (r.tokens chosen)
  | .negate e => .minus :: placed chosen .signed e (e.tokens chosen)
  | .isNull e negated => placed chosen .sum e (e.tokens chosen) ++
      .keyword .is :: (negator negated ++ [.keyword .null])
  | .like e pattern escape negated => placed chosen .sum e (e.tokens chosen) ++
      (negator negated ++ .keyword .like :: .text pattern :: escapeTokens escape)
  | .between e low high negated => placed chosen .sum e (e.tokens chosen) ++
      (negator negated ++ .keyword .between :: (placed chosen .sum low (low.tokens chosen) ++
        .keyword .and :: placed chosen .sum high (high.tokens chosen)))
  | .within e texts negated => placed chosen .sum e (e.tokens chosen) ++
      (negator negated ++ .keyword .within :: .openParen :: (listTokens texts ++ [.closeParen]))

/--
A tree that can be written: its names are names, its integers have no sign, its patterns end in no
escape that escapes nothing, its lists have a member, and it has no floating-point numbers.
-/
def Expr.Writable : Expr → Prop
  | .literal (.decimal _) => False
  | .literal (.integer n) => 0 ≤ n.toInt
  | .literal .null | .literal (.boolean _) | .literal (.text _) => True
  | .identifier name => IsName name
  | .not e | .negate e | .isNull e _ => e.Writable
  | .and l r | .or l r | .compare _ l r | .arith _ l r => l.Writable ∧ r.Writable
  | .like e pattern escape _ => e.Writable ∧ Wildcard.Paired escape pattern.toList
  | .between e low high _ => e.Writable ∧ low.Writable ∧ high.Writable
  | .within e texts _ => e.Writable ∧ texts ≠ []

def Expr.Written (chosen : Expr → Bool) (e : Expr) (source : String) : Prop :=
  Spaced (placed chosen .disjunction e (e.tokens chosen)) source.toList

/-! ## The tokens are a phrase -/

theorem Level.rank_injective {level level' : Level} (h : level.rank = level'.rank) :
    level = level' := by
  cases level <;> cases level' <;> first | rfl | cases h

theorem Phrase.step {level : Level} {ts : List Token} {e : Expr} (h : Phrase level ts e)
    (hrank : 0 < level.rank) : ∃ looser, looser.rank + 1 = level.rank ∧ Phrase looser ts e := by
  cases level with
  | disjunction => cases hrank
  | conjunction => exact ⟨_, rfl, h.conjunction⟩
  | negation => exact ⟨_, rfl, h.negation⟩
  | predicate => exact ⟨_, rfl, h.predicate⟩
  | sum => exact ⟨_, rfl, h.operand⟩
  | product => exact ⟨_, rfl, h.product⟩
  | signed => exact ⟨_, rfl, h.signed⟩
  | primary => exact ⟨_, rfl, h.primary⟩

theorem Phrase.loosen {level looser : Level} {ts : List Token} {e : Expr} (h : Phrase level ts e)
    (hrank : looser.rank ≤ level.rank) : Phrase looser ts e := by
  induction hn : level.rank - looser.rank generalizing level with
  | zero =>
      obtain rfl : level = looser := Level.rank_injective (by omega)
      exact h
  | succ n ih =>
      obtain ⟨between, hbetween, hphrase⟩ := h.step (by omega)
      exact ih hphrase (by omega) (by omega)

theorem phrase_placed {chosen : Expr → Bool} {e : Expr} {ts : List Token}
    (h : Phrase e.level ts e) (place : Level) : Phrase place (placed chosen place e ts) e := by
  unfold placed
  split
  · have hparens : Phrase .primary (.openParen :: (ts ++ [.closeParen])) e :=
      .parens (h.loosen (Nat.zero_le _))
    exact hparens.loosen (by cases place <;> decide)
  next hplace =>
    exact h.loosen (by simp at hplace; omega)

theorem phrase_tokens (chosen : Expr → Bool) {e : Expr} (h : e.Writable) :
    Phrase e.level (e.tokens chosen) e := by
  induction e with
  | literal v =>
      refine .atom ?_
      cases v with
      | boolean b => cases b <;> rfl
      | _ => rfl
  | identifier name => exact .atom rfl
  | not e ih => exact .not (phrase_placed (ih h) _)
  | and l r ihl ihr => exact .and (phrase_placed (ihl h.1) _) (phrase_placed (ihr h.2) _)
  | or l r ihl ihr => exact .or (phrase_placed (ihl h.1) _) (phrase_placed (ihr h.2) _)
  | compare op l r ihl ihr =>
      exact .compare op (phrase_placed (ihl h.1) _) (phrase_placed (ihr h.2) _)
  | arith op l r ihl ihr =>
      cases op with
      | add => exact .add (phrase_placed (ihl h.1) _) (phrase_placed (ihr h.2) _)
      | sub => exact .sub (phrase_placed (ihl h.1) _) (phrase_placed (ihr h.2) _)
      | mul => exact .mul (phrase_placed (ihl h.1) _) (phrase_placed (ihr h.2) _)
      | div => exact .div (phrase_placed (ihl h.1) _) (phrase_placed (ihr h.2) _)
  | negate e ih => exact .minus (phrase_placed (ih h) _)
  | isNull e negated ih => exact .isNull negated (phrase_placed (ih h) _)
  | like e pattern escape negated ih =>
      cases escape with
      | none => exact .like pattern negated (phrase_placed (ih h.1) _)
      | some c => exact .likeEscape pattern c negated (phrase_placed (ih h.1) _) h.2
  | between e low high negated ih ihlow ihhigh =>
      exact .between negated (phrase_placed (ih h.1) _) (phrase_placed (ihlow h.2.1) _)
        (phrase_placed (ihhigh h.2.2) _)
  | within e texts negated ih =>
      cases texts with
      | nil => exact absurd rfl h.2
      | cons first more => exact .within first more negated (phrase_placed (ih h.1) _)

/-! ## There is a way to write the tokens -/

theorem spaced_words {words : List (Token × List Char)} (h : ∀ p ∈ words, p.1.Spelled p.2) :
    Spaced (words.map Prod.fst) (words.flatMap fun p => ' ' :: p.2) := by
  induction words with
  | nil => exact .nil (by simp [Blank])
  | cons p words ih =>
      have hgap : Blank [' '] := by
        intro c hc
        obtain rfl := List.mem_singleton.mp hc
        decide
      have hapart : Apart (words.flatMap fun p => ' ' :: p.2) := by
        cases words with
        | nil => simp [Apart]
        | cons q words =>
            simp only [Apart, List.flatMap_cons, List.cons_append, List.head?_cons,
              Option.mem_some_iff, forall_eq']
            decide
      exact .cons hgap (h p (by simp)) hapart (ih fun q hq => h q (by simp [hq]))

theorem exists_spaced {ts : List Token} (h : ∀ t ∈ ts, ∃ w, t.Spelled w) : ∃ cs, Spaced ts cs := by
  have hwords : ∃ words : List (Token × List Char), words.map Prod.fst = ts ∧
      ∀ p ∈ words, p.1.Spelled p.2 := by
    induction ts with
    | nil => exact ⟨[], rfl, by simp⟩
    | cons t ts ih =>
        obtain ⟨w, hw⟩ := h t (by simp)
        obtain ⟨words, rfl, hwords⟩ := ih fun u hu => h u (by simp [hu])
        exact ⟨(t, w) :: words, rfl, List.forall_mem_cons.mpr ⟨hw, hwords⟩⟩
  obtain ⟨words, rfl, hwords⟩ := hwords
  exact ⟨_, spaced_words hwords⟩

def Token.Spellable : Token → Prop
  | .identifier name => IsName name
  | .integer n => 0 ≤ n.toInt
  | .decimal _ => False
  | _ => True

theorem Token.Spellable.exists_spelled {t : Token} (h : t.Spellable) : ∃ w, t.Spelled w := by
  cases t with
  | identifier name => exact ⟨_, .identifier h⟩
  | text s => exact ⟨_, .text s⟩
  | integer n => exact ⟨_, .integer h⟩
  | decimal x => cases h
  | keyword k => exact ⟨k.word.toList, .keyword (by cases k <;> decide)⟩
  | comparison op => exact ⟨_, .comparison op⟩
  | plus => exact ⟨_, .plus⟩
  | minus => exact ⟨_, .minus⟩
  | star => exact ⟨_, .star⟩
  | slash => exact ⟨_, .slash⟩
  | openParen => exact ⟨_, .openParen⟩
  | closeParen => exact ⟨_, .closeParen⟩
  | comma => exact ⟨_, .comma⟩

def Spellable (ts : List Token) : Prop := ∀ t ∈ ts, t.Spellable

@[simp] theorem spellable_nil : Spellable [] := by
  simp [Spellable]

@[simp] theorem spellable_cons {t : Token} {ts : List Token} :
    Spellable (t :: ts) ↔ t.Spellable ∧ Spellable ts := by
  simp [Spellable]

@[simp] theorem spellable_append {ts us : List Token} :
    Spellable (ts ++ us) ↔ Spellable ts ∧ Spellable us := by
  simp only [Spellable, List.mem_append, or_imp, forall_and]

@[simp] theorem spellable_negator (negated : Bool) : Spellable (negator negated) := by
  cases negated <;> simp [negator, Token.Spellable]

@[simp] theorem spellable_listTokens (texts : List String) : Spellable (listTokens texts) := by
  cases texts with
  | nil => exact spellable_nil
  | cons first more =>
      induction more with
      | nil => simp [listTokens, textList, Token.Spellable]
      | cons s more ih => simpa [listTokens, textList, Token.Spellable] using ih

@[simp] theorem spellable_placed {chosen : Expr → Bool} {place : Level} {e : Expr}
    {ts : List Token} : Spellable (placed chosen place e ts) ↔ Spellable ts := by
  unfold placed
  split <;> simp [Token.Spellable]

theorem spellable_tokens (chosen : Expr → Bool) {e : Expr} (h : e.Writable) :
    Spellable (e.tokens chosen) := by
  induction e with
  | literal v =>
      cases v with
      | boolean b => cases b <;> simp [Expr.tokens, Operand.token, Token.Spellable]
      | decimal x => cases h
      | null | text s => simp [Expr.tokens, Operand.token, Token.Spellable]
      | integer n => simpa [Expr.tokens, Operand.token, Token.Spellable, Expr.Writable] using h
  | identifier name => simpa [Expr.tokens, Token.Spellable, Expr.Writable] using h
  | not e ih | negate e ih | isNull e _ ih => simpa [Expr.tokens, Token.Spellable] using ih h
  | and l r ihl ihr | or l r ihl ihr | compare _ l r ihl ihr =>
      simpa [Expr.tokens, Token.Spellable] using ⟨ihl h.1, ihr h.2⟩
  | arith op l r ihl ihr =>
      cases op <;>
        simpa [Expr.tokens, Arithmetic.token, Token.Spellable] using ⟨ihl h.1, ihr h.2⟩
  | like e pattern escape negated ih =>
      cases escape <;> simpa [Expr.tokens, escapeTokens, Token.Spellable] using ih h.1
  | between e low high negated ih ihlow ihhigh =>
      simpa [Expr.tokens, Token.Spellable] using ⟨ih h.1, ihlow h.2.1, ihhigh h.2.2⟩
  | within e texts negated ih => simpa [Expr.tokens, Token.Spellable] using ih h.1

/--
Every tree that can be written and shows no value on its face can be written as a text, and parsing
any text that it is written as gives back the tree.
-/
theorem parse_written (chosen : Expr → Bool) {e : Expr} (h : e.Writable) (hvalued : ¬ e.Valued) :
    (∃ source, e.Written chosen source) ∧
      ∀ source, e.Written chosen source → parse source = .ok ⟨source, e⟩ := by
  constructor
  · obtain ⟨cs, hcs⟩ := exists_spaced fun t ht =>
      (spellable_placed.mpr (spellable_tokens chosen h) t ht).exists_spelled
    exact ⟨String.ofList cs, by simpa [Expr.Written] using hcs⟩
  · intro source hsource
    have hphrase : Phrase .disjunction (placed chosen .disjunction e (e.tokens chosen)) e :=
      phrase_placed (phrase_tokens chosen h) .disjunction
    have hparse := parseTokens_of_phrase hphrase ((Expr.isCondition_iff e).mpr hvalued)
    simp [parse, parseExpr, scan_spaced hsource, hparse]

def tangled : Expr :=
  .and (.not (.or (.compare .equal (.identifier "a.b") (.literal (.text "it's")))
      (.isNull (.identifier "c") true)))
    (.compare .less (.arith .mul (.arith .add (.identifier "d") (.literal (.integer 1)))
      (.negate (.literal (.integer 9223372036854775807)))) (.literal (.integer 0)))

def tangledWords : List (Token × String) :=
  [(.keyword .not, "nOt"), (.openParen, "("), (.identifier "a.b", "a.b"), (.comparison .equal, "="),
    (.text "it's", "'it''s'"), (.keyword .or, "OR"), (.identifier "c", "c"), (.keyword .is, "is"),
    (.keyword .not, "not"), (.keyword .null, "Null"), (.closeParen, ")"), (.keyword .and, "and"),
    (.openParen, "("), (.identifier "d", "d"), (.plus, "+"), (.integer 1, "1"), (.closeParen, ")"),
    (.star, "*"), (.minus, "-"), (.integer 9223372036854775807, "9223372036854775807"),
    (.comparison .less, "<"), (.integer 0, "0")]

def tangledText : String :=
  " nOt ( a.b = 'it''s' OR c is not Null ) and ( d + 1 ) * - 9223372036854775807 < 0"

theorem parse_written_tangled :
    tangled.Writable ∧ ¬ tangled.Valued ∧ tangled.Written (fun _ => false) tangledText ∧
      parse tangledText = .ok ⟨tangledText, tangled⟩ := by
  have hname : IsName "a.b" ∧ IsName "c" ∧ IsName "d" := by
    refine ⟨⟨⟨'a', ['.', 'b'], rfl, by decide, by simp; decide⟩, ?_⟩,
      ⟨⟨'c', [], rfl, by decide, by simp⟩, ?_⟩, ⟨⟨'d', [], rfl, by decide, by simp⟩, ?_⟩⟩ <;>
      intro k <;> cases k <;> decide
  have hone : 0 ≤ (1 : Int64).toInt := by decide
  have hlargest : 0 ≤ (9223372036854775807 : Int64).toInt := by decide
  have hzero : 0 ≤ (0 : Int64).toInt := by decide
  have hwritable : tangled.Writable :=
    ⟨⟨⟨hname.1, trivial⟩, hname.2.1⟩, ⟨⟨hname.2.2, hone⟩, hlargest⟩, hzero⟩
  have hvalued : ¬ tangled.Valued := by
    rw [← Expr.isCondition_iff]
    rfl
  have hkeyword : ∀ (k : Keyword) (w : String), w.toList.map Char.toUpper = k.word.toList →
      (Token.keyword k).Spelled w.toList := fun _ _ h => .keyword h
  have hwords : ∀ p ∈ tangledWords.map fun p => (p.1, p.2.toList), p.1.Spelled p.2 := by
    simp only [tangledWords, List.map_cons, List.map_nil, List.forall_mem_cons]
    refine ⟨hkeyword .not _ (by decide), .openParen, .identifier hname.1, .comparison .equal,
      .text "it's", hkeyword .or _ (by decide), .identifier hname.2.1, hkeyword .is _ (by decide),
      hkeyword .not _ (by decide), hkeyword .null _ (by decide), .closeParen,
      hkeyword .and _ (by decide), .openParen, .identifier hname.2.2, .plus, .integer hone,
      .closeParen, .star, .minus, .integer hlargest, .comparison .less, .integer hzero, by simp⟩
  have hwritten : tangled.Written (fun _ => false) tangledText := spaced_words hwords
  exact ⟨hwritable, hvalued, hwritten,
    (parse_written (fun _ => false) hwritable hvalued).2 _ hwritten⟩

end Messaging.Selector
