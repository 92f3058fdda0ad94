import Messaging.Selector.Expr
import Messaging.Selector.Wildcard

/-!
# The grammar of selectors

Which tokens make up a phrase, and the tree that a phrase denotes.  There is one kind of phrase for
each level of precedence.  Operators that join the phrases of one level group to the left, so a
phrase of that level is continued on its right by phrases of the next one.
-/

namespace Messaging.Selector

/-- A pattern in which every escape character has a character to escape. -/
inductive Wildcard.Paired (escape : Option Char) : List Char → Prop where
  | nil : Paired escape []
  | plain {c : Char} {cs : List Char} : some c ≠ escape → Paired escape cs → Paired escape (c :: cs)
  | escaped {c d : Char} {cs : List Char} : some c = escape → Paired escape cs →
      Paired escape (c :: d :: cs)

/-- The levels of precedence, the loosest first. -/
inductive Level where
  | disjunction
  | conjunction
  | negation
  | predicate
  | sum
  | product
  | signed
  | primary
  deriving DecidableEq, Repr

namespace Level

def rank : Level → Nat
  | disjunction => 0
  | conjunction => 1
  | negation => 2
  | predicate => 3
  | sum => 4
  | product => 5
  | signed => 6
  | primary => 7

end Level

/-- The tree of a token that is a primary phrase by itself. -/
def Token.atom? : Token → Option Expr
  | .identifier name => some (.identifier name)
  | .text s => some (.literal (.text s))
  | .integer n => some (.literal (.integer n))
  | .decimal x => some (.literal (.decimal x))
  | .keyword .true => some (.literal (.boolean true))
  | .keyword .false => some (.literal (.boolean false))
  | .keyword .null => some (.literal .null)
  | _ => none

def negator (negated : Bool) : List Token := if negated then [.keyword .not] else []

def textList (first : String) (more : List String) : List Token :=
  .text first :: more.flatMap fun s => [.comma, .text s]

/-- The tokens are a phrase of a level, which denotes the tree. -/
inductive Phrase : Level → List Token → Expr → Prop where
  | conjunction {ts : List Token} {e : Expr} : Phrase .conjunction ts e → Phrase .disjunction ts e
  | or {ts us : List Token} {l r : Expr} : Phrase .disjunction ts l → Phrase .conjunction us r →
      Phrase .disjunction (ts ++ .keyword .or :: us) (.or l r)
  | negation {ts : List Token} {e : Expr} : Phrase .negation ts e → Phrase .conjunction ts e
  | and {ts us : List Token} {l r : Expr} : Phrase .conjunction ts l → Phrase .negation us r →
      Phrase .conjunction (ts ++ .keyword .and :: us) (.and l r)
  | predicate {ts : List Token} {e : Expr} : Phrase .predicate ts e → Phrase .negation ts e
  | not {ts : List Token} {e : Expr} : Phrase .negation ts e →
      Phrase .negation (.keyword .not :: ts) (.not e)
  | operand {ts : List Token} {e : Expr} : Phrase .sum ts e → Phrase .predicate ts e
  | compare {ts us : List Token} {l r : Expr} (op : Comparison) : Phrase .sum ts l →
      Phrase .sum us r → Phrase .predicate (ts ++ .comparison op :: us) (.compare op l r)
  | isNull {ts : List Token} {e : Expr} (negated : Bool) : Phrase .sum ts e →
      Phrase .predicate (ts ++ .keyword .is :: (negator negated ++ [.keyword .null]))
        (.isNull e negated)
  | like {ts : List Token} {e : Expr} (pattern : String) (negated : Bool) : Phrase .sum ts e →
      Phrase .predicate (ts ++ (negator negated ++ [.keyword .like, .text pattern]))
        (.like e pattern none negated)
  | likeEscape {ts : List Token} {e : Expr} (pattern : String) (c : Char) (negated : Bool) :
      Phrase .sum ts e → Wildcard.Paired (some c) pattern.toList →
      Phrase .predicate (ts ++ (negator negated ++
          [.keyword .like, .text pattern, .keyword .escape, .text (String.singleton c)]))
        (.like e pattern (some c) negated)
  | between {ts us vs : List Token} {e low high : Expr} (negated : Bool) : Phrase .sum ts e →
      Phrase .sum us low → Phrase .sum vs high →
      Phrase .predicate (ts ++ (negator negated ++
          .keyword .between :: (us ++ .keyword .and :: vs)))
        (.between e low high negated)
  | within {ts : List Token} {e : Expr} (first : String) (more : List String) (negated : Bool) :
      Phrase .sum ts e →
      Phrase .predicate (ts ++ (negator negated ++
          .keyword .within :: .openParen :: (textList first more ++ [.closeParen])))
        (.within e (first :: more) negated)
  | product {ts : List Token} {e : Expr} : Phrase .product ts e → Phrase .sum ts e
  | add {ts us : List Token} {l r : Expr} : Phrase .sum ts l → Phrase .product us r →
      Phrase .sum (ts ++ .plus :: us) (.arith .add l r)
  | sub {ts us : List Token} {l r : Expr} : Phrase .sum ts l → Phrase .product us r →
      Phrase .sum (ts ++ .minus :: us) (.arith .sub l r)
  | signed {ts : List Token} {e : Expr} : Phrase .signed ts e → Phrase .product ts e
  | mul {ts us : List Token} {l r : Expr} : Phrase .product ts l → Phrase .signed us r →
      Phrase .product (ts ++ .star :: us) (.arith .mul l r)
  | div {ts us : List Token} {l r : Expr} : Phrase .product ts l → Phrase .signed us r →
      Phrase .product (ts ++ .slash :: us) (.arith .div l r)
  | primary {ts : List Token} {e : Expr} : Phrase .primary ts e → Phrase .signed ts e
  | minus {ts : List Token} {e : Expr} : Phrase .signed ts e →
      Phrase .signed (.minus :: ts) (.negate e)
  | plus {ts : List Token} {e : Expr} : Phrase .signed ts e → Phrase .signed (.plus :: ts) e
  | atom {t : Token} {e : Expr} : t.atom? = some e → Phrase .primary [t] e
  | parens {ts : List Token} {e : Expr} : Phrase .disjunction ts e →
      Phrase .primary (.openParen :: (ts ++ [.closeParen])) e

/-- An expression that shows on its face that its value is no truth. -/
inductive Expr.Valued : Expr → Prop where
  | literal {v : Operand} : (∀ b, v ≠ .boolean b) → Valued (.literal v)
  | arith (op : Arithmetic) (l r : Expr) : Valued (.arith op l r)
  | negate (e : Expr) : Valued (.negate e)

end Messaging.Selector
