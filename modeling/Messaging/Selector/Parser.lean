import Messaging.Selector.Expr
import Messaging.Selector.Wildcard

/-!
# Parsing

The grammar of selectors, one level of precedence after the other.  Each level takes the parser
for what stands in parentheses as an argument; `expression` ties the knot, with as many levels of
nesting as there are tokens.
-/

namespace Messaging.Selector

abbrev Parser := List Token → Except Error (Expr × List Token)

namespace Parser

/-! ## Chains of operators -/

/--
Operands joined by operators of one level, from left to right.  `fuel` bounds the number of
operators that are still to be read.
-/
def chain (operand : Parser) (join? : Token → Option (Expr → Expr → Expr)) :
    (fuel : Nat) → Expr → Parser
  | fuel + 1, lhs, t :: ts =>
    match join? t with
    | some join => do
      let (rhs, ts) ← operand ts
      chain operand join? fuel (join lhs rhs) ts
    | none => .ok (lhs, t :: ts)
  | _, lhs, ts => .ok (lhs, ts)

def chainOf (operand : Parser) (join? : Token → Option (Expr → Expr → Expr)) : Parser :=
  fun ts => do
    let (lhs, ts) ← operand ts
    chain operand join? ts.length lhs ts

def disjunction? : Token → Option (Expr → Expr → Expr)
  | .keyword .or => some .or
  | _ => none

def conjunction? : Token → Option (Expr → Expr → Expr)
  | .keyword .and => some .and
  | _ => none

def sum? : Token → Option (Expr → Expr → Expr)
  | .plus => some (.arith .add)
  | .minus => some (.arith .sub)
  | _ => none

def product? : Token → Option (Expr → Expr → Expr)
  | .star => some (.arith .mul)
  | .slash => some (.arith .div)
  | _ => none

/-! ## Operands -/

def primary (inner : Parser) : Parser
  | .identifier name :: ts => .ok (.identifier name, ts)
  | .text s :: ts => .ok (.literal (.text s), ts)
  | .integer n :: ts => .ok (.literal (.integer n), ts)
  | .decimal x :: ts => .ok (.literal (.decimal x), ts)
  | .keyword .true :: ts => .ok (.literal (.boolean true), ts)
  | .keyword .false :: ts => .ok (.literal (.boolean false), ts)
  | .keyword .null :: ts => .ok (.literal .null, ts)
  | .openParen :: ts => do
    match ← inner ts with
    | (e, .closeParen :: ts) => return (e, ts)
    | (_, t :: _) => throw (.expectedToken .closeParen (some t))
    | (_, []) => throw (.expectedToken .closeParen none)
  | t :: _ => .error (.unexpected t)
  | [] => .error .unexpectedEnd

def unary (inner : Parser) : Parser
  | .minus :: ts => do
    let (e, ts) ← unary inner ts
    return (.negate e, ts)
  | .plus :: ts => unary inner ts
  | ts => primary inner ts

def multiplicative (inner : Parser) : Parser := chainOf (unary inner) product?

def additive (inner : Parser) : Parser := chainOf (multiplicative inner) sum?

/-! ## Predicates -/

def literal : List Token → Except Error (String × List Token)
  | .text s :: ts => .ok (s, ts)
  | t :: _ => .error (.expectedText (some t))
  | [] => .error (.expectedText none)

def null : List Token → Except Error (List Token)
  | .keyword .null :: ts => .ok ts
  | _ => .error (.expectedKeyword .null)

def escape : List Token → Except Error (Option Char × List Token)
  | .keyword .escape :: ts => do
    let (s, ts) ← literal ts
    match s.toList with
    | [c] => return (some c, ts)
    | _ => throw .escapeNotOneCharacter
  | ts => .ok (none, ts)

def like (e : Expr) (negated : Bool) : Parser := fun ts => do
  let (pattern, ts) ← literal ts
  let (escape, ts) ← escape ts
  match Wildcard.compile? escape pattern.toList with
  | some _ => return (.like e pattern escape negated, ts)
  | none => throw .danglingEscape

def between (inner : Parser) (e : Expr) (negated : Bool) : Parser := fun ts => do
  let (low, ts) ← additive inner ts
  match ts with
  | .keyword .and :: ts => do
    let (high, ts) ← additive inner ts
    return (.between e low high negated, ts)
  | _ => throw (.expectedKeyword .and)

def moreTexts : List Token → Except Error (List String × List Token)
  | .comma :: .text s :: ts => do
    let (texts, ts) ← moreTexts ts
    return (s :: texts, ts)
  | .comma :: ts => do
    let (s, ts) ← literal ts
    return ([s], ts)
  | ts => .ok ([], ts)

def within (e : Expr) (negated : Bool) : Parser
  | .openParen :: ts => do
    let (first, ts) ← literal ts
    let (texts, ts) ← moreTexts ts
    match ts with
    | .closeParen :: ts => return (.within e (first :: texts) negated, ts)
    | t :: _ => throw (.expectedToken .closeParen (some t))
    | [] => throw (.expectedToken .closeParen none)
  | t :: _ => .error (.expectedToken .openParen (some t))
  | [] => .error (.expectedToken .openParen none)

def test (inner : Parser) (e : Expr) (negated : Bool) : Parser
  | .keyword .like :: ts => like e negated ts
  | .keyword .between :: ts => between inner e negated ts
  | .keyword .within :: ts => within e negated ts
  | ts => if negated then .error .expectedAfterNot else .ok (e, ts)

def predicateTail (inner : Parser) (e : Expr) : Parser
  | .comparison op :: ts => do
    let (rhs, ts) ← additive inner ts
    return (.compare op e rhs, ts)
  | .keyword .is :: .keyword .not :: ts => do
    let ts ← null ts
    return (.isNull e true, ts)
  | .keyword .is :: ts => do
    let ts ← null ts
    return (.isNull e false, ts)
  | .keyword .not :: ts => test inner e true ts
  | ts => test inner e false ts

def predicate (inner : Parser) : Parser := fun ts => do
  let (e, ts) ← additive inner ts
  predicateTail inner e ts

/-! ## Connectives -/

def negation (inner : Parser) : Parser
  | .keyword .not :: ts => do
    let (e, ts) ← negation inner ts
    return (.not e, ts)
  | ts => predicate inner ts

def conjunction (inner : Parser) : Parser := chainOf (negation inner) conjunction?

def disjunction (inner : Parser) : Parser := chainOf (conjunction inner) disjunction?

def expression : (depth : Nat) → Parser
  | 0 => fun _ => .error .unexpectedEnd
  | depth + 1 => disjunction (expression depth)

end Parser

def parseTokens (ts : List Token) : Except Error Expr := do
  match ← Parser.expression (ts.length + 1) ts with
  | (_, t :: _) => throw (.trailing t)
  | (e, []) => if e.isCondition then return e else throw .notBoolean

end Messaging.Selector
