import Messaging.Selector.Token

/-!
# Selector expressions
-/

namespace Messaging.Selector

inductive Operand where
  | null
  | boolean (b : Bool)
  | integer (n : Int64)
  | decimal (x : Number.Double)
  | text (s : String)
  deriving DecidableEq, Repr

inductive Arithmetic where
  | add
  | sub
  | mul
  | div
  deriving DecidableEq, Repr

inductive Expr where
  | literal (v : Operand)
  | identifier (name : String)
  | not (e : Expr)
  | and (l r : Expr)
  | or (l r : Expr)
  | compare (op : Comparison) (l r : Expr)
  | arith (op : Arithmetic) (l r : Expr)
  | negate (e : Expr)
  | isNull (e : Expr) (negated : Bool)
  | like (e : Expr) (pattern : String) (escape : Option Char) (negated : Bool)
  | between (e low high : Expr) (negated : Bool)
  | within (e : Expr) (texts : List String) (negated : Bool)
  deriving DecidableEq, Repr

/-- Whether an expression may be a selector: not a number, a text or the like on its face. -/
def Expr.isCondition : Expr → Bool
  | .literal (.boolean _) => true
  | .literal _ | .arith .. | .negate _ => false
  | _ => true

end Messaging.Selector
