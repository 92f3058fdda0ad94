import Messaging.Selector.Expr
import Messaging.Selector.Truth
import Messaging.Selector.Wildcard
import Messaging.Value

/-!
# Evaluation

The value of an expression over the identifiers of a message.  An operation on operands that it
does not apply to is null, and a null where a truth is asked for is unknown.  Integer arithmetic
that leaves the range of a long is null too.
-/

namespace Messaging.Selector

open Number

namespace Operand

/-- A selector sees integers of every width as long, and no byte arrays. -/
def ofValue : Value → Operand
  | .boolean b => boolean b
  | .byte n => integer n.toInt64
  | .short n => integer n.toInt64
  | .int n => integer n.toInt64
  | .long n => integer n
  | .float x => decimal (Double.ofSingle x)
  | .double x => decimal x
  | .char u => text (Value.char u).text
  | .string s => text s
  | .bytes _ => null

def ofLookup : Option Value → Operand
  | some v => ofValue v
  | none => null

def truth : Operand → Truth
  | boolean b => some b
  | _ => none

def ofTruth : Truth → Operand
  | some b => boolean b
  | none => null

def toDouble? : Operand → Option Double
  | integer n => some (Double.ofInt n.toInt)
  | decimal x => some x
  | _ => none

def ofInt (n : Int) : Operand :=
  if Int64.minValue.toInt ≤ n ∧ n ≤ Int64.maxValue.toInt then integer (Int64.ofInt n) else null

/-! ## Comparison -/

/--
How two operands compare.  Integers compare exactly, an integer and a floating-point number as
floating-point numbers, and texts and truths are equal or not without an order.
-/
def order? (l r : Operand) : Option Ordering :=
  match l, r with
  | integer a, integer b => some (compare a.toInt b.toInt)
  | l, r => do (← l.toDouble?).compare? (← r.toDouble?)

def same? : Operand → Operand → Truth
  | text a, text b => some (a == b)
  | boolean a, boolean b => some (a == b)
  | _, _ => none

end Operand

def Comparison.holds : Comparison → Ordering → Bool
  | equal, o => o.isEq
  | notEqual, o => o.isNe
  | less, o => o.isLT
  | lessOrEqual, o => o.isLE
  | greater, o => o.isGT
  | greaterOrEqual, o => o.isGE

def Comparison.eval (op : Comparison) (l r : Operand) : Truth :=
  match op, l.same? r with
  | equal, some b => some b
  | notEqual, some b => some (!b)
  | op, _ => (l.order? r).map op.holds

/-! ## Arithmetic -/

def Arithmetic.onInt : Arithmetic → Int → Int → Option Int
  | add, a, b => some (a + b)
  | sub, a, b => some (a - b)
  | mul, a, b => some (a * b)
  | div, a, b => if b = 0 then none else some (a.tdiv b)

def Arithmetic.onDouble : Arithmetic → Double → Double → Double
  | add, x, y => x + y
  | sub, x, y => x - y
  | mul, x, y => x * y
  | div, x, y => x / y

def Arithmetic.eval (op : Arithmetic) (l r : Operand) : Operand :=
  match l, r with
  | .integer a, .integer b => ((op.onInt a.toInt b.toInt).map Operand.ofInt).getD .null
  | l, r =>
    match l.toDouble?, r.toDouble? with
    | some x, some y => .decimal (op.onDouble x y)
    | _, _ => .null

def Operand.negate : Operand → Operand
  | integer n => ofInt (-n.toInt)
  | decimal x => decimal (-x)
  | _ => null

/-! ## Tests on text -/

def matchesPattern (pattern : String) (escape : Option Char) (s : String) : Bool :=
  match Wildcard.compile? escape pattern.toList with
  | some places => Wildcard.accepts places s.toList
  | none => false

def Operand.test (p : String → Bool) : Operand → Truth
  | text s => some (p s)
  | _ => none

/-! ## Expressions -/

def Expr.eval (env : String → Operand) : Expr → Operand
  | literal v => v
  | identifier name => env name
  | not e => .ofTruth (e.eval env).truth.not
  | and l r => .ofTruth ((l.eval env).truth.and (r.eval env).truth)
  | or l r => .ofTruth ((l.eval env).truth.or (r.eval env).truth)
  | compare op l r => .ofTruth (op.eval (l.eval env) (r.eval env))
  | arith op l r => op.eval (l.eval env) (r.eval env)
  | negate e => (e.eval env).negate
  | isNull e negated => .boolean ((e.eval env == .null) != negated)
  | like e pattern escape negated =>
    .ofTruth (((e.eval env).test (matchesPattern pattern escape)).negateIf negated)
  | between e low high negated =>
    let v := e.eval env
    let above := Comparison.greaterOrEqual.eval v (low.eval env)
    let below := Comparison.lessOrEqual.eval v (high.eval env)
    .ofTruth ((above.and below).negateIf negated)
  | within e texts negated =>
    .ofTruth (((e.eval env).test texts.contains).negateIf negated)

end Messaging.Selector
