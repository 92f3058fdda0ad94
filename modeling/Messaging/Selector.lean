import Messaging.Error
import Messaging.Message
import Messaging.Selector.Eval
import Messaging.Selector.Lexer
import Messaging.Selector.Parser

/-!
# Selectors

A condition on the headers and properties of a message, in a subset of the conditions of SQL.  A
message is selected when the condition is definitely true of it.
-/

namespace Messaging

structure Selector where
  source : String
  condition : Selector.Expr
  deriving DecidableEq, Repr

namespace Selector

def parseExpr (source : String) : Except Selector.Error Expr := do
  parseTokens (← scan source.toList)

def parse (source : String) : Except Messaging.Error Selector :=
  match parseExpr source with
  | .ok condition => .ok ⟨source, condition⟩
  | .error e => .error (.selector e)

/-- A blank text selects everything, as no text does. -/
def parseOptional : Option String → Except Messaging.Error (Option Selector)
  | none => .ok none
  | some source =>
    if source.toList.all Text.isBlank then .ok none else (parse source).map some

def environment (m : Message) (identifier : String) : Operand :=
  .ofLookup (m.lookup identifier)

def evaluate (e : Expr) (m : Message) : Operand := e.eval (environment m)

def selects (s : Selector) (m : Message) : Bool := (evaluate s.condition m).truth == some true

def admits (filter : Option Selector) (m : Message) : Bool := filter.all (·.selects m)

end Selector

end Messaging
