import Messaging.Number.Decimal

/-!
# Tokens of selectors

The words of the selector language and how an error message names them.
-/

namespace Messaging.Selector

inductive Keyword where
  | and
  | or
  | not
  | between
  | like
  | escape
  | within
  | is
  | null
  | true
  | false
  deriving DecidableEq, Repr

namespace Keyword

def all : List Keyword :=
  [and, or, not, between, like, escape, within, is, null, true, false]

def word : Keyword → String
  | and => "AND"
  | or => "OR"
  | not => "NOT"
  | between => "BETWEEN"
  | like => "LIKE"
  | escape => "ESCAPE"
  | within => "IN"
  | is => "IS"
  | null => "NULL"
  | true => "TRUE"
  | false => "FALSE"

def name : Keyword → String
  | and => "And"
  | or => "Or"
  | not => "Not"
  | between => "Between"
  | like => "Like"
  | escape => "Escape"
  | within => "In"
  | is => "Is"
  | null => "Null"
  | true => "True"
  | false => "False"

def ofWord? (word : List Char) : Option Keyword :=
  let upper := word.map Char.toUpper
  all.find? fun k => k.word.toList == upper

end Keyword

inductive Comparison where
  | equal
  | notEqual
  | less
  | lessOrEqual
  | greater
  | greaterOrEqual
  deriving DecidableEq, Repr

def Comparison.symbol : Comparison → String
  | equal => "="
  | notEqual => "<>"
  | less => "<"
  | lessOrEqual => "<="
  | greater => ">"
  | greaterOrEqual => ">="

inductive Token where
  | identifier (name : String)
  | text (s : String)
  | integer (n : Int64)
  | decimal (x : Number.Double)
  | keyword (k : Keyword)
  | comparison (op : Comparison)
  | plus
  | minus
  | star
  | slash
  | openParen
  | closeParen
  | comma
  deriving DecidableEq, Repr

def Token.describe : Token → String
  | identifier name => s!"identifier `{name}`"
  | text s => s!"string '{s}'"
  | integer n => s!"number {n}"
  | decimal x => s!"number {x.text}"
  | keyword k => s!"keyword {k.name}"
  | comparison op => s!"`{op.symbol}`"
  | plus => "`+`"
  | minus => "`-`"
  | star => "`*`"
  | slash => "`/`"
  | openParen => "`(`"
  | closeParen => "`)`"
  | comma => "`,`"

/-! ## Errors -/

inductive Error where
  | unterminatedText
  | unexpectedCharacter (c : Char)
  | badNumber (spelling : String)
  | unexpectedEnd
  | unexpected (found : Token)
  | trailing (found : Token)
  | expectedKeyword (k : Keyword)
  | expectedToken (wanted : Token) (found : Option Token)
  | expectedText (found : Option Token)
  | expectedAfterNot
  | escapeNotOneCharacter
  | danglingEscape
  | notBoolean
  deriving DecidableEq, Repr

namespace Error

def found : Option Token → String
  | some token => token.describe
  | none => "end of input"

def message : Error → String
  | unterminatedText => "unterminated string literal"
  | unexpectedCharacter c => s!"unexpected character `{c}`"
  | badNumber spelling => s!"bad number `{spelling}`"
  | unexpectedEnd => "unexpected end of input"
  | unexpected token => s!"unexpected {token.describe}"
  | trailing token => s!"unexpected {token.describe} after expression"
  | expectedKeyword k => s!"expected {k.name}"
  | expectedToken wanted token => s!"expected {wanted.describe}, found {found token}"
  | expectedText token => s!"expected string literal, found {found token}"
  | expectedAfterNot => "expected LIKE, BETWEEN or IN after NOT"
  | escapeNotOneCharacter => "ESCAPE must be a single character"
  | danglingEscape => "LIKE pattern ends with the escape character"
  | notBoolean => "selector must be a boolean expression"

end Error

end Messaging.Selector
