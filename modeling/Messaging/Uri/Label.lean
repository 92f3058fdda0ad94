import Messaging.Text.Composition
import Messaging.Text.Direction
import Messaging.Text.Joining
import Messaging.Uri.Folding
import Messaging.Uri.Punycode

/-!
# Labels of domain names

A label is what stands between two dots of a name.  It may be written in Punycode.  It must not
begin with a mark, its joiners need something to join, and in a name with letters that are
written from right to left it has one direction.
-/

namespace Messaging.Uri.Label

open Text

/-! ## Text -/

def isRefused (c : Char) : Bool :=
  c.toNat ≤ 0x20 || c.toNat == 0x7F || "#%/:<>?@[\\]^|".toList.contains c

def isAscii (text : List Char) : Bool := text.all (·.toNat < 0x80)

def isSteady (text : List Char) : Bool :=
  text.all (fun c => fold? c == some [c]) && Composition.compose text == text

def longestCode : Nat := 2000

/--
The text that a folded label stands for.  What is written in Punycode has to be a text that is
not ASCII and could not be written in another way.
-/
def read? (label : List Char) : Option (List Char) :=
  if label.any isRefused then none
  else if "xn--".toList.isPrefixOf label then
    let code := label.drop 4
    if longestCode < code.length then none
    else (Punycode.decode? code).filter fun text => !isAscii text && isSteady text
  else some label

/-! ## Joiners -/

def nonJoiner : Char := '\u200C'

def joiner : Char := '\u200D'

def reaches (ways : List Joining) (text : List Char) : Bool :=
  match text.find? fun c => Joining.ofChar c != .transparent with
  | some c => ways.contains (Joining.ofChar c)
  | none => false

/-- A joiner follows a virama; a non-joiner may also part two letters that would join. -/
def joins (before : List Char) (c : Char) (after : List Char) : Bool :=
  (before.head?.map isVirama).getD false ||
    (c == nonJoiner && reaches [.left, .both] before && reaches [.right, .both] after)

def joinersFit (before : List Char) : List Char → Bool
  | [] => true
  | c :: after =>
    (!(c == joiner || c == nonJoiner) || joins before c after) && joinersFit (c :: before) after

/-! ## Rules -/

def longest : Nat := 1000

def isWellFormed (text : List Char) : Bool :=
  !(text.head?.map isMark).getD false && joinersFit [] text &&
    (isAscii text || text.length ≤ longest)

def needsDirection (text : List Char) : Bool :=
  text.any fun c => [Direction.rightToLeft, .arabicDigit].contains (Direction.ofChar c)

def lastDirection? (directions : List Direction) : Option Direction :=
  directions.reverse.find? (· != .mark)

/--
A label has the direction of its first character, which is a letter.  It holds no letters of the
other direction and ends in a letter or a digit; one that is written from right to left does not
mix the two kinds of digits, and one that is written from left to right has no Arabic ones.
-/
def isDirected (text : List Char) : Bool :=
  let directions := text.map Direction.ofChar
  let endsIn (ends : List Direction) := (lastDirection? directions).any ends.contains
  match directions.head? with
  | none => true
  | some .leftToRight =>
    endsIn [.leftToRight, .europeanDigit] &&
      !directions.contains .rightToLeft && !directions.contains .arabicDigit
  | some .rightToLeft =>
    endsIn [.rightToLeft, .europeanDigit, .arabicDigit] && !directions.contains .leftToRight &&
      !(directions.contains .europeanDigit && directions.contains .arabicDigit)
  | some _ => false

end Messaging.Uri.Label
