/-!
# Punycode

Texts outside ASCII as letters, digits and hyphens.  The ASCII characters come first, up to the
last hyphen.  After it each number says how far to go on, through all places of the text and all
characters in order, to the next character and its place.
-/

namespace Messaging.Uri.Punycode

def digit? (c : Char) : Option Nat :=
  if c.isDigit then some (c.toNat - '0'.toNat + 26)
  else if c.isAlpha then some (c.toLower.toNat - 'a'.toNat)
  else none

/-- The digits below this bound end a number. -/
def bound (position bias : Nat) : Nat :=
  if position ≤ bias then 1 else if bias + 26 ≤ position then 26 else position - bias

/-- Numbers, and the weights of their digits, have 32 bits. -/
def limit : Nat := 4294967296

def readNumber? (bias position weight value : Nat) :
    (cs : List Char) → Option (Nat × { rest : List Char // rest.length < cs.length })
  | [] => none
  | c :: cs => do
    let d ← digit? c
    let value := value + d * weight
    let bound := bound position bias
    if limit ≤ value then none
    else if d < bound then some (value, ⟨cs, by simp⟩)
    else if limit ≤ weight * (36 - bound) then none
    else
      let (value, rest) ← readNumber? bias (position + 36) (weight * (36 - bound)) value cs
      some (value, ⟨rest.1, by
        have := rest.2
        simp only [List.length_cons]
        omega⟩)

def adapt (size : Nat) : Nat :=
  if 455 < size then 36 + adapt (size / 35) else 36 * size / (size + 38)
termination_by size
decreasing_by exact Nat.div_lt_self (by omega) (by omega)

/-- How far the numbers have come: all places for a character, then those for the next one. -/
structure State where
  text : List Char
  char : Nat := 0x80
  place : Nat := 0
  bias : Nat := 72
  damping : Nat := 700
  deriving DecidableEq, Repr

def State.insert? (s : State) (place : Nat) : Option State :=
  let length := s.text.length + 1
  let char := s.char + place / length
  let size := (place - s.place) / s.damping
  if char.isValidChar then
    some ⟨s.text.insertIdx (place % length) (Char.ofNat char), char, place % length + 1,
      adapt (size + size / length), 2⟩
  else none

def insertAll? (s : State) (cs : List Char) : Option (List Char) :=
  if cs.isEmpty then some s.text
  else
    match readNumber? s.bias 36 1 s.place cs with
    | none => none
    | some (place, rest) =>
      match s.insert? place with
      | none => none
      | some s => insertAll? s rest.1
termination_by cs.length
decreasing_by exact rest.2

/--
The text that a run of ASCII letters, digits and hyphens stands for.  A hyphen at the very start
parts nothing and is no digit.
-/
def decode? (cs : List Char) : Option (List Char) :=
  let numbers := (cs.reverse.takeWhile (· != '-')).reverse
  let text := cs.take (cs.length - numbers.length - 1)
  if cs.any (0x80 ≤ ·.toNat) || cs.length = numbers.length + 1 then none
  else insertAll? { text } numbers

end Messaging.Uri.Punycode
