import Messaging.Number.Integer

/-!
# IPv4 addresses

Up to four numbers between dots, each in decimal, octal or hexadecimal.  The last number fills
all the bytes that the others leave.  A name is meant as an address when its last part is a
number.
-/

namespace Messaging.Uri

def splitDots : List Char → List (List Char)
  | [] => [[]]
  | c :: rest =>
    match splitDots rest with
    | part :: parts => if c = '.' then [] :: part :: parts else (c :: part) :: parts
    | [] => [[c]]

end Messaging.Uri

namespace Messaging.Uri.Ipv4

def readOctal? (cs : List Char) : Option Nat :=
  if cs.all fun c => '0' ≤ c && c ≤ '7' then some (Nat.ofDigitChars 8 cs 0) else none

/-- A number in hexadecimal after `0x`, in octal after another zero, or in decimal. -/
def readNumber? : List Char → Option Nat
  | '0' :: c :: digits =>
    if c = 'x' ∨ c = 'X' then
      if digits.isEmpty then some 0 else Number.readHex? digits
    else readOctal? (c :: digits)
  | cs => Number.readNat? cs

/-- The parts of a name without the empty one after a dot at its end. -/
def parts (name : List Char) : List (List Char) :=
  let parts := splitDots name
  if parts.getLast? = some [] then parts.dropLast else parts

def isMeant (name : List Char) : Bool :=
  match (parts name).getLast? with
  | some last => (!last.isEmpty && last.all Char.isDigit) || (readNumber? last).isSome
  | none => false

def join? : (room : Nat) → List Nat → Option Nat
  | 0, _ | _, [] => none
  | room + 1, [n] => if n < Nat.pow 256 (room + 1) then some n else none
  | room + 1, n :: numbers =>
    if n < 256 then (join? room numbers).map (n * Nat.pow 256 room + ·) else none

def read? (name : List Char) : Option Nat :=
  ((parts name).mapM readNumber?).bind (join? 4)

def write (address : Nat) : List Char :=
  let byte (i : Nat) := Nat.toDigits 10 (address / Nat.pow 256 i % 256)
  ['.'].intercalate [byte 3, byte 2, byte 1, byte 0]

end Messaging.Uri.Ipv4
